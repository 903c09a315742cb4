/-
What an entry has of its call. Component, fields and stack are put together under names of their own, so they are all
there, unless the message happens to hold a format token: then the text is all that is left. Written as an object, an
entry is one line in which its fields are found again.

- `Call.Sound`, `allFields_eq`: the fields of a call, with component and stack, each under a name of its own.
- `entry?_eq`: the entry of a call, in the cases there are.
- `carries_iff`: when an entry carries all that its call brought.
- `read?_objectForm`: what is read of the line of an entry.
-/
import EnquiryMail.Log.Layout
import EnquiryMail.Proofs.Json.Line

namespace EnquiryMail.Log

open EnquiryMail.Json (Fields reread sorted compact read?)

/-! ## Format tokens -/

theorem hasToken_of_not_mem {cs : List Char} (h : '%' ∉ cs) : hasToken cs = false := by
  induction cs with
  | nil => rfl
  | cons c cs ih =>
    obtain ⟨hc, hcs⟩ := not_or.1 (mt List.mem_cons.2 h)
    rw [hasToken, ih hcs]
    exact fun c' rest hpercent _ => hc hpercent.symm

/-- no format token goes across a blank -/
theorem hasToken_append_blank (a b : List Char) : hasToken (a ++ ' ' :: b) = (hasToken a || hasToken b) := by
  have hblank : ∀ cs, hasToken (' ' :: cs) = hasToken cs := by
    intro cs
    simp [hasToken]
  fun_induction hasToken a with
  | case1 c rest ih =>
    rw [List.cons_append, List.cons_append, hasToken, ← List.cons_append, ih, Bool.or_assoc]
  | case2 c rest hno ih =>
    rw [← ih]
    cases rest with
    | nil =>
      by_cases hc : c = '%'
      · simp [hc, hasToken]
      · simp [hasToken, hc]
    | cons c' rest =>
      rw [List.cons_append, List.cons_append, hasToken]
      exact fun c'' rest' hc _ => hno c' rest hc rfl
  | case3 => rw [List.nil_append, hblank, Bool.false_or]

/-! ## Fields of a call -/

/-- the names under which a call puts what is not among its fields -/
def Call.ownNames : List String := ["level", "message", "component", "errorStack"]

/-- fields under names of their own, which are not those of the call -/
structure Call.Sound (c : Call) : Prop where
  names : (c.fields.map Prod.fst).Nodup
  free : ∀ name ∈ Call.ownNames, name ∉ c.fields.map Prod.fst

/-- the field of the stack, if there is one to tell -/
def Call.stackField (c : Call) : Fields :=
  match c.stack with
  | some s => if s = "" then [] else [("errorStack", .str s)]
  | none => []

variable {c : Call} {e : Entry}

/-- a name stands once among all that a call brings -/
theorem Call.nodup_allFields (c : Call) : (c.allFields.map Prod.fst).Nodup := by
  have hfold : ∀ (fs acc : Fields), (acc.map Prod.fst).Nodup →
      ((fs.foldl (fun acc f => Fields.set f.1 f.2 acc) acc).map Prod.fst).Nodup := by
    intro fs
    induction fs with
    | nil => exact fun acc h => h
    | cons f fs ih => exact fun acc h => ih _ (Json.nodup_set h f.1 f.2)
  have hfields := hfold c.fields [("component", .str c.component)] (List.nodup_singleton _)
  unfold Call.allFields
  dsimp only
  split
  · split
    · exact hfields
    · exact Json.nodup_set hfields _ _
  · exact hfields

/-- **All that a call brings**: its component, its own fields, and its stack. -/
theorem Call.Sound.allFields_eq (h : c.Sound) :
    c.allFields = ("component", .str c.component) :: (c.fields ++ c.stackField) := by
  have hcomponent : "component" ∉ c.fields.map Prod.fst := h.free _ (by decide)
  have hstack : "errorStack" ∉ c.fields.map Prod.fst := h.free _ (by decide)
  have hfold : c.fields.foldl (fun acc f => Fields.set f.1 f.2 acc) [("component", .str c.component)] =
      ("component", .str c.component) :: c.fields := by
    refine Json.foldl_set ?_
    simpa using ⟨by simpa using hcomponent, h.names⟩
  unfold Call.allFields Call.stackField
  rw [hfold]
  cases c.stack with
  | none => simp
  | some s =>
    dsimp only
    split
    · simp
    · rw [Json.set_eq, Named.put_of_not_mem (by simpa using hstack)]
      rfl

theorem Call.names_stackField (c : Call) : ∀ f ∈ c.stackField, f.1 = "errorStack" := by
  unfold Call.stackField
  split
  · split <;> simp
  · simp

/-- the names of all that a call brings -/
theorem Call.Sound.mem_names (h : c.Sound) {name : String} (hcomponent : name ≠ "component")
    (hstack : name ≠ "errorStack") : name ∈ c.allFields.map Prod.fst ↔ name ∈ c.fields.map Prod.fst := by
  have hnone : name ∉ c.stackField.map Prod.fst := by
    intro hmem
    obtain ⟨f, hf, rfl⟩ := List.mem_map.1 hmem
    exact hstack (c.names_stackField f hf)
  rw [h.allFields_eq, List.map_cons, List.map_append, List.mem_cons, List.mem_append]
  simp only [hcomponent, hnone, false_or, or_false]

/-- what is found under a name is what a call brings under it -/
theorem Call.Sound.get?_allFields (h : c.Sound) {name : String} {value : Json} :
    Fields.get? c.allFields name = some value ↔
      (name, value) ∈ ("component", .str c.component) :: (c.fields ++ c.stackField) := by
  rw [← h.allFields_eq]
  exact Named.lookup_eq_some c.nodup_allFields

/-- what is found under a name that the call does not use itself is one of its fields -/
theorem Call.Sound.get?_own (h : c.Sound) {name : String} {value : Json} (hcomponent : name ≠ "component")
    (hstack : name ≠ "errorStack") : Fields.get? c.allFields name = some value ↔ (name, value) ∈ c.fields := by
  have hnone : (name, value) ∉ c.stackField := fun hmem => hstack (c.names_stackField _ hmem)
  rw [h.get?_allFields]
  simp [hcomponent, hnone]

/-- the stack is found under its name if there is one to tell -/
theorem Call.Sound.get?_stack (h : c.Sound) :
    Fields.get? c.allFields "errorStack" = (c.stack.filter (· ≠ "")).map .str := by
  have hfree : "errorStack" ∉ c.fields.map Prod.fst := h.free _ (by decide)
  rw [h.allFields_eq, Fields.get?, List.lookup_cons, List.lookup_append, Named.lookup_of_not_mem hfree]
  unfold Call.stackField
  cases c.stack with
  | none => rfl
  | some s => by_cases hs : s = "" <;> simp [hs, Option.filter]

/-! ## Entries -/

/-- a call makes no entry exactly when it has no format token and its fields mark an exception -/
theorem entry?_eq_none : c.entry? = none ↔ hasToken c.message.toList = false ∧ isException c.allFields = true := by
  unfold Call.entry?
  split
  · simp_all
  · split <;> simp_all

/-- the entry of a sound call with neither token nor mark -/
theorem Call.Sound.entry?_eq (h : c.Sound) (htoken : hasToken c.message.toList = false)
    (hexception : isException c.allFields = false) :
    c.entry? = some ⟨c.level, c.message, c.allFields.erase behind⟩ := by
  have hmessage : "message" ∉ c.allFields.map Prod.fst := by
    rw [h.mem_names (by decide) (by decide)]
    exact h.free _ (by decide)
  have hlevel : "level" ∉ c.allFields.map Prod.fst := by
    rw [h.mem_names (by decide) (by decide)]
    exact h.free _ (by decide)
  rw [Call.entry?, if_neg (by simp [htoken]), if_neg (by simp [hexception]), Fields.get?,
    Named.lookup_of_not_mem hmessage, Json.erase_of_not_mem hmessage, Json.erase_of_not_mem hlevel]

/-- an entry says what its call says, and carries its component, its fields and its stack -/
structure Entry.Carries (e : Entry) (c : Call) : Prop where
  level : e.level = c.level
  message : e.message = c.message
  component : Fields.get? e.fields "component" = some (.str c.component)
  fields : ∀ f ∈ c.fields, Fields.get? e.fields f.1 = some f.2
  stack : ∀ s ∈ c.stack, s ≠ "" → Fields.get? e.fields "errorStack" = some (.str s)

/-- a call whose entry can carry all that it brings: its message holds no format token, its fields do not mark an
exception, and none has the name that stands for fields behind the others -/
structure Call.Plain (c : Call) : Prop where
  message : hasToken c.message.toList = false
  unmarked : ("exception", .bool true) ∉ c.fields
  shown : behind ∉ c.fields.map Prod.fst

/-- without fields behind the others only an own mark counts -/
theorem Call.Sound.isException_eq (h : c.Sound) (hshown : behind ∉ c.fields.map Prod.fst) :
    isException c.allFields = true ↔ ("exception", .bool true) ∈ c.fields := by
  have hbehind : Fields.get? c.allFields behind = none := by
    refine Named.lookup_of_not_mem ?_
    rwa [h.mem_names (by decide) (by decide)]
  have hlook : lookBehind c.allFields "exception" = Fields.get? c.allFields "exception" := by
    unfold lookBehind
    rw [hbehind]
    cases Fields.get? c.allFields "exception" <;> rfl
  have hown : Fields.get? c.allFields "exception" = some (.bool true) ↔ ("exception", .bool true) ∈ c.fields :=
    h.get?_own (by decide) (by decide)
  rw [← hown, isException, hlook]
  split
  · rename_i b hb
    rw [hb]
    simp
  · rename_i hother
    simpa using hother true

/-- the entry of a plain call has all that the call brings -/
theorem Call.Sound.entry?_of_plain (h : c.Sound) (hplain : c.Plain) :
    c.entry? = some ⟨c.level, c.message, c.allFields.erase behind⟩ := by
  refine h.entry?_eq hplain.message ?_
  rw [← Bool.not_eq_true, h.isException_eq hplain.shown]
  exact hplain.unmarked

/-- a field of the one name that is never carried is gone -/
theorem get?_behind (he : c.entry? = some e) : Fields.get? e.fields behind = none := by
  unfold Call.entry? at he
  split at he
  · cases he
    rfl
  split at he
  · cases he
  · cases he
    exact Json.get?_erase behind _

/-- **When nothing is lost.** The entry of a sound call carries its component, its fields and its stack exactly when its
message holds no format token, its fields do not mark an exception, and none has the one name that is never carried. -/
theorem carries_iff (h : c.Sound) : (∃ e, c.entry? = some e ∧ e.Carries c) ↔ c.Plain := by
  constructor
  -- a token would have taken the component, the one name its field, a mark the whole entry
  · rintro ⟨e, he, hcarries⟩
    have hmessage : hasToken c.message.toList = false := by
      by_contra htoken
      rw [entry?_of_token c (by simpa using htoken)] at he
      cases he
      cases hcarries.component
    have hshown : behind ∉ c.fields.map Prod.fst := by
      intro hmem
      obtain ⟨f, hf, hname⟩ := List.mem_map.1 hmem
      have hfound := hcarries.fields f hf
      rw [hname, get?_behind he] at hfound
      cases hfound
    refine ⟨hmessage, fun hmark => ?_, hshown⟩
    rw [entry?_eq_none.2 ⟨hmessage, (h.isException_eq hshown).2 hmark⟩] at he
    cases he
  · intro hplain
    refine ⟨_, h.entry?_of_plain hplain, ?_⟩
    have hfound : ∀ f ∈ ("component", Json.str c.component) :: (c.fields ++ c.stackField), f.1 ≠ behind →
        Fields.get? (c.allFields.erase behind) f.1 = some f.2 := by
      intro f hf hname
      rw [Json.get?_erase_of_ne hname]
      exact h.get?_allFields.2 hf
    constructor
    case level => rfl
    case message => rfl
    case component => exact hfound _ List.mem_cons_self (by simp [behind])
    case fields =>
      intro f hf
      refine hfound f (List.mem_cons_of_mem _ (List.mem_append_left _ hf)) ?_
      intro hname
      exact hplain.shown (hname ▸ List.mem_map_of_mem hf)
    case stack =>
      intro s hs hne
      have hfield : c.stackField = [("errorStack", .str s)] := by
        rw [Call.stackField, Option.mem_def.1 hs]
        exact if_neg hne
      refine hfound ("errorStack", .str s) ?_ (by simp [behind])
      rw [hfield]
      simp

/-- names that fields do not have: those that a call puts in itself, and those that are not what they seem -/
def reserved : List String := Call.ownNames ++ ["exception", behind]

/-- names that stand once, none of them reserved -/
def tidyNames (names : List String) : Bool := decide names.Nodup && reserved.all fun name => !names.contains name

/-- a call whose fields have such names -/
def Call.Tidy (c : Call) : Prop := tidyNames (c.fields.map Prod.fst) = true

theorem Call.Tidy.not_mem (h : c.Tidy) {name : String} (hname : name ∈ reserved) : name ∉ c.fields.map Prod.fst := by
  simp only [Call.Tidy, tidyNames, Bool.and_eq_true, List.all_eq_true] at h
  simpa using h.2 name hname

theorem Call.Tidy.sound (h : c.Tidy) : c.Sound where
  names := by
    simp only [Call.Tidy, tidyNames, Bool.and_eq_true, decide_eq_true_eq] at h
    exact h.1
  free name hname := h.not_mem (List.mem_append_left _ hname)

/-- a tidy call is plain exactly when its message holds no format token -/
theorem Call.Tidy.plain_iff (h : c.Tidy) : c.Plain ↔ hasToken c.message.toList = false := by
  constructor
  · exact fun hplain => hplain.message
  · intro hmessage
    refine ⟨hmessage, fun hmark => ?_, h.not_mem (by decide)⟩
    exact h.not_mem (by decide) (List.mem_map_of_mem hmark)

/-- **A tidy call makes an entry.** -/
theorem Call.Tidy.exists_entry (h : c.Tidy) : ∃ e, c.entry? = some e := by
  cases htoken : hasToken c.message.toList with
  | true => exact ⟨_, entry?_of_token c htoken⟩
  | false => exact ⟨_, h.sound.entry?_of_plain (h.plain_iff.2 htoken)⟩

/-! ## Lines of objects -/

theorem nodup_entry (he : c.entry? = some e) : (e.fields.map Prod.fst).Nodup := by
  unfold Call.entry? at he
  split at he
  · cases he
    exact List.nodup_nil
  split at he
  · cases he
  · cases he
    exact Json.nodup_erase (Json.nodup_erase (Json.nodup_erase c.nodup_allFields _) _) _

/-- a value as it is found in a line -/
def told (value : Json) : Json := reread (sorted value)

theorem told_str (s : String) : told (.str s) = .str s := by
  rw [told, sorted, reread]

/-- the fields of an entry, with its level and its message over them -/
def Entry.headed (e : Entry) : Fields :=
  Fields.set "message" (.str e.message) (Fields.set "level" (.str e.level.lowerName) e.fields)

theorem nodup_headed (h : (e.fields.map Prod.fst).Nodup) : (e.headed.map Prod.fst).Nodup :=
  Json.nodup_set (Json.nodup_set h _ _) _ _

theorem get?_headed_level (e : Entry) : Fields.get? e.headed "level" = some (.str e.level.lowerName) := by
  rw [Entry.headed, Json.get?_set_of_ne (by decide), Json.get?_set]

theorem get?_headed_message (e : Entry) : Fields.get? e.headed "message" = some (.str e.message) :=
  Json.get?_set _ _ _

theorem get?_headed (e : Entry) {name : String} (hlevel : name ≠ "level") (hmessage : name ≠ "message") :
    Fields.get? e.headed name = Fields.get? e.fields name := by
  rw [Entry.headed, Json.get?_set_of_ne hmessage, Json.get?_set_of_ne hlevel]

/-- a field that gives the time stamp counts if its value does -/
def Entry.ownStamp? (e : Entry) : Option Json := (Fields.get? e.fields "timestamp").filter Json.holds

/-- what is written of an entry: its fields with level and message, and a time stamp unless a field gives one -/
theorem objectForm_eq (e : Entry) (stamp : String) :
    e.objectForm stamp = compact (sorted (.obj (match e.ownStamp? with
      | some _ => e.headed
      | none => Fields.set "timestamp" (.str stamp) e.headed))) := by
  have hstamp : Fields.get? e.headed "timestamp" = Fields.get? e.fields "timestamp" :=
    get?_headed e (by decide) (by decide)
  unfold Entry.headed at hstamp ⊢
  unfold Entry.objectForm Entry.ownStamp?
  dsimp only
  rw [hstamp]
  cases Fields.get? e.fields "timestamp" with
  | none => rfl
  | some v => cases hv : v.holds <;> simp [Option.filter, hv]

/-- **The line of an entry** reads as an object with its level, its message, its fields, and a time stamp. -/
theorem read?_objectForm (stamp : String) (h : (e.fields.map Prod.fst).Nodup) :
    ∃ gs, read? (e.objectForm stamp).toList = some (.obj gs) ∧
      Fields.get? gs "level" = some (.str e.level.lowerName) ∧ Fields.get? gs "message" = some (.str e.message) ∧
      Fields.get? gs "timestamp" = some (told (e.ownStamp?.getD (.str stamp))) ∧
      ∀ name, name ≠ "level" → name ≠ "message" → name ≠ "timestamp" →
        Fields.get? gs name = (Fields.get? e.fields name).map told := by
  rw [objectForm_eq]
  cases hown : e.ownStamp? with
  | some v =>
    have hstamp : Fields.get? e.headed "timestamp" = some v := by
      rw [get?_headed e (by decide) (by decide)]
      exact (Option.filter_eq_some_iff.1 hown).1
    obtain ⟨gs, hread, hgs⟩ := Json.read?_sorted (nodup_headed h)
    refine ⟨gs, hread, ?_, ?_, ?_, ?_⟩
    · rw [hgs, get?_headed_level, Option.map_some, ← told, told_str]
    · rw [hgs, get?_headed_message, Option.map_some, ← told, told_str]
    · rw [hgs, hstamp]
      rfl
    · intro name hl hm _
      rw [hgs, get?_headed e hl hm]
      rfl
  | none =>
    obtain ⟨gs, hread, hgs⟩ := Json.read?_sorted (Json.nodup_set (nodup_headed h) "timestamp" (.str stamp))
    refine ⟨gs, hread, ?_, ?_, ?_, ?_⟩
    · rw [hgs, Json.get?_set_of_ne (by decide), get?_headed_level, Option.map_some, ← told, told_str]
    · rw [hgs, Json.get?_set_of_ne (by decide), get?_headed_message, Option.map_some, ← told, told_str]
    · rw [hgs, Json.get?_set]
      rfl
    · intro name hl hm ht
      rw [hgs, Json.get?_set_of_ne ht, get?_headed e hl hm]
      rfl

/-- what is found in the line of an entry that carries all that its call brought -/
structure Call.FoundIn (c : Call) (stamp : String) (gs : Fields) : Prop where
  level : Fields.get? gs "level" = some (.str c.level.lowerName)
  message : Fields.get? gs "message" = some (.str c.message)
  component : Fields.get? gs "component" = some (.str c.component)
  /-- each field under its name, except for a time stamp that does not count -/
  fields : ∀ f ∈ c.fields, f.1 ≠ "timestamp" ∨ f.2.holds = true → Fields.get? gs f.1 = some (told f.2)
  stack : ∀ s ∈ c.stack, s ≠ "" → Fields.get? gs "errorStack" = some (.str s)
  /-- a time stamp that does not count gives way to the one of the entry -/
  stamp : (∀ f ∈ c.fields, f.1 = "timestamp" → f.2.holds = false) → Fields.get? gs "timestamp" = some (.str stamp)

/-- **Nothing is lost in the line** of an entry that carries all that its call brought. -/
theorem foundIn_objectForm (h : c.Sound) (he : c.entry? = some e) (hcarries : e.Carries c) (stamp : String) :
    ∃ gs, read? (e.objectForm stamp).toList = some (.obj gs) ∧ c.FoundIn stamp gs := by
  have hentry : e = ⟨c.level, c.message, c.allFields.erase behind⟩ := by
    have hplain := (carries_iff h).1 ⟨e, he, hcarries⟩
    exact Option.some.inj (he.symm.trans (h.entry?_of_plain hplain))
  obtain ⟨gs, hread, hlevel, hmessage, hstamp, hother⟩ := read?_objectForm stamp (nodup_entry he)
  have hown : ∀ f ∈ c.fields, f.1 ≠ "level" ∧ f.1 ≠ "message" := by
    intro f hf
    constructor
    · intro hname
      exact h.free "level" (by decide) (hname ▸ List.mem_map_of_mem hf)
    · intro hname
      exact h.free "message" (by decide) (hname ▸ List.mem_map_of_mem hf)
  refine ⟨gs, hread, ?_⟩
  constructor
  case level => rw [hlevel, hcarries.level]
  case message => rw [hmessage, hcarries.message]
  case component =>
    rw [hother _ (by decide) (by decide) (by decide), hcarries.component, Option.map_some, told_str]
  case fields =>
    intro f hf hcounts
    by_cases hname : f.1 = "timestamp"
    · have hholds : f.2.holds = true := hcounts.resolve_left (fun hne => hne hname)
      have hfound := hcarries.fields f hf
      rw [hname] at hfound ⊢
      rw [hstamp, Entry.ownStamp?, hfound, Option.filter_some_pos hholds, Option.getD_some]
    · rw [hother f.1 (hown f hf).1 (hown f hf).2 hname, hcarries.fields f hf]
      rfl
  case stack =>
    intro s hs hne
    rw [hother _ (by decide) (by decide) (by decide), hcarries.stack s hs hne, Option.map_some, told_str]
  case stamp =>
    intro hnone
    have hown : e.ownStamp? = none := by
      rw [Entry.ownStamp?, Option.filter_eq_none_iff]
      intro v hv
      rw [hentry, Json.get?_erase_of_ne (by simp [behind]), h.get?_own (by decide) (by decide)] at hv
      simpa using hnone _ hv rfl
    rw [hstamp, hown, Option.getD_none, told_str]

end EnquiryMail.Log
