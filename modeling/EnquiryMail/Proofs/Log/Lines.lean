/-
Lines on the console. A call that passes makes one entry, and the entry is written at once, but what is written is as
many lines as its texts have: a message, a component or a stack with line feeds goes on below the line that begins the
entry, and nothing marks those lines as its own. Written as an object an entry is one line, whatever its texts are.

- `splitOn_append`: the lines of a text put together from parts.
- `linesOf_textForm`: an entry as text, line by line; `shownAs_objectForm`: as an object it is one.
- `takes`: what a call that passes leaves on the console; `leaves_plain`, `leaves_bare`: what is found there of a plain
  one, and of one with a format token; `lines_eq`: what calls one after another leave.
- `below_of_tidy`: what stands below the line that begins the entry of a call.
- `counted_written`: how many lines begin an entry, or look as if they did.
-/
import EnquiryMail.Log.Journal
import EnquiryMail.Proofs.Log.Entries

namespace EnquiryMail.Log

open Text (splitOn)
open Mail (Unbroken unbroken_append unbroken_cons_iff unbroken_nil)

/-! ## Lines of a text -/

section Split

variable {sep : Char} {a b : List Char}

theorem splitOn_of_not_mem (h : sep ∉ a) : splitOn sep a = [a] := by
  induction a with
  | nil => rfl
  | cons c a ih =>
    obtain ⟨hc, ha⟩ := not_or.1 (mt List.mem_cons.2 h)
    rw [splitOn, if_neg (by simpa using Ne.symm hc), ih ha]

/-- the first of the pieces -/
def firstPiece (sep : Char) (cs : List Char) : List Char := (splitOn sep cs).headD []

/-- the pieces behind the first -/
def laterPieces (sep : Char) (cs : List Char) : List (List Char) := (splitOn sep cs).tail

theorem splitOn_eq (sep : Char) (cs : List Char) : splitOn sep cs = firstPiece sep cs :: laterPieces sep cs := by
  unfold firstPiece laterPieces
  cases h : splitOn sep cs with
  | nil => exact absurd h (Text.splitOn_ne_nil sep cs)
  | cons piece pieces => rfl

/-- a text without the separator stands in front of the first piece -/
theorem splitOn_append_of_not_mem (h : sep ∉ a) (b : List Char) :
    splitOn sep (a ++ b) = (a ++ firstPiece sep b) :: laterPieces sep b := by
  induction a with
  | nil => exact splitOn_eq sep b
  | cons c a ih =>
    obtain ⟨hc, ha⟩ := not_or.1 (mt List.mem_cons.2 h)
    rw [List.cons_append, splitOn, if_neg (by simpa using Ne.symm hc), ih ha]
    rfl

/-- behind a separator the pieces begin anew -/
theorem splitOn_append_cons (a b : List Char) : splitOn sep (a ++ sep :: b) = splitOn sep a ++ splitOn sep b := by
  induction a with
  | nil => simp [splitOn]
  | cons c a ih =>
    rw [List.cons_append, splitOn, splitOn, ih]
    split
    · rfl
    · rw [splitOn_eq sep a]
      rfl

theorem laterPieces_eq_nil {cs : List Char} : laterPieces sep cs = [] ↔ sep ∉ cs := by
  constructor
  · intro h hmem
    obtain ⟨before, after, rfl⟩ := List.append_of_mem hmem
    rw [laterPieces, splitOn_append_cons, splitOn_eq sep before, List.cons_append, List.tail_cons,
      List.append_eq_nil_iff] at h
    exact Text.splitOn_ne_nil sep after h.2
  · intro h
    rw [laterPieces, splitOn_of_not_mem h]
    rfl

end Split

/-- the lines of a text -/
def linesOf (s : String) : List (List Char) := splitOn '\n' s.toList

/-! ## Time stamps -/

theorem unbroken_toString_int (n : Int) : Unbroken (toString n).toList := by
  have hnat : ∀ k : Nat, Unbroken (Nat.repr k).toList := by
    intro k c hc
    have hmem : c ∈ Nat.toDigits 10 k := by simpa [Nat.repr] using hc
    have hdigit : c.isDigit = true := Nat.isDigit_of_mem_toDigits (by decide) (by decide) hmem
    exact Mail.isBreak_of_isAlphanum (by simp [Char.isAlphanum, hdigit])
  cases n with
  | ofNat k => exact hnat k
  | negSucc k =>
    have htext : toString (Int.negSucc k) = "-" ++ Nat.repr (k + 1) := rfl
    rw [htext, String.toList_append, unbroken_append]
    exact ⟨by decide, hnat (k + 1)⟩

theorem unbroken_isoStamp (t : Time.Instant) : Unbroken (Time.isoStamp t).toList := by
  have hyear : ∀ y : Int, Unbroken (if 0 ≤ y ∧ y ≤ 9999 then Time.padded 4 y.toNat
      else (if y < 0 then "-" else "+") ++ Time.padded 6 y.natAbs).toList := by
    intro y
    split
    · exact Mail.unbroken_padded _ _
    · rw [String.toList_append, unbroken_append]
      refine ⟨?_, Mail.unbroken_padded _ _⟩
      split <;> decide
  simp only [Time.isoStamp, String.toList_append, unbroken_append, hyear, Mail.unbroken_padded, true_and, and_true]
  decide +kernel

theorem unbroken_lineStamp (offset : Int) (t : Time.Instant) : Unbroken (Time.lineStamp offset t).toList := by
  simp only [Time.lineStamp, String.toList_append, unbroken_append, unbroken_toString_int, Mail.unbroken_padded,
    true_and, and_true]
  decide +kernel

/-- the time stamp that an entry gets -/
def stampOf (format : Format) (stamps : StampForm) (offset : Int) (t : Time.Instant) : String :=
  match format, stamps with
  | .text, .classic => Time.lineStamp offset t
  | _, _ => Time.isoStamp t

theorem unbroken_stampOf (format : Format) (stamps : StampForm) (offset : Int) (t : Time.Instant) :
    Unbroken (stampOf format stamps offset t).toList := by
  fun_cases stampOf format stamps offset t
  · exact unbroken_lineStamp offset t
  · exact unbroken_isoStamp t

/-- what is written of a call, by the format -/
theorem written?_eq (format : Format) (stamps : StampForm) (offset : Int) (t : Timed) :
    t.written? format stamps offset = t.call.entry?.map fun e =>
      match format with
      | .json => e.objectForm (stampOf format stamps offset t.time)
      | .text => e.textForm (stampOf format stamps offset t.time) := by
  cases format <;> cases stamps <;> rfl

/-! ## Entries as text -/

/-- what begins an entry: its level and its time stamp -/
def opening (level : Level) (stamp : String) : List Char :=
  (paddedLevel level).toList ++ ' ' :: (stamp.toList ++ [' '])

/-- what an entry says: its message, behind the component in brackets -/
def Entry.saying (e : Entry) : List Char :=
  (match e.textField? "component" with
    | some c => '[' :: (c.toList ++ [']', ' '])
    | none => []) ++ e.message.toList

/-- the lines of a stack -/
def Entry.stackLines (e : Entry) : List (List Char) :=
  match e.textField? "errorStack" with
  | some stack => linesOf stack
  | none => []

/-- the lines of an entry below the one that begins it: those that its message goes on with, and its stack -/
def Entry.below (e : Entry) : List (List Char) := laterPieces '\n' e.saying ++ e.stackLines

theorem unbroken_opening (level : Level) {stamp : String} (h : Unbroken stamp.toList) :
    Unbroken (opening level stamp) := by
  have hlevel : Unbroken (paddedLevel level).toList := by cases level <;> decide +kernel
  rw [opening, unbroken_append, unbroken_cons_iff, unbroken_append]
  exact ⟨hlevel, rfl, h, by decide⟩

theorem toList_textForm (e : Entry) (stamp : String) :
    (e.textForm stamp).toList = opening e.level stamp ++ (e.saying ++
      match e.textField? "errorStack" with
      | some stack => '\n' :: stack.toList
      | none => []) := by
  unfold Entry.textForm Entry.saying opening
  cases e.textField? "component" <;> cases e.textField? "errorStack" <;> simp

/-- **An entry as text, line by line**: the line that begins it, the lines that its message goes on with, and those of
its stack. -/
theorem linesOf_textForm (e : Entry) {stamp : String} (h : Unbroken stamp.toList) :
    linesOf (e.textForm stamp) = (opening e.level stamp ++ firstPiece '\n' e.saying) :: e.below := by
  have hopening := (unbroken_opening e.level h).lf
  rw [linesOf, toList_textForm, splitOn_append_of_not_mem hopening, Entry.below, Entry.stackLines]
  split
  · unfold firstPiece laterPieces linesOf
    rw [splitOn_append_cons, splitOn_eq '\n' e.saying]
    rfl
  · rw [List.append_nil, List.append_nil]

/-! ## The console -/

/-- what an entry is on the console -/
structure Entry.ShownAs (e : Entry) (format : Format) (stamp block : String) : Prop where
  /-- as an object it is one line, which holds an object -/
  object : format = .json → Unbroken block.toList ∧ ∃ fields, Json.read? block.toList = some (.obj fields)
  /-- as text it is the line that begins it, and those below -/
  text : format = .text → linesOf block = (opening e.level stamp ++ firstPiece '\n' e.saying) :: e.below

theorem shownAs_objectForm (e : Entry) (stamp : String) : e.ShownAs .json stamp (e.objectForm stamp) where
  object _ := by
    rw [objectForm_eq]
    exact ⟨Json.unbroken_compact _, _, by rw [Json.read?_compact, Json.sorted, Json.reread]⟩
  text h := nomatch h

theorem shownAs_textForm (e : Entry) {stamp : String} (h : Unbroken stamp.toList) :
    e.ShownAs .text stamp (e.textForm stamp) where
  object h := nomatch h
  text _ := linesOf_textForm e h

/-- a call that makes an entry is written as one -/
theorem exists_block {t : Timed} {e : Entry} (he : t.call.entry? = some e) (format : Format) (stamps : StampForm)
    (offset : Int) : ∃ block, t.written? format stamps offset = some block ∧
      e.ShownAs format (stampOf format stamps offset t.time) block := by
  rw [written?_eq, he]
  cases format with
  | json => exact ⟨_, rfl, shownAs_objectForm e _⟩
  | text => exact ⟨_, rfl, shownAs_textForm e (unbroken_stampOf _ _ _ _)⟩

namespace Journal

variable {j : Journal} {o : Outputs}

/-- the outputs are open, and take entries -/
structure Open (j : Journal) (o : Outputs) : Prop where
  outputs : j.outputs = some o
  taking : o.ended = false

theorem open_boot (env : Environment) : ∃ o, (boot env).Open o := ⟨_, rfl, rfl⟩

/-- a call passes the level that holds for its component -/
def passes (j : Journal) (t : Timed) : Bool := j.isEnabled t.call.component t.call.level

/-- a call changes nothing but what has been written -/
theorem log_eq (h : j.Open o) (offset : Int) (t : Timed) :
    ∃ file, j.log offset t = { j with
      console := (if j.passes t then (t.written? o.format o.stamps offset).toList else []) ++ j.console
      file := file } := by
  unfold log
  rw [← passes]
  cases hpasses : j.passes t with
  | false => exact ⟨j.file, rfl⟩
  | true =>
    have hready : j.ready = j := by
      rw [ready, h.outputs]
      rfl
    rw [if_pos rfl, if_pos rfl, hready]
    dsimp only
    split
    · rename_i o' ho'
      obtain rfl : o' = o := Option.some.inj (ho'.symm.trans h.outputs)
      rw [if_neg (by simp [h.taking])]
      exact ⟨_, rfl⟩
    · rename_i hnone
      cases h.outputs.symm.trans hnone

theorem Open.log (h : j.Open o) (offset : Int) (t : Timed) : (j.log offset t).Open o := by
  obtain ⟨file, hlog⟩ := log_eq h offset t
  rw [hlog]
  exact ⟨h.outputs, h.taking⟩

theorem passes_log (h : j.Open o) (offset : Int) (t : Timed) : (j.log offset t).passes = j.passes := by
  obtain ⟨file, hlog⟩ := log_eq h offset t
  rw [hlog]
  rfl

/-- **The console after a call**: what is written of it if it passes, above what was there. -/
theorem console_log (h : j.Open o) (offset : Int) (t : Timed) :
    (j.log offset t).console =
      (if j.passes t then (t.written? o.format o.stamps offset).toList else []) ++ j.console := by
  obtain ⟨file, hlog⟩ := log_eq h offset t
  rw [hlog]

/-- what a call that passes leaves on the console -/
structure Takes (j : Journal) (o : Outputs) (offset : Int) (t : Timed) : Prop where
  /-- nothing, if its fields mark an exception and its message holds no format token -/
  unmade : hasToken t.call.message.toList = false ∧ isException t.call.allFields = true →
    (j.log offset t).console = j.console
  /-- its entry, in every other case -/
  made : ¬ (hasToken t.call.message.toList = false ∧ isException t.call.allFields = true) →
    ∃ e block, t.call.entry? = some e ∧ (j.log offset t).console = block :: j.console ∧
      e.ShownAs o.format (stampOf o.format o.stamps offset t.time) block

theorem takes (h : j.Open o) (offset : Int) {t : Timed} (ht : j.passes t = true) : j.Takes o offset t where
  unmade hmarked := by
    rw [console_log h, ht, if_pos rfl, written?_eq, entry?_eq_none.2 hmarked]
    rfl
  made hunmarked := by
    obtain ⟨e, he⟩ := Option.ne_none_iff_exists'.1 (mt entry?_eq_none.1 hunmarked)
    obtain ⟨block, hblock, hshown⟩ := exists_block he o.format o.stamps offset
    refine ⟨e, block, he, ?_, hshown⟩
    rw [console_log h, ht, if_pos rfl, hblock]
    rfl

/-- a call leaves one line more on the console, an object whose fields have a property -/
def Leaves (j : Journal) (offset : Int) (t : Timed) (P : Json.Fields → Prop) : Prop :=
  ∃ block fields, (j.log offset t).console = block :: j.console ∧ Unbroken block.toList ∧
    Json.read? block.toList = some (.obj fields) ∧ P fields

/-- in the line of a plain call everything is found -/
theorem leaves_plain (h : j.Open o) (hformat : o.format = .json) (offset : Int) {t : Timed} (ht : j.passes t = true)
    (hsound : t.call.Sound) (hplain : t.call.Plain) :
    j.Leaves offset t (t.call.FoundIn (Time.isoStamp t.time)) := by
  obtain ⟨e, he, hcarries⟩ := (carries_iff hsound).2 hplain
  obtain ⟨fields, hread, hfound⟩ := foundIn_objectForm hsound he hcarries (Time.isoStamp t.time)
  refine ⟨e.objectForm (Time.isoStamp t.time), fields, ?_, ?_, hread, hfound⟩
  · rw [console_log h, ht, if_pos rfl, written?_eq, he, hformat]
    rfl
  · exact ((shownAs_objectForm e _).object rfl).1

/-- fields with no names but those of every entry -/
def Bare (fields : Json.Fields) : Prop :=
  ∀ name, name ≠ "level" → name ≠ "message" → name ≠ "timestamp" → Json.Fields.get? fields name = none

/-- in the line of a call with a format token there is nothing but its level, its message and the time stamp -/
theorem leaves_bare (h : j.Open o) (hformat : o.format = .json) (offset : Int) {t : Timed} (ht : j.passes t = true)
    (htoken : hasToken t.call.message.toList = true) : j.Leaves offset t Bare := by
  have hentry := entry?_of_token t.call htoken
  obtain ⟨fields, hread, -, -, -, hother⟩ := read?_objectForm (Time.isoStamp t.time) (nodup_entry hentry)
  refine ⟨_, fields, ?_, ?_, hread, fun name hl hm hs => hother name hl hm hs⟩
  · rw [console_log h, ht, if_pos rfl, written?_eq, hentry, hformat]
    rfl
  · exact ((shownAs_objectForm _ _).object rfl).1

/-- **The console after calls**: what is written of those that pass, in their order. -/
theorem lines_eq (h : j.Open o) (offset : Int) (calls : List Timed) :
    j.lines offset calls = j.console.reverse ++
      (calls.filter j.passes).filterMap fun t => t.written? o.format o.stamps offset := by
  induction calls generalizing j with
  | nil => simp [lines]
  | cons t calls ih =>
    have hrest := ih (h.log offset t)
    rw [lines, List.foldl_cons, ← lines, hrest, passes_log h, console_log h, List.reverse_append, List.append_assoc]
    cases hpasses : j.passes t with
    | false => simp [hpasses]
    | true =>
      rw [List.filter_cons, hpasses, if_pos rfl, if_pos rfl, List.filterMap_cons]
      cases t.written? o.format o.stamps offset <;> rfl

end Journal

/-! ## Counting -/

/-- a line begins as an entry does: with a level and a time stamp -/
def Opens (line : List Char) : Prop :=
  ∃ level format stamps offset time rest, line = opening level (stampOf format stamps offset time) ++ rest

/-- what the entry of a tidy call says: its message, behind the component unless that was lost to a format token -/
def Call.saying (c : Call) : List Char :=
  (if hasToken c.message.toList = true ∨ c.component = "" then [] else '[' :: (c.component.toList ++ [']', ' '])) ++
    c.message.toList

/-- the lines of the stack of a tidy call, unless it was lost to a format token -/
def Call.stackLines (c : Call) : List (List Char) :=
  if hasToken c.message.toList = true then [] else (c.stack.filter (· ≠ "")).elim [] linesOf

/-- the lines below the entry of a tidy call -/
def Call.below (c : Call) : List (List Char) := laterPieces '\n' c.saying ++ c.stackLines

/-- nothing but the stack stands below exactly when component and message are one line each -/
theorem below_eq_stackLines {c : Call} : c.below = c.stackLines ↔ '\n' ∉ c.saying := by
  rw [Call.below, List.append_left_eq_self, laterPieces_eq_nil]

theorem textField?_str {e : Entry} {name s : String} (h : Json.Fields.get? e.fields name = some (.str s)) :
    e.textField? name = if s = "" then none else some s := by
  rw [Entry.textField?, h]

/-- **The lines below the entry of a tidy call** are those that its message goes on with, and those of its stack. -/
theorem below_of_tidy {c : Call} {e : Entry} (h : c.Tidy) (he : c.entry? = some e) : e.below = c.below := by
  have hparts : e.saying = c.saying ∧ e.stackLines = c.stackLines := by
    -- a format token takes component and stack from the entry, as it does from what the call would say
    cases htoken : hasToken c.message.toList with
    | true =>
      rw [entry?_of_token c htoken] at he
      cases he
      unfold Call.saying Call.stackLines
      rw [if_pos (.inl htoken), if_pos htoken]
      exact ⟨rfl, rfl⟩
    | false =>
      obtain ⟨e', he', hcarries⟩ := (carries_iff h.sound).2 (h.plain_iff.2 htoken)
      obtain rfl := Option.some.inj (he'.symm.trans he)
      have hstack : Json.Fields.get? e'.fields "errorStack" = (c.stack.filter (· ≠ "")).map .str := by
        rw [h.sound.entry?_of_plain (h.plain_iff.2 htoken)] at he
        cases he
        rw [Json.get?_erase_of_ne (by simp [behind]), h.sound.get?_stack]
      constructor
      · rw [Entry.saying, Call.saying, textField?_str hcarries.component, hcarries.message]
        by_cases hcomponent : c.component = "" <;> simp [hcomponent, htoken]
      · rw [Entry.stackLines, Call.stackLines, if_neg (by simp [htoken])]
        cases hfilter : c.stack.filter (· ≠ "") with
        | none =>
          rw [hfilter] at hstack
          simp [Entry.textField?, hstack]
        | some s =>
          rw [hfilter] at hstack
          have hs : s ≠ "" := by simpa using (Option.filter_eq_some_iff.1 hfilter).2
          rw [textField?_str hstack, if_neg hs]
          rfl
  rw [Entry.below, Call.below, hparts.1, hparts.2]

/-- how many entries there are on the console for calls that have passed -/
structure Counted (format : Format) (passing : List Timed) (blocks : List String) : Prop where
  /-- as objects there are as many lines as calls, each an object -/
  objects : format = .json → blocks.length = passing.length ∧
    ∀ block ∈ blocks, Unbroken block.toList ∧ ∃ fields, Json.read? block.toList = some (.obj fields)
  /-- as text, whoever takes the lines that begin an entry for one finds as many as there are calls, and with them those
  lines below that look alike -/
  texts : format = .text → ∀ takes : List Char → Bool, (∀ line, Opens line → takes line = true) →
    (blocks.flatMap linesOf).countP takes = passing.length + (passing.flatMap (·.call.below)).countP takes

/-- **Counting entries.** Tidy calls are counted by the lines that begin one, up to what their texts
go on with. -/
theorem counted_written {passing : List Timed} (h : ∀ t ∈ passing, t.call.Tidy) (format : Format)
    (stamps : StampForm) (offset : Int) :
    Counted format passing (passing.filterMap fun t => t.written? format stamps offset) := by
  induction passing with
  | nil => exact ⟨fun _ => ⟨rfl, List.forall_mem_nil _⟩, fun _ _ _ => rfl⟩
  | cons t passing ih =>
    obtain ⟨htidy, hpassing⟩ := List.forall_mem_cons.1 h
    obtain ⟨e, he⟩ := htidy.exists_entry
    obtain ⟨block, hblock, hshown⟩ := exists_block he format stamps offset
    have hrest := ih hpassing
    rw [List.filterMap_cons, hblock]
    constructor
    case objects =>
      intro hformat
      obtain ⟨hlength, hblocks⟩ := hrest.objects hformat
      exact ⟨congrArg (· + 1) hlength, List.forall_mem_cons.2 ⟨hshown.object hformat, hblocks⟩⟩
    case texts =>
      -- the first line of the block counts as begun, those below it count as they look
      intro hformat takes htakes
      have hbelow := below_of_tidy htidy he
      have hopens := htakes _ ⟨e.level, format, stamps, offset, t.time, firstPiece '\n' e.saying, rfl⟩
      rw [List.flatMap_cons, List.flatMap_cons, hshown.text hformat, hbelow, List.countP_append, List.countP_append,
        List.countP_cons_of_pos hopens, hrest.texts hformat takes htakes, List.length_cons]
      omega

end EnquiryMail.Log
