/-
Documents as they are logged: on one line, the fields of every object in the order of their names. Order and layout
take nothing away, so each field is found again in the line, under its name.

- `unbroken_compact`: a document on one line has no line break, whatever texts it holds.
- `get?_set_of_ne`, `get?_erase_of_ne`: setting or erasing a field leaves the others alone.
- `read?_sorted`: the line of an object reads as an object with all its fields.
-/
import EnquiryMail.Proofs.Json.Reading
import EnquiryMail.Proofs.Mail.Unbroken

namespace EnquiryMail.Json

open Mail (Unbroken isBreak unbroken_nil unbroken_cons_iff unbroken_append)

/-! ## One line -/

theorem unbroken_flatMap {α : Type} {f : α → List Char} (h : ∀ a, Unbroken (f a)) (as : List α) :
    Unbroken (as.flatMap f) := by
  intro c hc
  obtain ⟨a, -, hc⟩ := List.mem_flatMap.1 hc
  exact h a c hc

theorem unbroken_digits {ds : List Char} (h : ∀ c ∈ ds, Number.isDigit c = true) : Unbroken ds := by
  intro c hc
  have hdigit := h c hc
  by_contra hbreak
  simp only [isBreak, Bool.not_eq_false, Bool.or_eq_true, beq_iff_eq] at hbreak
  rcases hbreak with rfl | rfl <;> revert hdigit <;> decide

theorem unbroken_literal (l : Number.Literal) : Unbroken l.text := by
  have hplaces : Unbroken (Number.Literal.placesText l.places) := by
    unfold Number.Literal.placesText
    split
    · exact unbroken_nil
    · exact unbroken_cons_iff.2 ⟨rfl, unbroken_digits l.places_digits⟩
  have hexponent : Unbroken (Number.Literal.exponentText l.exponent) := by
    cases hexp : l.exponent with
    | none => exact unbroken_nil
    | some e =>
      obtain ⟨negative, ds⟩ := e
      have hsign : isBreak (if negative then '-' else '+') = false := by cases negative <;> rfl
      exact unbroken_cons_iff.2 ⟨rfl, unbroken_cons_iff.2 ⟨hsign, unbroken_digits (l.exponent_digits _ hexp).2⟩⟩
  have hbody : Unbroken l.body :=
    unbroken_append.2 ⟨unbroken_digits l.whole_digits, unbroken_append.2 ⟨hplaces, hexponent⟩⟩
  unfold Number.Literal.text
  split
  · exact unbroken_cons_iff.2 ⟨rfl, hbody⟩
  · exact hbody

theorem unbroken_numberText (n : Number) : Unbroken (numberText n).toList := by
  cases n with
  | nan => decide +kernel
  | infinite negative => cases negative <;> decide +kernel
  | finite q =>
    obtain ⟨l, hl⟩ := Number.exists_literal q
    have htext : numberText (.finite q) = (Number.finite q).toText := rfl
    rw [htext, ← hl]
    exact unbroken_literal l

theorem isBreak_hexDigit {n : Nat} (h : n < 16) : isBreak (hexDigit n) = false := by
  interval_cases n <;> decide

/-- line breaks are escaped inside quotes -/
theorem unbroken_quoteChar (c : Char) : Unbroken (quoteChar c) := by
  fun_cases quoteChar c with
  | case8 =>
    rename_i hcontrol
    simp only [unbroken_cons_iff, isBreak_hexDigit (show c.toNat / 16 < 16 by omega),
      isBreak_hexDigit (Nat.mod_lt c.toNat (by omega : 0 < 16)), unbroken_nil, and_true]
    decide
  | case9 =>
    rename_i hn hr _ _ _ _
    refine unbroken_cons_iff.2 ⟨?_, unbroken_nil⟩
    simp [isBreak, hn, hr]
  | _ => decide

theorem unbroken_quote (s : String) : Unbroken (quote s).toList := by
  rw [quote, String.toList_ofList, unbroken_cons_iff, unbroken_append]
  exact ⟨rfl, unbroken_flatMap unbroken_quoteChar s.toList, by decide⟩

theorem unbroken_enclosed {opening closing : Char} (ho : isBreak opening = false) (hc : isBreak closing = false)
    (level : Nat) {members : List (List Char)} (h : ∀ m ∈ members, Unbroken m) :
    Unbroken (Layout.single.enclosed level opening closing members) := by
  have hbehind : ∀ {members : List (List Char)}, (∀ m ∈ members, Unbroken m) →
      Unbroken (Layout.single.behind level closing members) := by
    intro members h
    induction members with
    | nil => exact unbroken_cons_iff.2 ⟨hc, unbroken_nil⟩
    | cons m members ih =>
      obtain ⟨hm, hmembers⟩ := List.forall_mem_cons.1 h
      exact unbroken_cons_iff.2 ⟨rfl, unbroken_append.2 ⟨unbroken_nil, unbroken_append.2 ⟨hm, ih hmembers⟩⟩⟩
  cases members with
  | nil => exact unbroken_cons_iff.2 ⟨ho, unbroken_cons_iff.2 ⟨hc, unbroken_nil⟩⟩
  | cons m members =>
    obtain ⟨hm, hmembers⟩ := List.forall_mem_cons.1 h
    exact unbroken_cons_iff.2 ⟨ho, unbroken_append.2 ⟨unbroken_nil, unbroken_append.2 ⟨hm, hbehind hmembers⟩⟩⟩

mutual

/-- **A document on one line is one line**, whatever texts it holds. -/
theorem unbroken_compact : ∀ j : Json, Unbroken (compact j).toList
  | .null => by decide +kernel
  | .bool true => by decide +kernel
  | .bool false => by decide +kernel
  | .num n => by
    rw [compact]
    exact unbroken_numberText n
  | .str s => by
    rw [compact]
    exact unbroken_quote s
  | .arr items => by
    refine (writes_compact.arr 0 items).symm ▸ unbroken_enclosed rfl rfl 0 ?_
    exact List.forall_mem_map.2 (unbroken_compactItems items)
  | .obj fields => by
    refine (writes_compact.obj 0 fields).symm ▸ unbroken_enclosed rfl rfl 0 ?_
    exact List.forall_mem_map.2 (unbroken_compactFields fields)
termination_by structural j => j

theorem unbroken_compactItems : ∀ items : List Json, ∀ item ∈ items, Unbroken (compact item).toList
  | [] => List.forall_mem_nil _
  | item :: items => List.forall_mem_cons.2 ⟨unbroken_compact item, unbroken_compactItems items⟩
termination_by structural items => items

theorem unbroken_compactFields : ∀ fields : List (String × Json), ∀ f ∈ fields,
    Unbroken (Layout.single.field f.1 (compact f.2).toList)
  | [] => List.forall_mem_nil _
  | (name, value) :: fields => by
    refine List.forall_mem_cons.2 ⟨?_, unbroken_compactFields fields⟩
    exact unbroken_append.2 ⟨unbroken_quote name, unbroken_cons_iff.2 ⟨rfl, unbroken_compact value⟩⟩
termination_by structural fields => fields

end

/-! ## Fields -/

section Fields

variable {fs : Fields} {name other : String}

theorem get?_set_of_ne (h : other ≠ name) (value : Json) (fs : Fields) :
    Fields.get? (Fields.set name value fs) other = Fields.get? fs other := by
  rw [Fields.get?, set_eq, Named.lookup_put, if_neg h, Fields.get?]

theorem nodup_set (h : (fs.map Prod.fst).Nodup) (name : String) (value : Json) :
    ((Fields.set name value fs).map Prod.fst).Nodup := by
  rw [set_eq]
  exact Named.nodup_put h name value

theorem get?_erase_of_ne (h : other ≠ name) (fs : Fields) :
    Fields.get? (fs.erase name) other = Fields.get? fs other := by
  unfold Fields.get? Fields.erase
  induction fs with
  | nil => rfl
  | cons f fs ih =>
    obtain ⟨n, v⟩ := f
    by_cases hn : n = name
    · rw [List.filter_cons_of_neg (by simpa using hn), ih, List.lookup_cons, beq_eq_false_iff_ne.2 (hn ▸ h)]
    · rw [List.filter_cons_of_pos (by simpa using hn), List.lookup_cons, List.lookup_cons, ih]

theorem get?_erase (name : String) (fs : Fields) : Fields.get? (fs.erase name) name = none := by
  rw [Fields.get?, List.lookup_eq_none_iff]
  intro f hf
  have hne : f.1 ≠ name := of_decide_eq_true (List.mem_filter.1 hf).2
  exact bne_iff_ne.2 hne.symm

theorem erase_of_not_mem (h : name ∉ fs.map Prod.fst) : fs.erase name = fs := by
  refine List.filter_eq_self.2 fun f hf => decide_eq_true ?_
  rintro rfl
  exact h (List.mem_map_of_mem hf)

theorem nodup_erase (h : (fs.map Prod.fst).Nodup) (name : String) : ((fs.erase name).map Prod.fst).Nodup :=
  h.sublist (List.filter_sublist.map _)

theorem names_sortedFields (fs : Fields) : (sortedFields fs).map Prod.fst = fs.map Prod.fst := by
  induction fs with
  | nil => rfl
  | cons f fs ih => simp [sortedFields, ih]

theorem get?_sortedFields (fs : Fields) (name : String) :
    Fields.get? (sortedFields fs) name = (Fields.get? fs name).map sorted := by
  induction fs with
  | nil => rfl
  | cons f fs ih =>
    obtain ⟨n, v⟩ := f
    simp only [Fields.get?] at ih ⊢
    cases hname : name == n <;> simp [sortedFields, List.lookup_cons, hname, ih]

/-- **The line of an object** reads as an object in which each field is found again under its name, its value sorted and
as its text reads. -/
theorem read?_sorted (h : (fs.map Prod.fst).Nodup) :
    ∃ gs, read? (compact (sorted (.obj fs))).toList = some (.obj gs) ∧
      ∀ name, Fields.get? gs name = (Fields.get? fs name).map fun value => reread (sorted value) := by
  have hperm := List.mergeSort_perm (sortedFields fs) fun a b => Text.unitsLe a.1.toList b.1.toList
  have hnames : ((sortedFields fs).map Prod.fst).Nodup := by rwa [names_sortedFields]
  refine ⟨_, read?_compact _, fun name => ?_⟩
  have hread := get?_reread (((hperm.map _).nodup_iff).2 hnames) name
  rw [reread, Json.get?] at hread
  have hfound : Fields.get? ((sortedFields fs).mergeSort fun a b => Text.unitsLe a.1.toList b.1.toList) name =
      Fields.get? (sortedFields fs) name := (Named.lookup_perm hnames hperm.symm name).symm
  rw [hread, hfound, get?_sortedFields, Option.map_map]
  rfl

end Fields

end EnquiryMail.Json
