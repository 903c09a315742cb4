/-
Reading what was written. A document reads back, over several lines or on one: texts and truth values as they are,
numbers as their texts read, objects with their fields in the order that objects keep. Nothing is asked of the document,
so whatever is written this way is one document and nothing else.

- `readText_quoted`: a quoted text reads back, whatever follows its closing quote.
- `Layout.Writes`: a document is written with members apart by blanks; `writes_indentAt`, `writes_compact`: both ways to
  write one do so.
- `Layout.Writes.readValue`: a value reads back at any level, whatever follows that does not go on with a number.
- `read?_indented`, `read?_compact`: a document reads back as `reread` has it.
- `get?_ofList`, `get?_reread`: the fields of an object are found again under their names.
-/
import EnquiryMail.Json.Printer
import EnquiryMail.Proofs.Named
import EnquiryMail.Proofs.Number.Spelling

namespace EnquiryMail.Json

open Number (Apart isDigit)

/-! ## Texts -/

theorem hex4?_control {n : Nat} (hn : n < 0x20) (rest : List Char) :
    hex4? ('0' :: '0' :: hexDigit (n / 16) :: hexDigit (n % 16) :: rest) = some (n, rest) := by
  interval_cases n <;> rfl

/-- a character reads back from its form inside quotes -/
theorem readText_quoteChar (c : Char) (fuel : Nat) (acc rest : List Char) :
    readText (fuel + 1) acc (quoteChar c ++ rest) = readText fuel (c :: acc) rest := by
  by_cases hescaped : c = '"' ∨ c = '\\' ∨ c = '\n' ∨ c = '\r' ∨ c = '\t' ∨ c = '\x08' ∨ c = '\x0c'
  · rcases hescaped with rfl | rfl | rfl | rfl | rfl | rfl | rfl <;> rfl
  · simp only [not_or] at hescaped
    obtain ⟨hquote, hback, hn, hr, ht, hb, hf⟩ := hescaped
    unfold quoteChar
    simp only [hquote, hback, hn, hr, ht, hb, hf, if_false]
    split
    · rename_i hcontrol
      have hhex := hex4?_control hcontrol rest
      have hvalid : Char.ofNat c.toNat = c := Char.ofNat_toNat c
      have hhigh : ¬(0xD800 ≤ c.toNat ∧ c.toNat < 0xDC00) := by omega
      have hlow : ¬(0xDC00 ≤ c.toNat ∧ c.toNat < 0xE000) := by omega
      simp [readText, hhex, hvalid, hhigh, hlow]
    · rename_i hplain
      simp [readText, hquote, hback, hplain]

theorem readText_quoted (cs : List Char) (fuel : Nat) (acc rest : List Char) (hfuel : cs.length < fuel) :
    readText fuel acc (cs.flatMap quoteChar ++ '"' :: rest) = some (String.ofList (acc.reverse ++ cs), rest) := by
  induction cs generalizing fuel acc with
  | nil =>
    obtain ⟨fuel, rfl⟩ := Nat.exists_eq_succ_of_ne_zero (Nat.ne_of_gt hfuel)
    simp [readText]
  | cons c cs ih =>
    obtain ⟨fuel, rfl⟩ := Nat.exists_eq_succ_of_ne_zero (Nat.ne_of_gt (Nat.lt_of_le_of_lt (Nat.zero_le _) hfuel))
    rw [List.flatMap_cons, List.append_assoc, readText_quoteChar, ih _ _ (by simpa using hfuel)]
    simp

theorem length_flatMap_quoteChar (cs : List Char) : cs.length ≤ (cs.flatMap quoteChar).length := by
  have hone : ∀ c, 1 ≤ (quoteChar c).length := by
    intro c
    unfold quoteChar
    split_ifs <;> simp
  induction cs with
  | nil => exact le_rfl
  | cons c cs ih =>
    have := hone c
    simp only [List.flatMap_cons, List.length_append, List.length_cons]
    omega

theorem toList_quote (s : String) (rest : List Char) :
    (quote s).toList ++ rest = '"' :: (s.toList.flatMap quoteChar ++ '"' :: rest) := by
  simp [quote]

/-- **A quoted text reads back.** -/
theorem readText_quote (s : String) (rest : List Char) :
    readText ((s.toList.flatMap quoteChar ++ '"' :: rest).length + 1) [] (s.toList.flatMap quoteChar ++ '"' :: rest) =
      some (s, rest) := by
  have hlength := length_flatMap_quoteChar s.toList
  rw [readText_quoted _ _ _ _ (by simp only [List.length_append]; omega), List.reverse_nil, List.nil_append,
    String.ofList_toList]

/-! ## Values in front of something -/

section Values

variable {cs rest : List Char}

theorem skip_of_head {c : Char} (hc : isSpace c = false) : skip (c :: cs) = c :: cs := by
  rw [skip, List.dropWhile_cons, hc, if_neg Bool.false_ne_true]

theorem skip_spaces {blanks : List Char} (h : ∀ c ∈ blanks, isSpace c = true) (cs : List Char) :
    skip (blanks ++ cs) = skip cs := List.dropWhile_append_of_pos h

theorem readValue_spaces {blanks : List Char} (h : ∀ c ∈ blanks, isSpace c = true) (fuel : Nat) (cs : List Char) :
    readValue fuel (blanks ++ cs) = readValue fuel cs := by
  cases fuel with
  | zero => rw [readValue, readValue]
  | succ fuel => rw [readValue, readValue, skip_spaces h]

theorem readFields_spaces {blanks : List Char} (h : ∀ c ∈ blanks, isSpace c = true) (fuel : Nat)
    (acc : List (String × Json)) (cs : List Char) : readFields fuel acc (blanks ++ cs) = readFields fuel acc cs := by
  cases fuel with
  | zero => rw [readFields, readFields]
  | succ fuel => rw [readFields, readFields, skip_spaces h]

/-- the first character of a number: a sign or a digit -/
def StartsNumber (c : Char) : Prop := c = '-' ∨ isDigit c = true

instance : DecidablePred StartsNumber := fun c => inferInstanceAs (Decidable (c = '-' ∨ isDigit c = true))

theorem StartsNumber.not_space {c : Char} (hc : StartsNumber c) : isSpace c = false := by
  by_contra hspace
  simp only [isSpace, Bool.not_eq_false, Bool.or_eq_true, beq_iff_eq] at hspace
  rcases hspace with ((rfl | rfl) | rfl) | rfl <;> exact absurd hc (by decide)

theorem readValue_number {c : Char} (hc : StartsNumber c) (fuel : Nat) (cs : List Char) :
    readValue (fuel + 1) (c :: cs) = (readNumber (c :: cs)).map fun (n, rest) => (.num n, rest) := by
  have hother : ∀ d ds, c :: cs = d :: ds → StartsNumber d := by
    intro d ds heq
    rw [← (List.cons.inj heq).1]
    exact hc
  rw [readValue, skip_of_head hc.not_space]
  split
  -- none of the other characters that a value begins with starts a number
  iterate 6 exact absurd (hother _ _ ‹_›) (by decide)
  rfl

end Values

/-! ## Layouts -/

/-- how a document is laid out: the blanks in front of a member of a level, and those behind a colon -/
structure Layout where
  gap : Nat → List Char
  colon : List Char
  gap_space : ∀ level, ∀ c ∈ gap level, isSpace c = true
  colon_space : ∀ c ∈ colon, isSpace c = true

namespace Layout

/-- what stands behind a member: those that follow, and the closing mark -/
def behind (L : Layout) (level : Nat) (closing : Char) : List (List Char) → List Char
  | [] => L.gap level ++ [closing]
  | member :: rest => ',' :: (L.gap (level + 1) ++ (member ++ L.behind level closing rest))

/-- members between an opening and a closing mark -/
def enclosed (L : Layout) (level : Nat) (opening closing : Char) : List (List Char) → List Char
  | [] => [opening, closing]
  | member :: rest => opening :: (L.gap (level + 1) ++ (member ++ L.behind level closing rest))

/-- a field as it is laid out, by the text of its value -/
def field (L : Layout) (name : String) (value : List Char) : List Char :=
  (quote name).toList ++ ':' :: (L.colon ++ value)

/-- documents are written in a layout -/
structure Writes (L : Layout) (write : Nat → Json → String) : Prop where
  null : ∀ level, write level .null = "null"
  bool : ∀ level b, write level (.bool b) = if b then "true" else "false"
  num : ∀ level n, write level (.num n) = numberText n
  str : ∀ level s, write level (.str s) = quote s
  arr : ∀ level items, (write level (.arr items)).toList =
    L.enclosed level '[' ']' (items.map fun item => (write (level + 1) item).toList)
  obj : ∀ level fields, (write level (.obj fields)).toList =
    L.enclosed level '\x7b' '\x7d' (fields.map fun f => L.field f.1 (write (level + 1) f.2).toList)

/-- every member on a line of its own, two blanks in for each level -/
def lined : Layout where
  gap level := '\n' :: List.replicate (2 * level) ' '
  colon := [' ']
  gap_space := by
    intro level c hc
    rcases List.mem_cons.1 hc with rfl | hc
    · rfl
    · rw [List.eq_of_mem_replicate hc]
      rfl
  colon_space := List.forall_mem_singleton.2 rfl

/-- everything on one line -/
def single : Layout where
  gap _ := []
  colon := []
  gap_space _ := List.forall_mem_nil _
  colon_space := List.forall_mem_nil _

variable (L : Layout)

/-- members with a comma and blanks between them -/
theorem toList_intercalate (level : Nat) (closing : Char) {between : String} (hbetween : between.toList =
    ',' :: L.gap (level + 1)) (member : String) (rest : List String) :
    (String.intercalate between (member :: rest)).toList ++ (L.gap level ++ [closing]) =
      member.toList ++ L.behind level closing (rest.map String.toList) := by
  induction rest generalizing member with
  | nil => rw [String.intercalate_singleton, List.map_nil, behind]
  | cons next rest ih =>
    have hnext := ih next
    simp only [String.intercalate_cons_cons, String.toList_append, List.append_assoc] at hnext ⊢
    rw [hnext, hbetween, List.map_cons, behind]
    simp

/-- no number goes on with a blank or a closing mark -/
theorem behind_apart (level : Nat) {closing : Char} (hclosing : closing = ']' ∨ closing = '\x7d')
    (members : List (List Char)) (rest : List Char) : Apart (L.behind level closing members ++ rest) := by
  have hspace : ∀ c, isSpace c = true → isDigit c = false ∧ c ≠ '.' ∧ c ≠ 'e' ∧ c ≠ 'E' := by
    intro c hc
    simp only [isSpace, Bool.or_eq_true, beq_iff_eq] at hc
    rcases hc with ((rfl | rfl) | rfl) | rfl <;> decide
  intro c hc
  cases members with
  | nil =>
    rw [behind] at hc
    cases hgap : L.gap level with
    | nil =>
      rw [hgap] at hc
      obtain rfl := Option.some.inj hc
      rcases hclosing with rfl | rfl <;> decide
    | cons d ds =>
      rw [hgap] at hc
      obtain rfl := Option.some.inj hc
      exact hspace d (L.gap_space level d (hgap ▸ List.mem_cons_self))
  | cons member members =>
    obtain rfl := Option.some.inj hc
    decide

theorem length_field (name : String) (value : List Char) :
    (L.field name value).length = (quote name).toList.length + (L.colon.length + value.length + 1) := by
  simp [field]

theorem length_behind_pos (level : Nat) (closing : Char) (members : List (List Char)) :
    0 < (L.behind level closing members).length := by
  cases members <;> simp [behind]

end Layout

/-! ## Documents -/

/-- a number as its text reads: null if it is not finite -/
def rereadNumber (n : Number) : Json :=
  match readNumber n.toText.toList with
  | some (m, _) => .num m
  | none => .null

mutual

/-- a document as its text reads -/
def reread : Json → Json
  | .null => .null
  | .bool b => .bool b
  | .num n => rereadNumber n
  | .str s => .str s
  | .arr items => .arr (rereadItems items)
  | .obj fields => .obj (Fields.ofList (rereadFields fields))

/-- the members of a list, each as its text reads -/
def rereadItems : List Json → List Json
  | [] => []
  | item :: rest => reread item :: rereadItems rest

/-- the fields of an object, each value as its text reads -/
def rereadFields : List (String × Json) → List (String × Json)
  | [] => []
  | (name, value) :: rest => (name, reread value) :: rereadFields rest

end

theorem starts_toText (q : Rat) : ∃ c cs, ((Number.finite q).toText).toList = c :: cs ∧ StartsNumber c := by
  obtain ⟨l, hl⟩ := Number.exists_literal q
  obtain ⟨d, ds, hwhole⟩ := List.exists_cons_of_ne_nil l.whole_ne
  have hdigit : isDigit d = true := l.whole_digits d (hwhole ▸ List.mem_cons_self)
  rw [← hl, Number.Literal.text, Number.Literal.body, hwhole]
  split
  · exact ⟨_, _, rfl, Or.inl rfl⟩
  · exact ⟨_, _, rfl, Or.inr hdigit⟩

theorem readValue_numberText (n : Number) (fuel : Nat) {rest : List Char} (hrest : Apart rest) :
    readValue (fuel + 1) ((numberText n).toList ++ rest) = some (rereadNumber n, rest) := by
  cases n with
  | nan => rfl
  | infinite negative => cases negative <;> rfl
  | finite q =>
    obtain ⟨m, hm⟩ := Number.readNumber_toText q
    obtain ⟨c, cs, htext, hc⟩ := starts_toText q
    have hown := hm [] (fun _ hnone => by cases hnone)
    rw [List.append_nil] at hown
    rw [rereadNumber, hown]
    have hrun := hm rest hrest
    rw [htext] at hrun
    have hfinite : numberText (.finite q) = (Number.finite q).toText := rfl
    rw [hfinite, htext, List.cons_append, readValue_number hc, ← List.cons_append, hrun]
    rfl

namespace Layout

variable {L : Layout} {write : Nat → Json → String}

/-- a value begins with neither a blank nor the closing mark of a list -/
theorem Writes.head (hw : L.Writes write) (level : Nat) (j : Json) :
    ∃ c cs, (write level j).toList = c :: cs ∧ isSpace c = false ∧ c ≠ ']' := by
  cases j with
  | null => exact ⟨'n', ['u', 'l', 'l'], by simp [hw.null], rfl, by decide⟩
  | bool b =>
    cases b with
    | true => exact ⟨'t', ['r', 'u', 'e'], by simp [hw.bool], rfl, by decide⟩
    | false => exact ⟨'f', ['a', 'l', 's', 'e'], by simp [hw.bool], rfl, by decide⟩
  | num n =>
    rw [hw.num]
    cases n with
    | finite q =>
      obtain ⟨c, cs, htext, hc⟩ := starts_toText q
      refine ⟨c, cs, htext, hc.not_space, ?_⟩
      rintro rfl
      exact absurd hc (by decide)
    | _ => exact ⟨'n', ['u', 'l', 'l'], by simp [numberText, Number.isFinite], rfl, by decide⟩
  | str s =>
    have htext := toList_quote s []
    rw [List.append_nil] at htext
    exact ⟨'"', _, by rw [hw.str, htext], rfl, by decide⟩
  | arr items => cases items <;> exact ⟨'[', _, hw.arr _ _, rfl, by decide⟩
  | obj fields => cases fields <;> exact ⟨'\x7b', _, hw.obj _ _, rfl, by decide⟩

theorem Writes.length_pos (hw : L.Writes write) (level : Nat) (j : Json) : 0 < (write level j).toList.length := by
  obtain ⟨c, cs, htext, -⟩ := hw.head level j
  simp [htext]

/-- a list with members is read from the first of them on -/
theorem Writes.readValue_items (hw : L.Writes write) (fuel level : Nat) (j : Json) (cs : List Char) :
    readValue (fuel + 1) ('[' :: (L.gap (level + 1) ++ ((write (level + 1) j).toList ++ cs))) =
      readItems fuel [] ((write (level + 1) j).toList ++ cs) := by
  obtain ⟨c, rest, htext, hspace, hmark⟩ := hw.head (level + 1) j
  rw [readValue, skip_of_head rfl]
  simp only [skip_spaces (L.gap_space _)]
  rw [htext, List.cons_append, skip_of_head hspace]
  split
  · exact absurd (List.cons.inj ‹_›).1 hmark
  · rfl

/-- an object with fields is read from the first of them on -/
theorem readValue_fields (fuel level : Nat) (name : String) (value cs : List Char) :
    readValue (fuel + 1) ('\x7b' :: (L.gap (level + 1) ++ (L.field name value ++ cs))) =
      readFields fuel [] (L.field name value ++ cs) := by
  rw [field, List.append_assoc, readValue, skip_of_head rfl]
  simp only [skip_spaces (L.gap_space _)]
  rw [toList_quote, skip_of_head rfl]
  rfl

/-- reading fields goes on behind the value of one -/
def readBehind (fuel : Nat) (acc : List (String × Json)) (name : String) : Option (Json × List Char) →
    Option (Json × List Char)
  | none => none
  | some (value, rest) =>
    match skip rest with
    | ',' :: rest => readFields fuel ((name, value) :: acc) rest
    | '\x7d' :: rest => some (.obj (Fields.ofList ((name, value) :: acc).reverse), rest)
    | _ => none

theorem readFields_field (fuel : Nat) (acc : List (String × Json)) (name : String) (text cs : List Char) :
    readFields (fuel + 1) acc (L.field name text ++ cs) = readBehind fuel acc name (readValue fuel (text ++ cs)) := by
  rw [field, List.append_assoc, toList_quote, readFields, skip_of_head rfl]
  simp only [readText_quote]
  rw [List.cons_append, skip_of_head rfl, List.append_assoc]
  simp only [readValue_spaces L.colon_space]
  rfl

mutual

/-- **A value reads back**, at any level. -/
theorem Writes.readValue (hw : L.Writes write) : ∀ (j : Json) (level fuel : Nat) (rest : List Char),
    (write level j).toList.length ≤ fuel → Apart rest →
    Json.readValue (fuel + 1) ((write level j).toList ++ rest) = some (reread j, rest)
  | .null => by simp [hw.null, Json.readValue, skip, isSpace, reread]
  | .bool true => by simp [hw.bool, Json.readValue, skip, isSpace, reread]
  | .bool false => by simp [hw.bool, Json.readValue, skip, isSpace, reread]
  | .num n => by
    intro level fuel rest _ hrest
    rw [hw.num]
    exact readValue_numberText n fuel hrest
  | .str s => by
    intro level fuel rest _ _
    rw [hw.str, toList_quote, Json.readValue, skip_of_head rfl]
    simp only [readText_quote, Option.map_some]
    rfl
  | .arr [] => by
    simp [hw.arr, enclosed, Json.readValue, skip, isSpace, reread, rereadItems]
  | .arr (item :: items) => by
    intro level fuel rest hfuel _
    have hpos := hw.length_pos (level + 1) item
    have hbehind := L.length_behind_pos level ']' (items.map fun item => (write (level + 1) item).toList)
    rw [hw.arr, List.map_cons, enclosed] at hfuel ⊢
    simp only [List.length_cons, List.length_append] at hfuel
    obtain ⟨fuel, rfl⟩ : ∃ k, fuel = k + 1 + 1 := ⟨fuel - 2, by omega⟩
    have hitem := hw.readValue item (level + 1) fuel
      (L.behind level ']' (items.map fun item => (write (level + 1) item).toList) ++ rest) (by omega)
      (L.behind_apart level (.inl rfl) _ rest)
    have hitems := hw.readItems items level (fuel + 1) [] (reread item) _ rest hitem (by omega)
    simp only [List.cons_append, List.append_assoc]
    rw [hw.readValue_items, hitems]
    rfl
  | .obj [] => by
    simp [hw.obj, enclosed, Json.readValue, skip, isSpace, reread, rereadFields, Fields.ofList, Fields.arrange]
  | .obj ((name, value) :: fields) => by
    intro level fuel rest hfuel _
    have hpos := hw.length_pos (level + 1) value
    have hbehind := L.length_behind_pos level '\x7d'
      (fields.map fun f => L.field f.1 (write (level + 1) f.2).toList)
    rw [hw.obj, List.map_cons, enclosed] at hfuel ⊢
    simp only [length_field, List.length_cons, List.length_append] at hfuel
    obtain ⟨fuel, rfl⟩ : ∃ k, fuel = k + 1 + 1 := ⟨fuel - 2, by omega⟩
    have hvalue := hw.readValue value (level + 1) fuel
      (L.behind level '\x7d' (fields.map fun f => L.field f.1 (write (level + 1) f.2).toList) ++ rest) (by omega)
      (L.behind_apart level (.inr rfl) _ rest)
    have hfields := hw.readFields fields level (fuel + 1) [] name (reread value) _ rest hvalue (by omega)
    simp only [List.cons_append, List.append_assoc]
    rw [readValue_fields, hfields]
    rfl
termination_by structural j => j

/-- members behind one that was read -/
theorem Writes.readItems (hw : L.Writes write) : ∀ (items : List Json) (level fuel : Nat) (acc : List Json)
    (item : Json) (cs rest : List Char),
    Json.readValue fuel cs =
      some (item, L.behind level ']' (items.map fun item => (write (level + 1) item).toList) ++ rest) →
    (L.behind level ']' (items.map fun item => (write (level + 1) item).toList)).length ≤ fuel →
    Json.readItems (fuel + 1) acc cs = some (.arr (acc.reverse ++ item :: rereadItems items), rest)
  | [] => by
    intro level fuel acc item cs rest hread _
    rw [Json.readItems, hread]
    simp only [List.map_nil, behind, List.append_assoc, skip_spaces (L.gap_space _)]
    rw [List.singleton_append, skip_of_head rfl]
    simp [rereadItems]
  | next :: items => by
    intro level fuel acc item cs rest hread hfuel
    have hpos := hw.length_pos (level + 1) next
    have hbehind := L.length_behind_pos level ']' (items.map fun item => (write (level + 1) item).toList)
    simp only [List.map_cons, behind, List.length_cons, List.length_append] at hread hfuel
    obtain ⟨fuel, rfl⟩ : ∃ k, fuel = k + 1 + 1 := ⟨fuel - 2, by omega⟩
    have hnext := hw.readValue next (level + 1) fuel
      (L.behind level ']' (items.map fun item => (write (level + 1) item).toList) ++ rest) (by omega)
      (L.behind_apart level (.inl rfl) _ rest)
    rw [← readValue_spaces (L.gap_space (level + 1))] at hnext
    have hrest := hw.readItems items level (fuel + 1) (item :: acc) (reread next) _ rest hnext (by omega)
    rw [Json.readItems, hread]
    simp only [List.cons_append, List.append_assoc]
    rw [skip_of_head rfl]
    refine Eq.trans hrest ?_
    simp [rereadItems]
termination_by structural items => items

/-- fields behind one that was read -/
theorem Writes.readFields (hw : L.Writes write) : ∀ (fields : List (String × Json)) (level fuel : Nat)
    (acc : List (String × Json)) (name : String) (value : Json) (text rest : List Char),
    Json.readValue fuel (text ++ (L.behind level '\x7d'
        (fields.map fun f => L.field f.1 (write (level + 1) f.2).toList) ++ rest)) =
      some (value, L.behind level '\x7d' (fields.map fun f => L.field f.1 (write (level + 1) f.2).toList) ++ rest) →
    (L.behind level '\x7d' (fields.map fun f => L.field f.1 (write (level + 1) f.2).toList)).length ≤ fuel →
    Json.readFields (fuel + 1) acc (L.field name text ++
        (L.behind level '\x7d' (fields.map fun f => L.field f.1 (write (level + 1) f.2).toList) ++ rest)) =
      some (.obj (Fields.ofList (acc.reverse ++ (name, value) :: rereadFields fields)), rest)
  | [] => by
    intro level fuel acc name value text rest hread _
    rw [readFields_field, hread, readBehind]
    simp only [List.map_nil, behind, List.append_assoc, skip_spaces (L.gap_space _)]
    rw [List.singleton_append, skip_of_head rfl]
    simp [rereadFields]
  | (next, nextValue) :: fields => by
    intro level fuel acc name value text rest hread hfuel
    have hpos := hw.length_pos (level + 1) nextValue
    have hbehind := L.length_behind_pos level '\x7d'
      (fields.map fun f => L.field f.1 (write (level + 1) f.2).toList)
    simp only [List.map_cons, behind, length_field, List.length_cons, List.length_append] at hfuel
    obtain ⟨fuel, rfl⟩ : ∃ k, fuel = k + 1 + 1 := ⟨fuel - 2, by omega⟩
    have hnext := hw.readValue nextValue (level + 1) fuel
      (L.behind level '\x7d' (fields.map fun f => L.field f.1 (write (level + 1) f.2).toList) ++ rest) (by omega)
      (L.behind_apart level (.inr rfl) _ rest)
    have hrest := hw.readFields fields level (fuel + 1) ((name, value) :: acc) next (reread nextValue) _ rest
      hnext (by omega)
    rw [← readFields_spaces (L.gap_space (level + 1))] at hrest
    rw [readFields_field, hread, readBehind]
    simp only [List.map_cons, behind, List.cons_append, List.append_assoc]
    rw [skip_of_head rfl]
    refine Eq.trans hrest ?_
    simp [rereadFields]
termination_by structural fields => fields

end

end Layout

/-- **A document reads back** in any layout: what was written is one document, with nothing behind it. -/
theorem Layout.Writes.read? {L : Layout} {write : Nat → Json → String} (hw : L.Writes write) (level : Nat) (j : Json) :
    Json.read? (write level j).toList = some (reread j) := by
  have hread := hw.readValue j level (write level j).toList.length [] le_rfl (fun _ hnone => by cases hnone)
  rw [List.append_nil] at hread
  rw [Json.read?, hread]
  rfl

/-! ## The two ways to write -/

theorem compactItems_eq (items : List Json) : compactItems items = items.map compact := by
  induction items with
  | nil => rfl
  | cons item items ih => rw [compactItems, ih, List.map_cons]

theorem compactFields_eq (fields : List (String × Json)) :
    compactFields fields = fields.map fun f => quote f.1 ++ ":" ++ compact f.2 := by
  induction fields with
  | nil => rfl
  | cons f fields ih => rw [compactFields, ih, List.map_cons]

theorem indentItems_eq (level : Nat) (items : List Json) : indentItems level items = items.map (indentAt level) := by
  induction items with
  | nil => rfl
  | cons item items ih => rw [indentItems, ih, List.map_cons]

theorem indentFields_eq (level : Nat) (fields : List (String × Json)) :
    indentFields level fields = fields.map fun f => quote f.1 ++ ": " ++ indentAt level f.2 := by
  induction fields with
  | nil => rfl
  | cons f fields ih => rw [indentFields, ih, List.map_cons]

theorem toList_block {opening closing : String} {o c : Char} (ho : opening.toList = [o]) (hc : closing.toList = [c])
    (level : Nat) (members : List String) :
    (block opening closing level members).toList = Layout.lined.enclosed level o c (members.map String.toList) := by
  cases members with
  | nil => simp [block, Layout.enclosed, ho, hc]
  | cons member rest =>
    have hbetween : ("," ++ newline (level + 1)).toList = ',' :: Layout.lined.gap (level + 1) := by
      simp [newline, Layout.lined]
    have hmembers := Layout.lined.toList_intercalate level c hbetween member rest
    have hgap : ∀ k, (newline k).toList = Layout.lined.gap k := fun k => String.toList_ofList
    simp only [block, String.toList_append, hgap, ho, hc, List.append_assoc]
    rw [hmembers]
    rfl

theorem toList_enclose {opening closing : String} {o c : Char} (ho : opening.toList = [o]) (hc : closing.toList = [c])
    (level : Nat) (members : List String) :
    (enclose opening closing members).toList = Layout.single.enclosed level o c (members.map String.toList) := by
  cases members with
  | nil => simp [enclose, Layout.enclosed, ho, hc]
  | cons member rest =>
    have hbetween : ",".toList = ',' :: Layout.single.gap (level + 1) := by simp [Layout.single]
    have hmembers := Layout.single.toList_intercalate level c hbetween member rest
    simp only [enclose, String.toList_append, ho, hc, List.append_assoc]
    exact congrArg (o :: ·) hmembers

theorem writes_indentAt : Layout.lined.Writes indentAt where
  null _ := by rw [indentAt]
  bool _ b := by cases b <;> rw [indentAt] <;> rfl
  num _ _ := by rw [indentAt]
  str _ _ := by rw [indentAt]
  arr level items := by
    rw [indentAt, toList_block (o := '[') (c := ']') (by simp) (by simp), indentItems_eq, List.map_map]
    rfl
  obj level fields := by
    rw [indentAt, toList_block (o := '\x7b') (c := '\x7d') (by simp) (by simp), indentFields_eq, List.map_map]
    simp [Layout.field, Layout.lined, Function.comp_def]

theorem writes_compact : Layout.single.Writes fun _ => compact where
  null _ := by rw [compact]
  bool _ b := by cases b <;> rw [compact] <;> rfl
  num _ _ := by rw [compact]
  str _ _ := by rw [compact]
  arr level items := by
    rw [compact, toList_enclose (o := '[') (c := ']') (by simp) (by simp) level, compactItems_eq, List.map_map]
    rfl
  obj level fields := by
    rw [compact, toList_enclose (o := '\x7b') (c := '\x7d') (by simp) (by simp) level, compactFields_eq, List.map_map]
    simp [Layout.field, Layout.single, Function.comp_def]

/-- **A document over several lines reads back.** -/
theorem read?_indented (j : Json) : read? (indented j).toList = some (reread j) := writes_indentAt.read? 0 j

/-- **A document on one line reads back.** -/
theorem read?_compact (j : Json) : read? (compact j).toList = some (reread j) := writes_compact.read? 0 j

/-! ## Fields -/

section Fields

variable {fs gs : Fields}

theorem set_eq (name : String) (value : Json) (fs : Fields) : Fields.set name value fs = Named.put name value fs := by
  induction fs with
  | nil => rfl
  | cons f fs ih => rw [Fields.set, Named.put, ih]

theorem foldl_set (h : ((gs ++ fs).map Prod.fst).Nodup) :
    fs.foldl (fun acc f => Fields.set f.1 f.2 acc) gs = gs ++ fs := by
  induction fs generalizing gs with
  | nil => simp
  | cons f fs ih =>
    have hnew : f.1 ∉ gs.map Prod.fst := by
      intro hmem
      rw [List.map_append, List.nodup_append] at h
      exact h.2.2 f.1 hmem f.1 (by simp) rfl
    rw [List.foldl_cons, set_eq, Named.put_of_not_mem hnew, ih (by simpa using h)]
    simp

theorem arrange_perm (fs : Fields) : (Fields.arrange fs).Perm fs := by
  have hplaces : (fs.filterMap fun f => (position? f.1).map fun n => (n, f)).map (·.2) =
      fs.filter fun f => (position? f.1).isSome := by
    induction fs with
    | nil => rfl
    | cons f fs ih => cases hf : position? f.1 <;> simp [hf, ih]
  have hsplit : (fs.filter (fun f => (position? f.1).isSome) ++ fs.filter fun f => (position? f.1).isNone).Perm fs := by
    simpa using List.filter_append_perm (fun f => (position? f.1).isSome) fs
  unfold Fields.arrange
  refine List.Perm.trans (List.Perm.append_right _ ?_) hsplit
  rw [← hplaces]
  exact (List.mergeSort_perm _ _).map _

/-- fields under names of their own are found in an object as they were given -/
theorem get?_ofList (h : (fs.map Prod.fst).Nodup) (name : String) :
    Fields.get? (Fields.ofList fs) name = Fields.get? fs name := by
  have hnames : (([] ++ fs).map Prod.fst).Nodup := h
  have hset : fs.foldl (fun acc f => Fields.set f.1 f.2 acc) [] = fs := foldl_set hnames
  rw [Fields.ofList, hset]
  exact (Named.lookup_perm h (arrange_perm fs).symm name).symm

theorem names_rereadFields (fs : Fields) : (rereadFields fs).map Prod.fst = fs.map Prod.fst := by
  induction fs with
  | nil => rfl
  | cons f fs ih => simp [rereadFields, ih]

theorem get?_rereadFields (fs : Fields) (name : String) :
    Fields.get? (rereadFields fs) name = (Fields.get? fs name).map reread := by
  induction fs with
  | nil => rfl
  | cons f fs ih =>
    obtain ⟨n, v⟩ := f
    simp only [Fields.get?] at ih ⊢
    cases hname : name == n <;> simp [rereadFields, List.lookup_cons, hname, ih]

/-- **The fields of an object read back** under their names. -/
theorem get?_reread (h : (fs.map Prod.fst).Nodup) (name : String) :
    (reread (.obj fs)).get? name = (Fields.get? fs name).map reread := by
  rw [reread, Json.get?, get?_ofList (by rwa [names_rereadFields]), get?_rereadFields]

end Fields

end EnquiryMail.Json
