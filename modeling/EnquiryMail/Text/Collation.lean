/-
Dictionary order of texts. Texts are compared by their letters first, whatever accents and forms these have; then by
accents; then by forms, small letters before capitals and plain ones before others. White space and punctuation come
before digits, digits before letters, the scripts in a fixed order, ideographs behind them, and what is none of these at
the end by its number. Marks count as accents alone, and control characters and their like for nothing.

A text has one key for all three comparisons.
-/
import EnquiryMail.Text.Canonical
import EnquiryMail.Text.Collation.Expansions
import EnquiryMail.Text.Collation.Ideographs
import EnquiryMail.Text.Collation.Letters
import EnquiryMail.Text.Collation.Marks
import EnquiryMail.Text.Collation.Variants

namespace EnquiryMail.Text

namespace Collation

/-! ## Weights -/

/-- what two characters are told apart by: first the letter, then the accent, then the form; a mark has no letter -/
structure Weight where
  letter : Nat
  accent : Nat
  form : Nat
  deriving DecidableEq, Repr

/-- the accent of letters without one -/
def plainAccent : Nat := 0x500

/-- the form of small letters -/
def plainForm : Nat := 5

/-- a letter without accent in its plain form -/
def plain (letter : Nat) : Weight := ⟨letter, plainAccent, plainForm⟩

/-- the runs of letters in their order -/
def letters : List Table.Run := (Table.allPieces letterTable).map .read

/-- the runs of ideographs in their order -/
def ideographs : List Table.Run := (Table.allPieces ideographTable).map .read

/-- the lowest letter, in front of all that have a place -/
def lowest : Nat := 1

/-- letters of the two tables -/
def ordered : Nat := Table.size letters + Table.size ideographs + 2

/-- the letter of a character that has a place in one of the tables -/
def letter? (n : Nat) : Option Nat :=
  match Table.place? letters n with
  | some i => some (i + 2)
  | none => (Table.place? ideographs n).map (Table.size letters + 2 + ·)

/-- accent and form, the common accent left out -/
def accentAndForm (cs : List Char) : Nat × Nat :=
  match Table.points cs with
  | [accent, form] => (accent, form)
  | [form] => (plainAccent, form)
  | _ => (plainAccent, plainForm)

/-- pairs of characters, every one or every second, with the accent and form of the first ones -/
structure VariantRun where
  run : Table.Run
  /-- the characters that the first ones differ from -/
  base : Nat
  step : Nat
  weights : Nat × Nat

/-- reads a run of pairs -/
def VariantRun.read (weights : Nat × Nat) (piece : List Char) : VariantRun :=
  let (first, bases) := Table.splitAt '=' piece
  let (base, every) := Table.splitAt '+' bases
  let (base, second) := Table.splitAt '~' base
  let step := if second = [] then 1 else 2
  ⟨⟨hexNumber first, step * (hexNumber every + hexNumber second) + 1⟩, hexNumber base, step, weights⟩

/-- the character that one differs from -/
def VariantRun.base? (v : VariantRun) (n : Nat) : Option Nat :=
  (v.run.place? n).bind fun i => if i % v.step = 0 then some (v.base + i) else none

/-- all runs of pairs -/
def variants : List VariantRun :=
  (Table.headed variantTable).flatMap fun (head, runs) => runs.map (.read (accentAndForm head))

/-- the weight of a character that differs from a letter in accent or form -/
def variant? (n : Nat) : Option Weight :=
  variants.findSome? fun v =>
    (v.base? n).bind fun base => (letter? base).map fun letter => ⟨letter, v.weights.1, v.weights.2⟩

/-- runs of marks with accent and form -/
def marks : List ((Nat × Nat) × Table.Run) :=
  (Table.allPieces markTable).map fun piece =>
    let (weights, run) := Table.splitAt '=' piece
    (accentAndForm weights, .read run)

/-- the weight of a mark -/
def mark? (n : Nat) : Option Weight :=
  (marks.find? fun e => (e.2.place? n).isSome).map fun e => ⟨0, e.1.1, e.1.2⟩

/-- characters with those that they stand for, and the accents and forms of these -/
def expansions : List (Nat × List Nat × List (Nat × Nat)) :=
  (Table.headed expansionTable).flatMap fun (head, entries) =>
    entries.map fun e => ((Table.entry e).1, (Table.entry e).2, (Table.pieces head).map accentAndForm)

/-- the weights of a character that stands for several -/
def expansion? (n : Nat) : Option (List Weight) :=
  (expansions.lookup n).map fun (bases, weights) =>
    (bases.zip weights).map fun (base, w) => ⟨if base = 0 then 0 else (letter? base).getD 0, w.1, w.2⟩

/-- runs of characters that are passed over -/
def ignored : List Table.Run := (Table.allPieces ignoredTable).map .read

/-- the weight of a character that stands in no table: by its number behind all others, a sign for unreadable text
last -/
def otherWeight (n : Nat) : Weight :=
  if n = 0xFFFE then plain lowest
  else if n = 0xFFFD ∨ n = 0xFFFF then plain (ordered + 0x110000 + n)
  else plain (ordered + n)

/-- the weights of a character -/
def weights (n : Nat) : List Weight :=
  match letter? n with
  | some letter => [plain letter]
  | none =>
    match variant? n with
    | some w => [w]
    | none =>
      match mark? n with
      | some w => [w]
      | none =>
        match expansion? n with
        | some ws => ws
        | none => if (Table.place? ignored n).isSome then [] else [otherWeight n]

/-! ## Keys -/

/-- vowels that are written in front of their consonants -/
def frontVowels : List Nat :=
  [0xE40, 0xE41, 0xE42, 0xE43, 0xE44, 0xEC0, 0xEC1, 0xEC2, 0xEC3, 0xEC4, 0x19B5, 0x19B6, 0x19B7, 0x19BA, 0xAAB5, 0xAAB6,
    0xAAB9, 0xAABB, 0xAABC]

/-- consonants of the scripts with such vowels -/
def consonants : List Table.Run :=
  [⟨0xE01, 46⟩, ⟨0xE81, 46⟩, ⟨0xEDC, 4⟩, ⟨0x1980, 44⟩, ⟨0xAA80, 48⟩]

/-- a vowel in front of its consonant: both belong to one script -/
def isFrontVowel (m n : Nat) : Bool :=
  frontVowels.contains m && m / 128 == n / 128 && (Table.place? consonants n).isSome

/-- vowels behind the consonants that they are written in front of -/
def spoken : List Nat → List Nat
  | m :: n :: rest => if isFrontVowel m n then n :: m :: spoken rest else m :: spoken (n :: rest)
  | ns => ns

/-- the mark that a middle dot behind the letter l is -/
def dotBehindL : Weight := ⟨0, 0xFBB6, plainForm⟩

/-- the weights of a text behind a character -/
def weightsFrom (before : Nat) : List Nat → List Weight
  | [] => []
  | n :: rest =>
    (if n = 0xB7 ∧ (before = 0x6C ∨ before = 0x4C) then [dotBehindL] else weights n) ++ weightsFrom n rest

/-- the weights of a text -/
def textWeights (cs : List Char) : List Weight :=
  weightsFrom 0 (spoken (Canonical.compose (Canonical.decomposed cs)))

/-- the key of weights: letters, then accents, then forms, with a zero behind letters and accents -/
def keyOf (ws : List Weight) : List Nat :=
  let level (f : Weight → Nat) : List Nat := (ws.map f).filter (· ≠ 0)
  level (·.letter) ++ 0 :: level (·.accent) ++ 0 :: level (·.form)

/-- the key of a text -/
def key (cs : List Char) : List Nat := keyOf (textWeights cs)

/-- lists of numbers in the order of their first difference -/
def lexLe : List Nat → List Nat → Bool
  | [], _ => true
  | _ :: _, [] => false
  | a :: as, b :: bs => a < b || (a == b && lexLe as bs)

/-- sorts by keys; what has the same key stays in its order -/
def sortBy {α : Type} (text : α → List Char) (xs : List α) : List α :=
  ((xs.map fun x => (key (text x), x)).mergeSort fun a b => lexLe a.1 b.1).map (·.2)

end Collation

end EnquiryMail.Text
