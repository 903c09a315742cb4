/-
Text measured in 16-bit units. A character of the basic plane takes one unit, one above it takes two. Reply
codes, column widths and the order of keys in written objects are all counted or compared in these units.

`length_codeUnits`, `units_takeUnits_le`, `units_le_padEnd`: units written, cut off and filled up agree with the measure.
-/

namespace EnquiryMail.Text

/-- 16-bit units that one character takes -/
def unitSize (c : Char) : Nat := if c.toNat < 0x10000 then 1 else 2

/-- length of a text in 16-bit units -/
def units : List Char → Nat
  | [] => 0
  | c :: cs => unitSize c + units cs

/-- the units that a character is written in -/
def codeUnits (c : Char) : List Nat :=
  if c.toNat < 0x10000 then [c.toNat]
  else [0xD800 + (c.toNat - 0x10000) / 0x400, 0xDC00 + (c.toNat - 0x10000) % 0x400]

/-- the character that begins at unit offset `n`, if one does -/
def unitAt? : List Char → Nat → Option Char
  | [], _ => none
  | c :: _, 0 => some c
  | c :: cs, n + 1 => if unitSize c ≤ n + 1 then unitAt? cs (n + 1 - unitSize c) else none

/-- the characters that lie wholly inside the first `n` units -/
def takeUnits : Nat → List Char → List Char
  | _, [] => []
  | n, c :: cs => if unitSize c ≤ n then c :: takeUnits (n - unitSize c) cs else []

/-- the characters that begin at unit offset `n` or later -/
def dropUnits : Nat → List Char → List Char
  | _, [] => []
  | 0, c :: cs => c :: cs
  | n + 1, c :: cs => dropUnits (n + 1 - unitSize c) cs

/-- `cs` with `fill` in front up to `width` units -/
def padStart (width : Nat) (fill : Char) (cs : List Char) : List Char :=
  List.replicate (width - units cs) fill ++ cs

/-- `cs` with blanks behind it up to `width` units -/
def padEnd (width : Nat) (cs : List Char) : List Char :=
  cs ++ List.replicate (width - units cs) ' '

/-- the rank of a character among the first units of all characters: those above the basic plane come between
the characters below U+D800 and those from U+E000 on -/
def unitRank (c : Char) : Nat :=
  if 0xE000 ≤ c.toNat ∧ c.toNat < 0x10000 then c.toNat + 0x110000 else c.toNat

/-- whether `a` comes before or with `b` in the order of their units -/
def unitsLe : List Char → List Char → Bool
  | [], _ => true
  | _ :: _, [] => false
  | a :: as, b :: bs => unitRank a < unitRank b || (a == b && unitsLe as bs)

theorem length_codeUnits (c : Char) : (codeUnits c).length = unitSize c := by
  unfold codeUnits unitSize; split <;> rfl

theorem units_append (as bs : List Char) : units (as ++ bs) = units as + units bs := by
  induction as with
  | nil => simp [units]
  | cons a as ih => simp [units, ih]; omega

theorem units_takeUnits_le (n : Nat) (cs : List Char) : units (takeUnits n cs) ≤ n := by
  induction cs generalizing n with
  | nil => simp [takeUnits, units]
  | cons c cs ih =>
    simp only [takeUnits]
    split
    · have := ih (n - unitSize c)
      simp only [units]
      omega
    · simp [units]

theorem units_le_padEnd (width : Nat) (cs : List Char) : width ≤ units (padEnd width cs) := by
  have blank : ∀ n, units (List.replicate n ' ') = n := by
    intro n
    induction n with
    | zero => rfl
    | succ n ih => simp [List.replicate_succ, units, ih, unitSize]; omega
  simp only [padEnd, units_append, blank]
  omega

end EnquiryMail.Text
