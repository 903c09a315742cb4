/-
Tables of characters written as texts. A table is a list of lines, a line a list of pieces between blanks. All numbers
are hexadecimal; `41+19` is a run, a code point with as many behind it as follow the plus sign, and `bd=31.2044.32` is
an entry, a code point with others.
-/
import EnquiryMail.Text.Blank
import EnquiryMail.Text.Hex

namespace EnquiryMail.Text.Table

-- sums are those of the natural numbers by themselves, whatever else is imported
attribute [local instance (10000)] Zero.ofOfNat0

/-- what stands in front of the first `sep`, and what behind it -/
def splitAt (sep : Char) (cs : List Char) : List Char × List Char :=
  (cs.takeWhile (· != sep), (cs.dropWhile (· != sep)).drop 1)

/-- the pieces of a line -/
def pieces (line : List Char) : List (List Char) := splitOn ' ' line

/-- the pieces of a table whose lines have no head -/
def allPieces (lines : List String) : List (List Char) := lines.flatMap fun l => pieces l.toList

/-- the lines of a table, each with its head in front of a colon and the pieces behind it -/
def headed (lines : List String) : List (List Char × List (List Char)) :=
  lines.map fun l =>
    let (head, rest) := splitAt ':' l.toList
    (head, pieces (rest.drop 1))

/-- consecutive code points -/
structure Run where
  first : Nat
  /-- how many -/
  count : Nat
  deriving DecidableEq, Repr

/-- reads a run -/
def Run.read (piece : List Char) : Run :=
  let (first, more) := splitAt '+' piece
  ⟨hexNumber first, hexNumber more + 1⟩

/-- the place of a code point in a run -/
def Run.place? (r : Run) (n : Nat) : Option Nat :=
  if r.first ≤ n ∧ n < r.first + r.count then some (n - r.first) else none

/-- the place of a code point in several runs, the ones in front counted -/
def place? : List Run → Nat → Option Nat
  | [], _ => none
  | r :: rest, n =>
    match r.place? n with
    | some i => some i
    | none => (place? rest n).map (r.count + ·)

/-- how many code points several runs have -/
def size (runs : List Run) : Nat := (runs.map (·.count)).sum

/-- numbers between points -/
def points (cs : List Char) : List Nat := (splitOn '.' cs).map hexNumber

/-- reads an entry -/
def entry (piece : List Char) : Nat × List Nat :=
  let (n, others) := splitAt '=' piece
  (hexNumber n, points others)

end EnquiryMail.Text.Table
