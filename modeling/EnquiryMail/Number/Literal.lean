/-
Reading numbers. `ofDecimal` gives the value of digits and an exponent; `ofText` reads a whole text as a setting
writes it: blanks around it are dropped, an empty text is zero, hexadecimal, octal and binary literals have no
sign, and anything else is `nan`.
-/
import EnquiryMail.Number.Basic
import EnquiryMail.Text.Blank

namespace EnquiryMail.Number

-- powers are those of the natural numbers by themselves, whatever else is imported
attribute [local instance (10000)] instPowNat

/-- the value of a digit in bases up to 16 -/
def digitValue? (c : Char) : Option Nat :=
  if '0' ≤ c ∧ c ≤ '9' then some (c.toNat - 48)
  else if 'a' ≤ c ∧ c ≤ 'f' then some (c.toNat - 87)
  else if 'A' ≤ c ∧ c ≤ 'F' then some (c.toNat - 55)
  else none

/-- an ASCII decimal digit -/
def isDigit (c : Char) : Bool := '0' ≤ c && c ≤ '9'

/-- the value of decimal digits -/
def natOf (ds : List Char) : Nat := ds.foldl (fun n d => n * 10 + (d.toNat - 48)) 0

/-- `digits · 10 ^ exponent`, rounded; exponents far outside the range are settled without computing the power -/
def ofDecimal (negative : Bool) (digits : List Char) (exponent : Int) : Number :=
  let m := natOf digits
  let size : Int := digits.length + exponent
  if m = 0 ∨ size < -400 then .finite 0
  else if 400 < size - (digits.takeWhile (· == '0')).length then .infinite negative
  else
    let q : Rat := if 0 ≤ exponent then ((m * 10 ^ exponent.toNat : Nat) : Rat) else mkRat m (10 ^ (-exponent).toNat)
    nearest (if negative then -q else q)

/-- an exponent part, `e` already read: sign and digits -/
def exponent? : List Char → Option Int
  | '+' :: ds => if ds ≠ [] ∧ ds.all isDigit then some (natOf ds) else none
  | '-' :: ds => if ds ≠ [] ∧ ds.all isDigit then some (-(natOf ds : Int)) else none
  | ds => if ds ≠ [] ∧ ds.all isDigit then some (natOf ds) else none

/-- a decimal literal without sign: digits with a point anywhere among or around them, then an exponent -/
def unsignedDecimal? (negative : Bool) (cs : List Char) : Option Number :=
  let whole := cs.takeWhile isDigit
  let rest := cs.dropWhile isDigit
  let (places, rest) := match rest with
    | '.' :: tail => (tail.takeWhile isDigit, tail.dropWhile isDigit)
    | _ => ([], rest)
  if whole.isEmpty && places.isEmpty then none
  else
    match rest with
    | [] => some (ofDecimal negative (whole ++ places) (-(places.length : Int)))
    | e :: tail =>
      if e == 'e' || e == 'E' then
        (exponent? tail).map fun x => ofDecimal negative (whole ++ places) (x - places.length)
      else none

/-- the digits of a literal in another base -/
def inBase (base : Nat) (cs : List Char) : Number :=
  if cs.isEmpty then .nan
  else
    match cs.mapM fun c => (digitValue? c).filter (· < base) with
    | some ds => nearest (ds.foldl (fun n d => n * base + d) 0 : Nat)
    | none => .nan

/-- the number that a whole text stands for -/
def ofText (s : String) : Number :=
  match Text.trim s.toList with
  | [] => .finite 0
  | '0' :: 'x' :: ds => inBase 16 ds
  | '0' :: 'X' :: ds => inBase 16 ds
  | '0' :: 'o' :: ds => inBase 8 ds
  | '0' :: 'O' :: ds => inBase 8 ds
  | '0' :: 'b' :: ds => inBase 2 ds
  | '0' :: 'B' :: ds => inBase 2 ds
  | '+' :: cs => signed false cs
  | '-' :: cs => signed true cs
  | cs => signed false cs
where
  /-- what stands behind an optional sign -/
  signed (negative : Bool) (cs : List Char) : Number :=
    if cs = "Infinity".toList then .infinite negative else (unsignedDecimal? negative cs).getD .nan

end EnquiryMail.Number
