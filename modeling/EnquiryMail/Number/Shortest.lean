/-
The text of a number: the fewest digits that read back to it, of those the nearest, a tie to the even one.
Values from 1e-7 up to 1e21 are written positionally, others with an exponent.
-/
import EnquiryMail.Number.Basic

namespace EnquiryMail.Number

-- powers are those of the natural numbers by themselves, whatever else is imported
attribute [local instance (10000)] instPowNat

/-- decimal digits of a natural number -/
def decimal (n : Nat) : List Char := Nat.toDigits 10 n

/-- zeros between the decimal point and the first digit of `x`, at most as many as the first argument -/
def zerosBehindPoint : Nat → Rat → Nat
  | 0, _ => 0
  | fuel + 1, x => if 1 ≤ x * 10 then 0 else zerosBehindPoint fuel (x * 10) + 1

/-- digits of `a` in front of the decimal point when `1 ≤ a`, else minus the zeros behind it -/
def pointOf (a : Rat) : Int :=
  if 1 ≤ a then ((decimal a.floor.toNat).length : Int)
  else 0 - (zerosBehindPoint (decimal a.den).length a : Int)

/-- `10 ^ e` -/
def pow10 (e : Int) : Rat := if 0 ≤ e then (10 ^ e.toNat : Nat) else mkRat 1 (10 ^ (-e).toNat)

/-- the nearest number with `n` digits that reads back to `a`, on the grid of `10 ^ (point - n)` -/
def withDigits? (a : Rat) (point : Int) (n : Nat) : Option Nat :=
  let unit := pow10 (point - n)
  let x := a / unit
  let low := x.floor.toNat
  let reads (d : Nat) : Bool := nearest (d * unit) == .finite a
  let below := reads low
  let above := reads (low + 1)
  if below && above then
    let gap := x - low
    if gap < mkRat 1 2 then some low
    else if mkRat 1 2 < gap then some (low + 1)
    else some (if low % 2 = 0 then low else low + 1)
  else if below then some low
  else if above then some (low + 1)
  else none

/-- the first count of digits from `n` on, within the fuel, that reads back, and the digits -/
def fewestDigits (a : Rat) (point : Int) : Nat → Nat → Nat × Nat
  | 0, n => ((a / pow10 (point - n)).floor.toNat, n)
  | fuel + 1, n =>
    match withDigits? a point n with
    | some d => (d, n)
    | none => fewestDigits a point fuel (n + 1)

/-- the digits of a positive value and the place of its point: `0.d₁d₂… · 10 ^ point` -/
def shortest (a : Rat) : List Char × Int :=
  let point := pointOf a
  let (d, n) := fewestDigits a point 17 1
  let digits := decimal d
  let kept := (digits.reverse.dropWhile (· == '0')).reverse
  (kept, point + (digits.length - n : Int))

/-- lays out digits and point -/
def layout (digits : List Char) (point : Int) : List Char :=
  let k := digits.length
  if k ≤ point ∧ point ≤ 21 then digits ++ List.replicate (point.toNat - k) '0'
  else if 0 < point ∧ point ≤ 21 then digits.take point.toNat ++ '.' :: digits.drop point.toNat
  else if -6 < point ∧ point ≤ 0 then '0' :: '.' :: (List.replicate (-point).toNat '0' ++ digits)
  else
    let e := point - 1
    let tail := 'e' :: (if 0 ≤ e then '+' else '-') :: decimal e.natAbs
    match digits with
    | [] => tail
    | [d] => d :: tail
    | d :: ds => d :: '.' :: (ds ++ tail)

/-- the text of a number -/
def toText : Number → String
  | .nan => "NaN"
  | .infinite negative => if negative then "-Infinity" else "Infinity"
  | .finite q =>
    if q = 0 then "0"
    else
      let (digits, point) := shortest (if q < 0 then -q else q)
      String.ofList ((if q < 0 then ['-'] else []) ++ layout digits point)

/-- one digit behind the point, the nearer one, a tie away from zero; from 1e21 on the plain text -/
def toTenths : Number → String
  | .finite q =>
    if (10 ^ (21 : Nat) : Nat) ≤ (if q < 0 then -q else q) then toText (.finite q)
    else
      let a := if q < 0 then -q else q
      let tenths := (a * 10 + mkRat 1 2).floor.toNat
      let body := decimal (tenths / 10) ++ '.' :: decimal (tenths % 10)
      String.ofList (if q < 0 then '-' :: body else body)
  | x => toText x

end EnquiryMail.Number
