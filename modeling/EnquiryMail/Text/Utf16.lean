/-
Text in 16-bit units, two octets each, in either order of the octets. The order is told by a mark at the beginning,
else by where the zero octets of plain characters lie. Half pairs are replaced, and an odd octet at the end is
dropped.
-/
import EnquiryMail.Text.Utf8

namespace EnquiryMail.Text.Utf16

open Utf8 (Bytes replacement)

/-- which octet of a unit comes first -/
inductive Order
  | low
  | high
  deriving DecidableEq, Repr

/-- units from octets -/
def units (o : Order) : Bytes → List Nat
  | a :: b :: rest =>
    (match o with
      | .low => a.toNat + 256 * b.toNat
      | .high => 256 * a.toNat + b.toNat) :: units o rest
  | _ => []

/-- the first half of a pair -/
def isLead (n : Nat) : Bool := 0xD800 ≤ n && n < 0xDC00

/-- the second half of a pair -/
def isTrail (n : Nat) : Bool := 0xDC00 ≤ n && n < 0xE000

/-- characters from units -/
def join : List Nat → List Char
  | [] => []
  | [n] => [if isLead n || isTrail n then replacement else Char.ofNat n]
  | m :: n :: rest =>
    if isLead m && isTrail n then Char.ofNat (0x10000 + (m - 0xD800) * 0x400 + (n - 0xDC00)) :: join rest
    else (if isLead m || isTrail m then replacement else Char.ofNat m) :: join (n :: rest)

/-- how many of the first units have a zero in one octet alone: the second, or the first -/
def zeros : Nat → Bytes → Nat × Nat
  | n + 1, a :: b :: rest =>
    let (low, high) := zeros n rest
    if a ≠ 0 ∧ b = 0 then (low + 1, high) else if a = 0 ∧ b ≠ 0 then (low, high + 1) else (low, high)
  | _, _ => (0, 0)

/-- the order that octets seem to have -/
def guess (bs : Bytes) : Order :=
  match bs with
  | 0xFE :: 0xFF :: _ => .high
  | 0xFF :: 0xFE :: _ => .low
  | _ => if (zeros 32 bs).1 < (zeros 32 bs).2 then .high else .low

/-- reads octets in an order, or in the one they seem to have -/
def decode (o : Option Order) (bs : Bytes) : List Char := join (units (o.getD (guess bs)) bs)

end EnquiryMail.Text.Utf16
