/-
Text in seven-bit octets. Plain characters stand for themselves; others are written between a shift sign and a
hyphen, in 16-bit units, highest octet first, as base64 without padding. A shift sign with a hyphen right behind it
stands for itself, and any octet that is not of the base64 alphabet ends a shifted run. Mail folder names use another
shift sign, and a comma where base64 has a slash.
-/
import EnquiryMail.Text.Base64
import EnquiryMail.Text.Utf16

namespace EnquiryMail.Text.Utf7

open Utf8 (Bytes)

/-- the two ways to write shifted text -/
inductive Form
  | common
  | folder
  deriving DecidableEq, Repr

/-- the octet that begins a shifted run -/
def Form.shift : Form → UInt8
  | common => 43
  | folder => 38

/-- an octet of a shifted run -/
def Form.isShifted (f : Form) (b : UInt8) : Bool :=
  (Base64.value? (Char.ofNat b.toNat)).isSome && b != 45 && b != 95 || f == .folder && b == 44

/-- the unit of a plain octet -/
def plain (b : UInt8) : Nat := if b < 128 then b.toNat else 0xFFFD

/-- the units of a piece of a shifted run, without a mark in front -/
def piece (run : Bytes) : List Nat :=
  let digits := run.map fun b => if b = 44 then '/' else Char.ofNat b.toNat
  match Utf16.units .high (Base64.decode digits) with
  | 0xFEFF :: rest => rest
  | us => us

/-- the units of a run that nothing ends: eight characters at a time make whole units -/
def openRun (run : Bytes) : List Nat :=
  let whole := run.length - run.length % 8
  piece (run.take whole) ++ piece (run.drop whole)

/-- units from octets, outside a shifted run or behind the part of one that has been read, newest octet first -/
def unitsFrom (f : Form) : Option Bytes → Bytes → List Nat
  | none, [] => []
  | none, b :: bs => if b = f.shift then unitsFrom f (some []) bs else plain b :: unitsFrom f none bs
  | some run, [] => openRun run.reverse
  | some run, b :: bs =>
    if f.isShifted b then unitsFrom f (some (b :: run)) bs
    else if b = 45 then
      (if run = [] then [f.shift.toNat] else piece run.reverse) ++ unitsFrom f none bs
    else piece run.reverse ++
      (if b = f.shift then unitsFrom f (some []) bs else plain b :: unitsFrom f none bs)

/-- reads octets -/
def decode (f : Form) (bs : Bytes) : List Char := Utf16.join (unitsFrom f none bs)

example : decode .common (utf8 "a+AGIAYw-d+-+2D3eAA") = "abcd+😀".toList := by decide +kernel

end EnquiryMail.Text.Utf7
