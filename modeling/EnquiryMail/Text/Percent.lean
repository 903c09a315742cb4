/-
Octets written as `%41`, a percent sign and two hexadecimal digits. `decode?` reads a text strictly: every percent
sign begins an escape, and all octets together are UTF-8. `looseOctets` reads any text, octet by octet: of characters
that are not escaped the lowest octet counts, and a percent sign that begins no escape stands for itself.
-/
import EnquiryMail.Text.Hex
import EnquiryMail.Text.Units
import EnquiryMail.Text.Utf8

namespace EnquiryMail.Text.Percent

open Utf8 (Bytes)

/-- the octet of an escape -/
def octet? (high low : Char) : Option UInt8 :=
  match hexValue? high, hexValue? low with
  | some h, some l => some (UInt8.ofNat (16 * h + l))
  | _, _ => none

/-- what follows the first escape, if there is one -/
def afterEscape? : List Char → Option (List Char)
  | '%' :: high :: low :: rest =>
    if (octet? high low).isSome then some rest else afterEscape? (high :: low :: rest)
  | _ :: rest => afterEscape? rest
  | [] => none

/-- an escape stands somewhere in a text -/
def hasEscape (cs : List Char) : Bool := (afterEscape? cs).isSome

/-- the octets of a text, if all its escapes are well formed -/
def strictOctets? : List Char → Option Bytes
  | [] => some []
  | '%' :: high :: low :: rest =>
    match octet? high low, strictOctets? rest with
    | some b, some bs => some (b :: bs)
    | _, _ => none
  | '%' :: _ => none
  | c :: rest => (strictOctets? rest).map (Utf8.encodeChar c ++ ·)

/-- the lowest octets of a character's units -/
def lowOctets (c : Char) : Bytes := (codeUnits c).map UInt8.ofNat

/-- the octets of a text, malformed escapes kept -/
def looseOctets : List Char → Bytes
  | '%' :: high :: low :: rest =>
    match octet? high low with
    | some b => b :: looseOctets rest
    | none => 37 :: looseOctets (high :: low :: rest)
  | c :: rest => lowOctets c ++ looseOctets rest
  | [] => []

/-- the octets as UTF-8, if they are -/
def wellFormed? (bs : Bytes) : Option (List Char) :=
  let cs := Utf8.decode bs
  if Utf8.encode cs = bs then some cs else none

/-- a text with its escapes read, if all of them are well formed and give UTF-8 -/
def decode? (cs : List Char) : Option (List Char) :=
  if '%' ∈ cs then (strictOctets? cs).bind wellFormed? else some cs

end EnquiryMail.Text.Percent
