/-
UTF-8. `encode` writes the well-formed bytes of a text; `decode` reads any bytes at all: every ill-formed
sequence, cut at its longest well-formed beginning, becomes one U+FFFD.
-/

namespace EnquiryMail.Text.Utf8

/-- octets of a message, a packet or a file -/
abbrev Bytes := List UInt8

/-- the well-formed bytes of one character -/
def encodeChar (c : Char) : Bytes :=
  let n := c.toNat
  if n < 0x80 then [n.toUInt8]
  else if n < 0x800 then [(0xC0 + n / 64).toUInt8, (0x80 + n % 64).toUInt8]
  else if n < 0x10000 then
    [(0xE0 + n / 4096).toUInt8, (0x80 + n / 64 % 64).toUInt8, (0x80 + n % 64).toUInt8]
  else
    [(0xF0 + n / 262144).toUInt8, (0x80 + n / 4096 % 64).toUInt8, (0x80 + n / 64 % 64).toUInt8,
      (0x80 + n % 64).toUInt8]

/-- the well-formed bytes of a text -/
def encode (cs : List Char) : Bytes := cs.flatMap encodeChar

/-- stands for a sequence that is no character -/
def replacement : Char := Char.ofNat 0xFFFD

/-- a character under way: the bits read, the continuation bytes still due, and the bounds of the next one -/
structure Partial where
  bits : Nat
  due : Nat
  low : Nat
  high : Nat

/-- what a first byte announces: a finished character, one under way, or nothing well-formed -/
inductive Lead
  | done (c : Char)
  | opens (p : Partial)
  | bad

/-- reads a byte as the first of a character; the bounds of the second byte shut out overlong forms, surrogates
and values above U+10FFFF -/
def lead (b : Nat) : Lead :=
  if b < 0x80 then .done (Char.ofNat b)
  else if 0xC2 ≤ b ∧ b ≤ 0xDF then .opens ⟨b - 0xC0, 1, 0x80, 0xBF⟩
  else if b = 0xE0 then .opens ⟨0, 2, 0xA0, 0xBF⟩
  else if b = 0xED then .opens ⟨0xD, 2, 0x80, 0x9F⟩
  else if 0xE1 ≤ b ∧ b ≤ 0xEF then .opens ⟨b - 0xE0, 2, 0x80, 0xBF⟩
  else if b = 0xF0 then .opens ⟨0, 3, 0x90, 0xBF⟩
  else if 0xF1 ≤ b ∧ b ≤ 0xF3 then .opens ⟨b - 0xF0, 3, 0x80, 0xBF⟩
  else if b = 0xF4 then .opens ⟨4, 3, 0x80, 0x8F⟩
  else .bad

/-- reads on after `state`, the character under way if there is one -/
def decodeFrom : Option Partial → Bytes → List Char
  | none, [] => []
  | some _, [] => [replacement]
  | none, b :: bs =>
    match lead b.toNat with
    | .done c => c :: decodeFrom none bs
    | .opens p => decodeFrom (some p) bs
    | .bad => replacement :: decodeFrom none bs
  | some p, b :: bs =>
    if p.low ≤ b.toNat ∧ b.toNat ≤ p.high then
      let bits := p.bits * 64 + (b.toNat - 0x80)
      if p.due ≤ 1 then Char.ofNat bits :: decodeFrom none bs
      else decodeFrom (some ⟨bits, p.due - 1, 0x80, 0xBF⟩) bs
    else
      match lead b.toNat with
      | .done c => replacement :: c :: decodeFrom none bs
      | .opens q => replacement :: decodeFrom (some q) bs
      | .bad => replacement :: replacement :: decodeFrom none bs

/-- the text of any bytes -/
def decode (bs : Bytes) : List Char := decodeFrom none bs

end EnquiryMail.Text.Utf8

namespace EnquiryMail

/-- the bytes that stand for a text -/
def utf8 (s : String) : Text.Utf8.Bytes := Text.Utf8.encode s.toList

/-- the text that bytes stand for -/
def ofUtf8 (bs : Text.Utf8.Bytes) : String := String.ofList (Text.Utf8.decode bs)

end EnquiryMail
