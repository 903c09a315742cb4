/-
Base64 with padding. `encode` writes groups of four characters; `decode` is lenient: it takes the characters of
either alphabet up to the first padding sign, skips every other character, and drops what makes no whole byte.
-/
import EnquiryMail.Text.Utf8

namespace EnquiryMail.Text.Base64

open EnquiryMail.Text.Utf8 (Bytes)

/-- the character for a value below 64 -/
def digit (n : Nat) : Char :=
  if n < 26 then Char.ofNat (65 + n)
  else if n < 52 then Char.ofNat (71 + n)
  else if n < 62 then Char.ofNat (n - 4)
  else if n = 62 then '+' else '/'

/-- the value of a character of the common or the file-name alphabet -/
def value? (c : Char) : Option Nat :=
  if 'A' ≤ c ∧ c ≤ 'Z' then some (c.toNat - 65)
  else if 'a' ≤ c ∧ c ≤ 'z' then some (c.toNat - 71)
  else if '0' ≤ c ∧ c ≤ '9' then some (c.toNat + 4)
  else if c = '+' ∨ c = '-' then some 62
  else if c = '/' ∨ c = '_' then some 63
  else none

/-- the padded text of some bytes, three at a time -/
def encode : Bytes → List Char
  | [] => []
  | [a] =>
    let n := a.toNat
    [digit (n / 4), digit (n % 4 * 16), '=', '=']
  | [a, b] =>
    let n := a.toNat * 256 + b.toNat
    [digit (n / 1024), digit (n / 16 % 64), digit (n % 16 * 4), '=']
  | a :: b :: c :: rest =>
    let n := a.toNat * 65536 + b.toNat * 256 + c.toNat
    digit (n / 262144) :: digit (n / 4096 % 64) :: digit (n / 64 % 64) :: digit (n % 64) :: encode rest

/-- the bytes that values below 64 make, four at a time -/
def join : List Nat → Bytes
  | a :: b :: c :: d :: rest =>
    (a * 4 + b / 16).toUInt8 :: (b % 16 * 16 + c / 4).toUInt8 :: (c % 4 * 64 + d).toUInt8 :: join rest
  | [a, b, c] => [(a * 4 + b / 16).toUInt8, (b % 16 * 16 + c / 4).toUInt8]
  | [a, b] => [(a * 4 + b / 16).toUInt8]
  | _ => []

/-- the bytes that a text stands for -/
def decode (cs : List Char) : Bytes := join ((cs.takeWhile (· != '=')).filterMap value?)

end EnquiryMail.Text.Base64

namespace EnquiryMail

/-- base64 of the UTF-8 bytes of a text -/
def base64 (s : String) : String := String.ofList (Text.Base64.encode (utf8 s))

end EnquiryMail
