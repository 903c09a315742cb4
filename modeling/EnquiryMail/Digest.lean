/-
The SHA-1 digest of octets: five words, changed by one block of sixteen words after another, each block stretched to
eighty. A message is closed by one set bit, zeros up to a whole number of blocks, and its length in bits.

`length_sha1`: a digest has twenty octets. `length_padded`: a closed message is made of whole blocks.
-/
import EnquiryMail.Text.Utf8

namespace EnquiryMail.Digest

open Text.Utf8 (Bytes)

/-- five words -/
structure Words where
  a : UInt32
  b : UInt32
  c : UInt32
  d : UInt32
  e : UInt32
  deriving DecidableEq, Repr

/-- the words before the first block -/
def Words.initial : Words := ⟨0x67452301, 0xEFCDAB89, 0x98BADCFE, 0x10325476, 0xC3D2E1F0⟩

/-- word by word, modulo 2 ^ 32 -/
def Words.add (x y : Words) : Words := ⟨x.a + y.a, x.b + y.b, x.c + y.c, x.d + y.d, x.e + y.e⟩

/-- the bits of a word moved up, those that leave it coming back below -/
def rotate (x n : UInt32) : UInt32 := (x <<< n) ||| (x >>> (32 - n))

/-- a number in so many octets, highest first -/
def bigEndian : Nat → Nat → Bytes
  | 0, _ => []
  | n + 1, x => bigEndian n (x / 256) ++ [UInt8.ofNat x]

/-- a message closed by a set bit, zeros and its length -/
def padded (bs : Bytes) : Bytes :=
  bs ++ 0x80 :: List.replicate ((119 - bs.length % 64) % 64) 0 ++ bigEndian 8 (8 * bs.length)

/-- words of four octets each -/
def words : Bytes → List UInt32
  | a :: b :: c :: d :: rest =>
    UInt32.ofNat (((a.toNat * 256 + b.toNat) * 256 + c.toNat) * 256 + d.toNat) :: words rest
  | _ => []

/-- stretches a block, the newest word first, by so many words -/
def stretch : Nat → List UInt32 → List UInt32
  | 0, ws => ws
  | n + 1, ws =>
    let old (i : Nat) : UInt32 := (ws[i]?).getD 0
    stretch n (rotate (old 2 ^^^ old 7 ^^^ old 13 ^^^ old 15) 1 :: ws)

/-- what the words b, c and d give in a round, and the constant of that round -/
def mix (round : Nat) (w : Words) : UInt32 × UInt32 :=
  if round < 20 then ((w.b &&& w.c) ||| ((w.b ^^^ 0xFFFFFFFF) &&& w.d), 0x5A827999)
  else if round < 40 then (w.b ^^^ w.c ^^^ w.d, 0x6ED9EBA1)
  else if round < 60 then ((w.b &&& w.c) ||| (w.b &&& w.d) ||| (w.c &&& w.d), 0x8F1BBCDC)
  else (w.b ^^^ w.c ^^^ w.d, 0xCA62C1D6)

/-- one round, with its number and its word of the stretched block -/
def round (w : Words) (step : UInt32 × Nat) : Words :=
  let (f, k) := mix step.2 w
  ⟨rotate w.a 5 + f + w.e + k + step.1, w.a, rotate w.b 30, w.c, w.d⟩

/-- one block of sixteen words -/
def block (w : Words) (ws : List UInt32) : Words :=
  w.add (((stretch 64 ws.reverse).reverse.zipIdx).foldl round w)

/-- so many blocks, one after another -/
def blocks : Nat → Words → List UInt32 → Words
  | 0, w, _ => w
  | n + 1, w, ws => blocks n (block w (ws.take 16)) (ws.drop 16)

/-- the digest of octets -/
def sha1 (bs : Bytes) : Bytes :=
  let ws := words (padded bs)
  let w := blocks (ws.length / 16) .initial ws
  [w.a, w.b, w.c, w.d, w.e].flatMap fun x => bigEndian 4 x.toNat

theorem length_bigEndian (n x : Nat) : (bigEndian n x).length = n := by
  induction n generalizing x with
  | zero => rfl
  | succ n ih => simp [bigEndian, ih]

theorem length_padded (bs : Bytes) : (padded bs).length % 64 = 0 := by
  simp [padded, length_bigEndian]
  omega

theorem length_sha1 (bs : Bytes) : (sha1 bs).length = 20 := by
  simp [sha1, length_bigEndian]

/-- The digest of no octets at all begins with DA 39. -/
example : (sha1 []).take 4 = [0xDA, 0x39, 0xA3, 0xEE] := by decide +kernel

end EnquiryMail.Digest
