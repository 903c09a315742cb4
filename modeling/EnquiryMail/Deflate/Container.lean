/-
Containers of compressed data: a two-octet header and a checksum around one stream, or members with a longer header,
another checksum and the length. What stands behind a single stream is ignored; behind members, a zero octet and what
follows it.

Octets are handed over as they are read, a chunk at a time. Where the input ends too early all that has been read is
handed over; where it is not well formed, only the chunks in front of the one at hand.
-/
import EnquiryMail.Deflate.Block

namespace EnquiryMail.Deflate

open Text.Utf8 (Bytes)

-- powers are those of the natural numbers by themselves, whatever else is imported
attribute [local instance (10000)] instPowNat

/-- two sums modulo 65521, the second of the first -/
def adler32 (bs : Bytes) : Nat :=
  let (a, b) := bs.foldl (fun (a, b) x =>
    let a := (a + x.toNat) % 65521
    (a, (b + a) % 65521)) (1, 0)
  b * 65536 + a

/-- one octet in a cyclic redundancy check -/
def crcStep (crc : Nat) (x : UInt8) : Nat :=
  (List.range 8).foldl (fun c _ => if c % 2 = 1 then (c / 2) ^^^ 0xEDB88320 else c / 2) (crc ^^^ x.toNat)

/-- the cyclic redundancy check of octets -/
def crc32 (bs : Bytes) : Nat := bs.foldl crcStep 0xFFFFFFFF ^^^ 0xFFFFFFFF

/-- a number, highest octet first -/
def bigEndian (bs : Bytes) : Nat := bs.foldl (fun n b => 256 * n + b.toNat) 0

/-- a number, lowest octet first -/
def littleEndian (bs : Bytes) : Nat := bigEndian bs.reverse

/-- the first octets, if there are so many -/
def split (n : Nat) (bs : Bytes) : Except Fault (Bytes × Bytes) :=
  if n ≤ bs.length then .ok (bs.take n, bs.drop n) else .error .cut

/-- goes on only if a condition holds -/
def ensure (condition : Bool) : Except Fault Unit := if condition then .ok () else .error .corrupt

/-- what a container gives: octets that are handed over, and the fault that reading stopped at -/
structure Yield where
  octets : Bytes
  fault : Option Fault
  deriving DecidableEq, Repr

/-- octets of a chunk -/
def chunkSize : Nat := 16384

/-- what is handed over of octets that have been read up to an end -/
def Yield.of {α : Type} (bs : Bytes) : Except Fault α → Yield
  | .ok _ => ⟨bs, none⟩
  | .error .cut => ⟨bs, some .cut⟩
  | .error .corrupt => ⟨bs.take ((bs.length - 1) / chunkSize * chunkSize), some .corrupt⟩

/-! ## One stream -/

/-- skips the header of a single stream -/
def skipHead (bs : Bytes) : Except Fault Bytes := do
  let (head, rest) ← split 2 bs
  let n := bigEndian head
  ensure (n % 31 == 0 && (n / 256) % 16 == 8 && n / 4096 ≤ 7)
  if n.testBit 5 then (split 4 rest).bind fun _ => .error .corrupt else .ok rest

/-- checks what stands behind a single stream -/
def checkTail (out rest : Bytes) : Except Fault Unit := do
  let (sum, _) ← split 4 rest
  ensure (bigEndian sum == adler32 out)

/-- the content of a container with one stream -/
def unwrap (bs : Bytes) : Yield :=
  match skipHead bs with
  | .error e => .of [] (Except.error e : Except Fault Unit)
  | .ok bs =>
    let (out, ending) := inflate bs
    .of out (ending.bind (checkTail out))

/-! ## Members -/

/-- skips a text that a zero ends -/
def skipText (bs : Bytes) : Except Fault Bytes :=
  match bs.dropWhile (· ≠ 0) with
  | _ :: rest => .ok rest
  | [] => .error .cut

/-- skips the header of a member -/
def skipHeader (bs : Bytes) : Except Fault Bytes := do
  let (magic, rest) ← split 2 bs
  ensure (magic == [0x1F, 0x8B])
  let (kind, rest) ← split 2 rest
  let flags := littleEndian kind / 256
  ensure (littleEndian kind % 256 == 8 && flags < 32)
  let (_, rest) ← split 6 rest
  let rest ← if flags.testBit 2 then do
      let (size, rest) ← split 2 rest
      (split (littleEndian size) rest).map (·.2)
    else .ok rest
  let rest ← if flags.testBit 3 then skipText rest else .ok rest
  let rest ← if flags.testBit 4 then skipText rest else .ok rest
  if flags.testBit 1 then do
    let (sum, after) ← split 2 rest
    ensure (littleEndian sum == crc32 (bs.take (bs.length - rest.length)) % 65536)
    .ok after
  else .ok rest

/-- checks what stands behind the stream of a member -/
def checkTrailer (out rest : Bytes) : Except Fault Bytes := do
  let (sum, rest) ← split 4 rest
  ensure (littleEndian sum == crc32 out)
  let (size, rest) ← split 4 rest
  ensure (littleEndian size == out.length % 2 ^ (32 : Nat))
  .ok rest

/-- one member, and what stands behind it -/
def member (bs : Bytes) : Bytes × Except Fault Bytes :=
  match skipHeader bs with
  | .error e => ([], .error e)
  | .ok bs =>
    let (out, ending) := inflate bs
    (out, ending.bind (checkTrailer out))

/-- members up to the end or to a zero octet, at most as many as the first argument -/
def members : Nat → Bytes → Bytes × Except Fault Unit
  | 0, _ => ([], .error .cut)
  | fuel + 1, bs =>
    match member bs with
    | (out, .error e) => (out, .error e)
    | (out, .ok []) => (out, .ok ())
    | (out, .ok (0 :: _)) => (out, .ok ())
    | (out, .ok rest) =>
      let (more, ending) := members fuel rest
      (out ++ more, ending)

/-- the content of a container of members -/
def gunzip (bs : Bytes) : Yield :=
  let (out, ending) := members (bs.length + 1) bs
  .of out ending

end EnquiryMail.Deflate
