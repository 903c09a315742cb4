/-
Blocks of compressed data: octets as they are, or literals and copies of earlier output under a fixed code or one
that the block brings along. Reading stops at the first thing that is not well formed, or where the input ends; what
has been read until then is kept.
-/
import EnquiryMail.Deflate.Code
import EnquiryMail.Text.Utf8

namespace EnquiryMail.Deflate

open Text.Utf8 (Bytes)

/-- the bits of octets -/
def bitsOf (bs : Bytes) : Bits := bs.flatMap fun b => (List.range 8).map fun i => b.toNat.testBit i

/-- a number of `n` bits, the lowest first -/
def number : Nat → Bits → Except Fault (Nat × Bits)
  | 0, bits => .ok (0, bits)
  | n + 1, b :: bits => (number n bits).map fun (v, rest) => (2 * v + b.toNat, rest)
  | _ + 1, [] => .error .cut

/-- the lengths that copy symbols begin at, each with its further bits -/
def lengthBases : List (Nat × Nat) :=
  [(3, 0), (4, 0), (5, 0), (6, 0), (7, 0), (8, 0), (9, 0), (10, 0), (11, 1), (13, 1), (15, 1), (17, 1), (19, 2),
    (23, 2), (27, 2), (31, 2), (35, 3), (43, 3), (51, 3), (59, 3), (67, 4), (83, 4), (99, 4), (115, 4), (131, 5),
    (163, 5), (195, 5), (227, 5), (258, 0)]

/-- the distances that distance symbols begin at, each with its further bits -/
def distanceBases : List (Nat × Nat) :=
  [(1, 0), (2, 0), (3, 0), (4, 0), (5, 1), (7, 1), (9, 2), (13, 2), (17, 3), (25, 3), (33, 4), (49, 4), (65, 5),
    (97, 5), (129, 6), (193, 6), (257, 7), (385, 7), (513, 8), (769, 8), (1025, 9), (1537, 9), (2049, 10),
    (3073, 10), (4097, 11), (6145, 11), (8193, 12), (12289, 12), (16385, 13), (24577, 13)]

/-- a base with its further bits read -/
def extended (bases : List (Nat × Nat)) (symbol : Nat) (bits : Bits) : Except Fault (Nat × Bits) :=
  match bases[symbol]? with
  | some (base, extra) => (number extra bits).map fun (v, rest) => (base + v, rest)
  | none => .error .corrupt

/-- the two codes of a block -/
structure Codes where
  literals : Code
  distances : Code

/-- what has been written, and the bits behind what has been read, or why reading stopped -/
abbrev Progress := Array UInt8 × Except Fault Bits

/-- copies `n` octets from `distance` octets back, one at a time -/
def copy (distance : Nat) : Nat → Array UInt8 → Array UInt8
  | 0, out => out
  | n + 1, out => copy distance n (out.push ((out[out.size - distance]?).getD 0))

/-- the symbol that ends a block -/
def endOfBlock : Nat := 256

/-- one step in a block -/
inductive Step
  | literal (b : UInt8)
  | copy (length distance : Nat)
  | done

/-- reads one step -/
def step (codes : Codes) (bits : Bits) : Except Fault (Step × Bits) := do
  let (s, bits) ← codes.literals.decode bits
  if s < endOfBlock then .ok (.literal (UInt8.ofNat s), bits)
  else if s = endOfBlock then .ok (.done, bits)
  else
    let (length, bits) ← extended lengthBases (s - 257) bits
    let (d, bits) ← codes.distances.decode bits
    let (distance, bits) ← extended distanceBases d bits
    .ok (.copy length distance, bits)

/-- literals and copies up to the end of the block, at most as many as the first argument -/
def symbols (codes : Codes) : Nat → Array UInt8 → Bits → Progress
  | 0, out, _ => (out, .error .cut)
  | fuel + 1, out, bits =>
    match step codes bits with
    | .error e => (out, .error e)
    | .ok (.literal b, bits) => symbols codes fuel (out.push b) bits
    | .ok (.copy length distance, bits) =>
      if out.size < distance then (out, .error .corrupt) else symbols codes fuel (copy distance length out) bits
    | .ok (.done, bits) => (out, .ok bits)

/-- the code with given lengths, which have to be right -/
def codeOf (lengths : List Nat) (complete : Bool) : Except Fault Code :=
  match Code.ofLengths? lengths complete with
  | some code => .ok code
  | none => .error .corrupt

/-- the lengths of the fixed codes -/
def fixedLiterals : List Nat :=
  List.replicate 144 8 ++ List.replicate 112 9 ++ List.replicate 24 7 ++ List.replicate 8 8

/-- the fixed codes -/
def fixedCodes : Except Fault Codes := do
  let literals ← codeOf fixedLiterals true
  let distances ← codeOf (List.replicate 32 5) true
  .ok ⟨literals, distances⟩

/-- the order in which a block gives the lengths of its length code -/
def lengthOrder : List Nat := [16, 17, 18, 0, 8, 7, 9, 6, 10, 5, 11, 4, 12, 3, 13, 2, 14, 1, 15]

/-- `n` numbers of some bits each -/
def numbers (width : Nat) : Nat → Bits → Except Fault (List Nat × Bits)
  | 0, bits => .ok ([], bits)
  | n + 1, bits => do
    let (v, bits) ← number width bits
    let (vs, bits) ← numbers width n bits
    .ok (v :: vs, bits)

/-- code lengths up to a count, runs of one length written short; newest first -/
def lengthsFrom (code : Code) (count : Nat) : Nat → List Nat → Bits → Except Fault (List Nat × Bits)
  | 0, acc, bits => if acc.length = count then .ok (acc.reverse, bits) else .error .corrupt
  | fuel + 1, acc, bits =>
    if acc.length = count then .ok (acc.reverse, bits)
    else if count < acc.length then .error .corrupt
    else do
      let (s, bits) ← code.decode bits
      if s < 16 then lengthsFrom code count fuel (s :: acc) bits
      else if s = 16 then
        let (v, bits) ← number 2 bits
        match acc with
        | l :: _ => lengthsFrom code count fuel (List.replicate (3 + v) l ++ acc) bits
        | [] => .error .corrupt
      else
        let (v, bits) ← number (if s = 17 then 3 else 7) bits
        lengthsFrom code count fuel (List.replicate ((if s = 17 then 3 else 11) + v) 0 ++ acc) bits

/-- the code lengths of a block, given the lengths of their own code; if that has no words, each bit is a zero -/
def lengths (own : List Nat) (count : Nat) (bits : Bits) : Except Fault (List Nat × Bits) :=
  if own.all (· == 0) then (numbers 1 count bits).map fun (vs, bits) => (vs.map fun _ => 0, bits)
  else (codeOf own true).bind fun code => lengthsFrom code count count [] bits

/-- the codes that a block brings along -/
def ownCodes (bits : Bits) : Except Fault (Codes × Bits) := do
  let (literalCount, bits) ← number 5 bits
  let (distanceCount, bits) ← number 5 bits
  let (lengthCount, bits) ← number 4 bits
  if 29 < literalCount || 29 < distanceCount then .error .corrupt
  let (given, bits) ← numbers 3 (lengthCount + 4) bits
  let named := lengthOrder.zip given
  let own := (List.range 19).map fun s => (named.lookup s).getD 0
  let (all, bits) ← lengths own (literalCount + 257 + (distanceCount + 1)) bits
  let literalLengths := all.take (literalCount + 257)
  if (literalLengths[endOfBlock]?).getD 0 = 0 then .error .corrupt
  let literals ← codeOf literalLengths false
  let distances ← codeOf (all.drop (literalCount + 257)) false
  .ok (⟨literals, distances⟩, bits)

/-- the length of octets as they are, which stands at the next octet of the input and is followed by its complement -/
def storedLength (bits : Bits) : Except Fault (Nat × Bits) := do
  let (length, bits) ← number 16 (bits.drop (bits.length % 8))
  let (complement, bits) ← number 16 bits
  if length + complement = 0xFFFF then .ok (length, bits) else .error .corrupt

/-- so many octets as they are -/
def stored : Nat → Array UInt8 → Bits → Progress
  | 0, out, bits => (out, .ok bits)
  | n + 1, out, bits =>
    match number 8 bits with
    | .error e => (out, .error e)
    | .ok (b, bits) => stored n (out.push (UInt8.ofNat b)) bits

/-- one block of a kind -/
def block (out : Array UInt8) (bits : Bits) : Bool × Bool → Progress
  | (false, false) =>
    match storedLength bits with
    | .error e => (out, .error e)
    | .ok (length, bits) => stored length out bits
  | (true, false) =>
    match fixedCodes with
    | .error e => (out, .error e)
    | .ok codes => symbols codes (bits.length + 1) out bits
  | (false, true) =>
    match ownCodes bits with
    | .error e => (out, .error e)
    | .ok (codes, bits) => symbols codes (bits.length + 1) out bits
  | (true, true) => (out, .error .corrupt)

/-- blocks up to the last one, at most as many as the first argument -/
def blocks : Nat → Array UInt8 → Bits → Progress
  | fuel + 1, out, last :: low :: high :: bits =>
    match block out bits (low, high) with
    | (out, .ok bits) => if last then (out, .ok bits) else blocks fuel out bits
    | stopped => stopped
  | _, out, _ => (out, .error .cut)

/-- the output of compressed octets, and the octets behind them or why reading stopped -/
def inflate (bs : Bytes) : Bytes × Except Fault Bytes :=
  let bits := bitsOf bs
  let (out, ending) := blocks (bits.length + 1) #[] bits
  (out.toList, ending.map fun rest => bs.drop (bs.length - rest.length / 8))

end EnquiryMail.Deflate
