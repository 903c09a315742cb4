/-
Prefix codes given by the lengths of their words: words of one length are consecutive numbers in the order of the
symbols, and a shorter word is followed by the next longer ones. A set of lengths must not promise more words than
there are; it may promise fewer only when it has one word of one bit, or none.
-/

namespace EnquiryMail.Deflate

-- powers are those of the natural numbers by themselves, whatever else is imported
attribute [local instance (10000)] instPowNat

/-- bits, the lowest of an octet first -/
abbrev Bits := List Bool

/-- why reading stops -/
inductive Fault
  /-- the input ends too early -/
  | cut
  /-- the input is not well formed -/
  | corrupt
  deriving DecidableEq, Repr

/-- the longest word of a code -/
def longest : Nat := 15

/-- the words that `lengths` leaves unused, counted in words of the longest length; none if it promises too many -/
def unused? (lengths : List Nat) : Option Nat :=
  let used := (lengths.filter (· ≠ 0)).foldl (fun n l => n + 2 ^ (longest - l)) 0
  if used ≤ 2 ^ longest then some (2 ^ longest - used) else none

/-- symbols in the order of their words -/
def symbolsOf (lengths : List Nat) (length : Nat) : List Nat :=
  (lengths.zipIdx.filter fun p => p.1 = length).map (·.2)

/-- a code: for each length from one on, the symbols whose words have it -/
structure Code where
  symbols : List (Array Nat)

/-- the code with given lengths; `complete` asks that no word is left unused -/
def Code.ofLengths? (lengths : List Nat) (complete : Bool) : Option Code :=
  let code : Code := ⟨(List.range longest).map fun n => (symbolsOf lengths (n + 1)).toArray⟩
  match unused? lengths with
  | none => none
  | some 0 => some code
  | some _ => if !complete && lengths.all (· ≤ 1) then some code else none

/-- reads a word: `word` is the number read so far and `first` the first word of the present length -/
def decodeFrom (word first : Nat) : List (Array Nat) → Bits → Except Fault (Nat × Bits)
  | _ :: _, [] => .error .cut
  | [], _ => .error .corrupt
  | symbols :: longer, bit :: bits =>
    let word := 2 * word + bit.toNat
    let first := 2 * first
    match symbols[word - first]? with
    | some s => .ok (s, bits)
    | none =>
      if longer.all Array.isEmpty then .error .corrupt else decodeFrom word (first + symbols.size) longer bits

/-- reads a symbol -/
def Code.decode (c : Code) (bits : Bits) : Except Fault (Nat × Bits) := decodeFrom 0 0 c.symbols bits

end EnquiryMail.Deflate
