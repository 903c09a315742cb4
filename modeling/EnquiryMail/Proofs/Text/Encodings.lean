/-
Texts as octets and octets as letters, and back.

- `Utf8.decode_encode`: a text is read back from its octets.
- `Utf8.mem_encode`: an octet below 128 stands for its own character only.
- `Base64.decode_encode`: octets are read back from their base64 letters.
- `Base64.mem_encode`: base64 letters are those of its alphabet and the padding sign.
- `Utf8.length_decode_le`, `Base64.length_decode_le`: reading makes nothing longer.
-/
import Mathlib.Tactic
import EnquiryMail.Text.Base64

namespace EnquiryMail.Text

namespace Utf8

theorem toNat_toUInt8 {n : Nat} (h : n < 256) : n.toUInt8.toNat = n := by
  simpa using h

theorem toNat_valid (c : Char) : c.toNat < 0xD800 ∨ 0xDFFF < c.toNat ∧ c.toNat < 0x110000 := c.valid

/-! ## First octets -/

theorem lead_one {n : Nat} (h : n < 0x80) : lead n = .done (Char.ofNat n) := if_pos h

theorem lead_two {k : Nat} (h : 2 ≤ k) (h' : k < 32) : lead (0xC0 + k) = .opens ⟨k, 1, 0x80, 0xBF⟩ := by
  rw [lead, if_neg (by omega), if_pos (by omega), Nat.add_sub_cancel_left]

theorem lead_three {k : Nat} (h : k < 16) :
    lead (0xE0 + k) = .opens ⟨k, 2, if k = 0 then 0xA0 else 0x80, if k = 13 then 0x9F else 0xBF⟩ := by
  interval_cases k <;> rfl

theorem lead_four {k : Nat} (h : k < 5) :
    lead (0xF0 + k) = .opens ⟨k, 3, if k = 0 then 0x90 else 0x80, if k = 4 then 0x8F else 0xBF⟩ := by
  interval_cases k <;> rfl

/-! ## One character -/

/-- a continuation octet within its bounds adds six bits -/
theorem decodeFrom_continuation {p : Partial} {k : Nat} (hk : k < 64) (hlow : p.low ≤ 0x80 + k)
    (hhigh : 0x80 + k ≤ p.high) (bs : Bytes) :
    decodeFrom (some p) ((0x80 + k).toUInt8 :: bs) =
      if p.due ≤ 1 then Char.ofNat (p.bits * 64 + k) :: decodeFrom none bs
      else decodeFrom (some ⟨p.bits * 64 + k, p.due - 1, 0x80, 0xBF⟩) bs := by
  rw [decodeFrom, toNat_toUInt8 (by omega), if_pos ⟨hlow, hhigh⟩, Nat.add_sub_cancel_left]

theorem decodeFrom_opens {b : Nat} {p : Partial} (hb : b < 256) (h : lead b = .opens p) (bs : Bytes) :
    decodeFrom none (b.toUInt8 :: bs) = decodeFrom (some p) bs := by
  rw [decodeFrom, toNat_toUInt8 hb, h]

theorem decodeFrom_encodeChar (c : Char) (bs : Bytes) :
    decodeFrom none (encodeChar c ++ bs) = c :: decodeFrom none bs := by
  have hvalid := toNat_valid c
  have hc : Char.ofNat c.toNat = c := Char.ofNat_toNat c
  generalize hn : c.toNat = n at hvalid hc
  rw [encodeChar, hn]
  split
  · rename_i h
    rw [List.singleton_append, decodeFrom, toNat_toUInt8 (by omega), lead_one h, hc]
  split
  · rename_i h₁ h₂
    have hbits : n / 64 * 64 + n % 64 = n := by omega
    rw [List.cons_append, List.singleton_append,
      decodeFrom_opens (by omega) (lead_two (k := n / 64) (by omega) (by omega)),
      decodeFrom_continuation (by omega) (by dsimp only; omega) (by dsimp only; omega), if_pos (by dsimp only; omega),
      hbits, hc]
  split
  · rename_i h₁ h₂ h₃
    have hbits : (n / 4096 * 64 + n / 64 % 64) * 64 + n % 64 = n := by omega
    rw [List.cons_append, List.cons_append, List.singleton_append,
      decodeFrom_opens (by omega) (lead_three (k := n / 4096) (by omega)),
      decodeFrom_continuation (by omega) (by dsimp only; split <;> omega) (by dsimp only; split <;> omega),
      if_neg (by dsimp only; omega),
      decodeFrom_continuation (by omega) (by dsimp only; omega) (by dsimp only; omega), if_pos (by dsimp only; omega),
      hbits, hc]
  · rename_i h₁ h₂ h₃
    have hbits : ((n / 262144 * 64 + n / 4096 % 64) * 64 + n / 64 % 64) * 64 + n % 64 = n := by omega
    rw [List.cons_append, List.cons_append, List.cons_append, List.singleton_append,
      decodeFrom_opens (by omega) (lead_four (k := n / 262144) (by omega)),
      decodeFrom_continuation (by omega) (by dsimp only; split <;> omega) (by dsimp only; split <;> omega),
      if_neg (by dsimp only; omega),
      decodeFrom_continuation (by omega) (by dsimp only; omega) (by dsimp only; omega), if_neg (by dsimp only; omega),
      decodeFrom_continuation (by omega) (by dsimp only; omega) (by dsimp only; omega), if_pos (by dsimp only; omega),
      hbits, hc]

/-- **A text is read back from its octets.** -/
theorem decode_encode (cs : List Char) : decode (encode cs) = cs := by
  induction cs with
  | nil => rfl
  | cons c cs ih =>
    rw [decode, encode, List.flatMap_cons, decodeFrom_encodeChar]
    exact congrArg (c :: ·) ih

theorem encode_append (as bs : List Char) : encode (as ++ bs) = encode as ++ encode bs := List.flatMap_append ..

/-- an octet below 128 stands for its own character only -/
theorem mem_encodeChar {c : Char} {b : UInt8} (hb : b.toNat < 0x80) (h : b ∈ encodeChar c) : c.toNat = b.toNat := by
  have hvalid := toNat_valid c
  rw [encodeChar] at h
  generalize c.toNat = n at h hvalid ⊢
  split at h
  · obtain rfl := List.mem_singleton.1 h
    exact (toNat_toUInt8 (by omega)).symm
  split at h
  · simp only [List.mem_cons, List.not_mem_nil, or_false] at h
    rcases h with rfl | rfl <;> rw [toNat_toUInt8 (by omega)] at hb <;> omega
  split at h
  · simp only [List.mem_cons, List.not_mem_nil, or_false] at h
    rcases h with rfl | rfl | rfl <;> rw [toNat_toUInt8 (by omega)] at hb <;> omega
  · simp only [List.mem_cons, List.not_mem_nil, or_false] at h
    rcases h with rfl | rfl | rfl | rfl <;> rw [toNat_toUInt8 (by omega)] at hb <;> omega

theorem mem_encode {cs : List Char} {b : UInt8} (hb : b.toNat < 0x80) (h : b ∈ encode cs) :
    Char.ofNat b.toNat ∈ cs := by
  obtain ⟨c, hc, hbc⟩ := List.mem_flatMap.1 h
  rw [← mem_encodeChar hb hbc, Char.ofNat_toNat]
  exact hc

/-- no more characters are read than there are octets, but for one that is cut off -/
theorem length_decodeFrom_le (state : Option Partial) (bs : Bytes) :
    (decodeFrom state bs).length ≤ bs.length + if state.isSome then 1 else 0 := by
  fun_induction decodeFrom state bs <;> simp_all <;> omega

theorem length_decode_le (bs : Bytes) : (decode bs).length ≤ bs.length := length_decodeFrom_le none bs

end Utf8

namespace Base64

open Utf8 (Bytes)

/-! ## Letters -/

theorem value?_digit {n : Nat} (h : n < 64) : value? (digit n) = some n := by
  interval_cases n <;> decide

theorem digit_ne_pad {n : Nat} (h : n < 64) : digit n ≠ '=' := by
  interval_cases n <;> decide

/-- the letters of the alphabet, those for file names aside -/
def isLetter (c : Char) : Bool := c.isAlphanum || c == '+' || c == '/'

theorem isLetter_digit {n : Nat} (h : n < 64) : isLetter (digit n) = true := by
  interval_cases n <;> decide

theorem mem_encode {bs : Bytes} {c : Char} (h : c ∈ encode bs) : isLetter c = true ∨ c = '=' := by
  fun_induction encode bs with
  | case1 => cases h
  | case2 a n =>
    have ha : a.toNat < 256 := a.toNat_lt
    simp only [List.mem_cons, List.not_mem_nil, or_false] at h
    rcases h with rfl | rfl | rfl | rfl
    · exact .inl (isLetter_digit (by omega))
    · exact .inl (isLetter_digit (by omega))
    · exact .inr rfl
    · exact .inr rfl
  | case3 a b n =>
    have ha : a.toNat < 256 := a.toNat_lt
    have hb : b.toNat < 256 := b.toNat_lt
    simp only [List.mem_cons, List.not_mem_nil, or_false] at h
    rcases h with rfl | rfl | rfl | rfl
    · exact .inl (isLetter_digit (by omega))
    · exact .inl (isLetter_digit (by omega))
    · exact .inl (isLetter_digit (by omega))
    · exact .inr rfl
  | case4 a b c' rest n ih =>
    have ha : a.toNat < 256 := a.toNat_lt
    have hb : b.toNat < 256 := b.toNat_lt
    have hc : c'.toNat < 256 := c'.toNat_lt
    simp only [List.mem_cons] at h
    rcases h with rfl | rfl | rfl | rfl | h
    · exact .inl (isLetter_digit (by omega))
    · exact .inl (isLetter_digit (by omega))
    · exact .inl (isLetter_digit (by omega))
    · exact .inl (isLetter_digit (by omega))
    · exact ih h

/-! ## Groups -/

/-- the values of the letters in front of the first padding sign -/
def values (cs : List Char) : List Nat := (cs.takeWhile (· != '=')).filterMap value?

theorem values_digit {n : Nat} (h : n < 64) (cs : List Char) : values (digit n :: cs) = n :: values cs := by
  rw [values, List.takeWhile_cons_of_pos (by simpa using digit_ne_pad h), List.filterMap_cons_some (value?_digit h),
    values]

theorem values_pad (cs : List Char) : values ('=' :: cs) = [] := rfl

/-- an octet from its value -/
theorem toUInt8_eq {a : UInt8} {n : Nat} (h : n = a.toNat) : n.toUInt8 = a := by
  rw [h]; exact UInt8.ofNat_toNat

/-- **Octets are read back from their base64 letters.** -/
theorem decode_encode (bs : Bytes) : decode (encode bs) = bs := by
  show join (values (encode bs)) = bs
  fun_induction encode bs with
  | case1 => rfl
  | case2 a n =>
    have ha : a.toNat < 256 := a.toNat_lt
    rw [values_digit (by omega), values_digit (by omega), values_pad, join, toUInt8_eq (a := a) (by omega)]
  | case3 a b n =>
    have ha : a.toNat < 256 := a.toNat_lt
    have hb : b.toNat < 256 := b.toNat_lt
    rw [values_digit (by omega), values_digit (by omega), values_digit (by omega), values_pad, join,
      toUInt8_eq (a := a) (by omega), toUInt8_eq (a := b) (by omega)]
  | case4 a b c rest n ih =>
    have ha : a.toNat < 256 := a.toNat_lt
    have hb : b.toNat < 256 := b.toNat_lt
    have hc : c.toNat < 256 := c.toNat_lt
    rw [values_digit (by omega), values_digit (by omega), values_digit (by omega), values_digit (by omega), join,
      toUInt8_eq (a := a) (by omega), toUInt8_eq (a := b) (by omega), toUInt8_eq (a := c) (by omega), ih]

theorem length_join_le (ns : List Nat) : (join ns).length ≤ ns.length := by
  fun_induction join ns <;> simp
  omega

theorem length_decode_le (cs : List Char) : (decode cs).length ≤ cs.length :=
  (length_join_le _).trans ((List.length_filterMap_le _ _).trans (List.takeWhile_sublist _).length_le)

end Base64

end EnquiryMail.Text
