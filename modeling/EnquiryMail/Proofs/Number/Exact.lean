/-
Integers of moderate size are exact. Below `2 ^ 53` rounding leaves an integer as it is, so clock readings and time
limits are added and taken apart without loss, and an alarm rings after the milliseconds that it is set for.

- `nearest_intCast`: an integer below `2 ^ 53` is its own nearest value.
- `nearest_lt_zero`: an integer below zero, however far, stays below it.
- `delayOf_natCast`: a limit from 1 to the longest delay is its own delay.
- `delayOf_ofInt_le`: a delay below a limit does not round up beyond it.
-/
import Mathlib.Tactic
import EnquiryMail.Time.Delay

namespace EnquiryMail

namespace Number

theorem roundDiv_one (n : Nat) : roundDiv n 1 = n := by
  have h : 2 * (n % 1) < 1 := by omega
  rw [roundDiv, if_pos h, Nat.div_one]

theorem leading_one {n : Nat} (hn : n ≠ 0) : leading n 1 = n.log2 := by
  have hle : 1 * 2 ^ n.log2 ≤ n := by rw [Nat.one_mul]; exact Nat.log2_self_le hn
  have hzero : ((1 : Nat).log2 : Int) = 0 := rfl
  rw [leading, hzero, Int.sub_zero, if_pos (Int.natCast_nonneg _), Int.toNat_natCast, decide_eq_true hle]
  rfl

theorem nearestMagnitude_natCast {n : Nat} (h : n < 2 ^ 53) : nearestMagnitude n 1 = n := by
  rcases Nat.eq_zero_or_pos n with rfl | hpos
  · rfl
  have hn : n ≠ 0 := hpos.ne'
  have hlog : n.log2 < 53 := (Nat.log2_lt hn).2 h
  rw [nearestMagnitude, leading_one hn]
  split
  · rename_i hu
    have hexp : (Max.max ((n.log2 : Int) - 52) (-1074)).toNat = 0 := by omega
    rw [hexp, Nat.pow_zero, Nat.mul_one, roundDiv_one]
  · rw [roundDiv_one]
    generalize (-(Max.max ((n.log2 : Int) - 52) (-1074))).toNat = k
    have hpow : (2 ^ k : Rat) ≠ 0 := by positivity
    rw [Rat.mkRat_eq_div]
    push_cast
    field_simp

/-- **Integers below `2 ^ 53` are exact.** -/
theorem nearest_intCast {z : Int} (h : z.natAbs < 2 ^ 53) : nearest z = .finite z := by
  unfold nearest
  split
  · rename_i hz; rw [hz]
  · rw [Rat.num_intCast, Rat.den_intCast, nearestMagnitude_natCast h]
    dsimp only
    have hsmall : ∀ k, 53 ≤ k → ¬((2 ^ k : Nat) : Rat) ≤ (z.natAbs : Rat) := by
      intro k hk hle
      have hpow : 2 ^ 53 ≤ 2 ^ k := Nat.pow_le_pow_right Nat.two_pos hk
      exact absurd (hpow.trans (Nat.cast_le.1 hle)) (Nat.not_le.2 h)
    split
    · exact absurd ‹_› (hsmall _ (by decide))
    congr 1
    split
    · have hz : (z.natAbs : Int) = -z := by omega
      have hcast : ((z.natAbs : Int) : Rat) = -z := by rw [hz]; push_cast; rfl
      rw [Int.cast_natCast] at hcast
      rw [hcast, neg_neg]
    · have hz : (z.natAbs : Int) = z := by omega
      have hcast : ((z.natAbs : Int) : Rat) = z := by rw [hz]
      rwa [Int.cast_natCast] at hcast

theorem nearestMagnitude_nonneg (n d : Nat) : 0 ≤ nearestMagnitude n d := by
  unfold nearestMagnitude
  dsimp only
  split
  · exact Nat.cast_nonneg _
  · rw [Rat.mkRat_eq_div]
    positivity

theorem div_le_roundDiv (n d : Nat) : n / d ≤ roundDiv n d := by
  unfold roundDiv
  dsimp only
  split_ifs <;> omega

theorem nearestMagnitude_pos {n : Nat} (hn : n ≠ 0) : 0 < nearestMagnitude n 1 := by
  rw [nearestMagnitude, leading_one hn]
  split
  · rename_i hu
    have hexp : (Max.max ((n.log2 : Int) - 52) (-1074)).toNat ≤ n.log2 := by omega
    rw [Nat.one_mul]
    generalize (Max.max ((n.log2 : Int) - 52) (-1074)).toNat = k at hexp
    have hpow : 2 ^ k ≤ n := (Nat.pow_le_pow_right Nat.two_pos hexp).trans (Nat.log2_self_le hn)
    have hquotient : 0 < n / 2 ^ k := Nat.div_pos hpow (Nat.two_pow_pos k)
    have hround : 0 < roundDiv n (2 ^ k) := hquotient.trans_le (div_le_roundDiv n (2 ^ k))
    exact Nat.cast_pos.2 (Nat.mul_pos hround (Nat.two_pow_pos k))
  · rw [roundDiv_one, Rat.mkRat_eq_div]
    have hpos : 0 < n := Nat.pos_of_ne_zero hn
    positivity

/-- **An integer below zero stays below it**, whatever it is rounded to. -/
theorem nearest_lt_zero {z : Int} (hz : z < 0) : lt (nearest z) 0 = true := by
  have hne : (z : Rat) ≠ 0 := by exact_mod_cast hz.ne
  have hmagnitude := nearestMagnitude_pos (n := z.natAbs) (by omega)
  rw [nearest, if_neg hne, Rat.num_intCast, Rat.den_intCast]
  dsimp only
  split
  · rw [decide_eq_true hz]
    rfl
  · exact decide_eq_true (neg_neg_of_pos hmagnitude)

theorem lt_finite {p q : Rat} : lt (.finite p) (.finite q) = decide (p < q) := rfl

theorem zero_eq : (0 : Number) = .finite (0 : Int) := rfl

theorem lt_intCast {k m : Int} : lt (.finite k) (.finite m) = true ↔ k < m := by
  rw [lt_finite, decide_eq_true_eq, Int.cast_lt]

theorem trunc_intCast (z : Int) : trunc (.finite z) = .finite z := by
  simp [trunc]

end Number

namespace Time

open Number

theorem le_finite {p q : Rat} : Number.le (.finite p) (.finite q) = true ↔ p ≤ q := by
  simp [Number.le, lt_finite, le_iff_lt_or_eq]

/-- **A limit within the bounds is its own delay.** -/
theorem delayOf_natCast {n : Nat} (hpos : 1 ≤ n) (hle : n ≤ longestDelay) : delayOf (.finite n) = n := by
  have htrunc : Number.trunc (.finite (n : Rat)) = .finite (n : Int) := trunc_intCast n
  have hbound : Number.le (.finite (n : Rat)) (.finite longestDelay) = true := le_finite.2 (Nat.cast_le.2 hle)
  have hnum : ((n : Int) : Rat).num = n := Rat.num_intCast _
  unfold delayOf
  rw [htrunc]
  dsimp only
  rw [if_pos ⟨by rw [hnum]; exact_mod_cast hpos, hbound⟩, hnum, Int.toNat_natCast]

/-- no delay is longer than the longest -/
theorem delayOf_le (n : Number) : delayOf n ≤ longestDelay := by
  unfold delayOf
  split
  · rename_i q hq
    split
    · rename_i h
      obtain ⟨hpos, hle⟩ := h
      cases n with
      | nan => cases hq
      | infinite s => cases hq
      | finite p =>
        simp only [Number.trunc, Number.finite.injEq] at hq
        subst hq
        rw [Rat.num_intCast] at hpos ⊢
        have hp : p ≤ (longestDelay : Rat) := le_finite.1 hle
        split at hpos
        · rename_i hneg
          have : p.ceil ≤ 0 := Rat.ceil_le_iff.2 (by simpa using hneg.le)
          omega
        · rename_i hneg
          rw [if_neg hneg]
          have hfloor : (p.floor : Rat) ≤ longestDelay := (Rat.floor_le p).trans hp
          have : p.floor ≤ longestDelay := by exact_mod_cast hfloor
          omega
    · exact (by decide : 1 ≤ longestDelay)
  · exact (by decide : 1 ≤ longestDelay)

/-- a number below zero counts as 1 -/
theorem delayOf_nonpos {q : Rat} (h : q ≤ 0) : delayOf (.finite q) = 1 := by
  unfold delayOf Number.trunc
  dsimp only
  rw [if_neg]
  rintro ⟨hnum, -⟩
  rw [Rat.num_intCast] at hnum
  split at hnum
  · have : q.ceil ≤ 0 := Rat.ceil_le_iff.2 (by simpa using h)
    omega
  · have : q.floor ≤ 0 := by
      have : (q.floor : Rat) ≤ 0 := (Rat.floor_le q).trans h
      exact_mod_cast this
    omega

theorem delayOf_ofInt_neg {z : Int} (h : z < 0) : delayOf (Number.ofInt z) = 1 := by
  have hz : (z : Rat) ≠ 0 := by exact_mod_cast h.ne
  unfold Number.ofInt nearest
  rw [if_neg hz]
  dsimp only
  split
  · rfl
  · rw [if_pos (by rw [Rat.num_intCast]; exact h)]
    exact delayOf_nonpos (neg_nonpos.2 (nearestMagnitude_nonneg _ _))

/-- **A delay below a limit does not go beyond it.** -/
theorem delayOf_ofInt_le {ms : Int} {limit : Nat} (hpos : 1 ≤ limit) (hle : limit ≤ longestDelay)
    (h : ms < limit) : delayOf (Number.ofInt ms) ≤ limit := by
  rcases Int.lt_or_le ms 0 with hneg | hms
  · rw [delayOf_ofInt_neg hneg]
    exact hpos
  obtain ⟨n, rfl⟩ := Int.eq_ofNat_of_zero_le hms
  have hlong : longestDelay < 2 ^ 53 := by decide
  have hexact : Number.ofInt (n : Int) = .finite (n : Rat) := by
    have := nearest_intCast (z := n) (by omega)
    rwa [Int.cast_natCast] at this
  rw [hexact]
  rcases Nat.eq_zero_or_pos n with rfl | hn
  · rw [delayOf_nonpos (le_of_eq Nat.cast_zero)]
    exact hpos
  · rw [delayOf_natCast hn (by omega)]
    omega

end Time

end EnquiryMail
