/-
Texts of numbers as literals. The text of a finite number is a literal as documents have it: a sign or none, digits
without a superfluous zero in front, places behind a point, an exponent. A reader takes it off a text whatever follows,
so long as that does not go on with the number.

- `readNumber_literal`: a literal is read as its value, and what follows is left.
- `significant_shortest`: the digits of a positive value are there, and the first is not zero.
- `exists_literal`: the text of a finite number is a literal.
- `readNumber_toText`: so it is read as a number.
-/
import Mathlib.Algebra.Order.Field.Power
import Mathlib.Data.List.DropRight
import Mathlib.Data.List.TakeWhile
import Mathlib.Tactic
import EnquiryMail.Json.Reader

namespace EnquiryMail.Number

open Json (readNumber readUnsigned readPlaces readExponent readSign)

/-- a number as documents spell it -/
structure Literal where
  negative : Bool
  whole : List Char
  places : List Char
  /-- whether its sign is minus, and its digits -/
  exponent : Option (Bool × List Char)
  whole_ne : whole ≠ []
  /-- a zero in front stands alone -/
  whole_zero : ∀ ds, whole = '0' :: ds → ds = []
  whole_digits : ∀ c ∈ whole, isDigit c = true
  places_digits : ∀ c ∈ places, isDigit c = true
  exponent_digits : ∀ e ∈ exponent, e.2 ≠ [] ∧ ∀ c ∈ e.2, isDigit c = true

namespace Literal

/-- places with their point -/
def placesText (places : List Char) : List Char := if places = [] then [] else '.' :: places

/-- an exponent with its mark and sign -/
def exponentText : Option (Bool × List Char) → List Char
  | none => []
  | some (negative, ds) => 'e' :: (if negative then '-' else '+') :: ds

/-- what an exponent adds to the place of the point -/
def shift : Option (Bool × List Char) → Int
  | none => 0
  | some (negative, ds) => (if negative then -1 else 1) * natOf ds

/-- a literal without its sign -/
def body (l : Literal) : List Char := l.whole ++ (placesText l.places ++ exponentText l.exponent)

def text (l : Literal) : List Char := if l.negative then '-' :: l.body else l.body

/-- the number that a literal stands for -/
def value (l : Literal) : Number :=
  ofDecimal l.negative (l.whole ++ l.places) (shift l.exponent - l.places.length)

end Literal

/-- a text that does not go on with a number -/
def Apart (rest : List Char) : Prop := ∀ c, rest.head? = some c → isDigit c = false ∧ c ≠ '.' ∧ c ≠ 'e' ∧ c ≠ 'E'

/-! ## Reading -/

section Reading

variable {ds rest : List Char}

theorem takeWhile_digits (hds : ∀ c ∈ ds, isDigit c = true) (hrest : ∀ c, rest.head? = some c → isDigit c = false) :
    (ds ++ rest).takeWhile isDigit = ds ∧ (ds ++ rest).dropWhile isDigit = rest := by
  have htake : rest.takeWhile isDigit = [] := by
    cases rest with
    | nil => rfl
    | cons c rest => rw [List.takeWhile_cons, hrest c rfl]; rfl
  have hdrop : rest.dropWhile isDigit = rest := by
    cases rest with
    | nil => rfl
    | cons c rest => rw [List.dropWhile_cons, hrest c rfl]; rfl
  rw [List.takeWhile_append_of_pos hds, List.dropWhile_append_of_pos hds, htake, hdrop, List.append_nil]
  exact ⟨rfl, rfl⟩

/-- what follows the whole digits of a literal is not a digit -/
theorem Literal.head?_tail (l : Literal) (hrest : Apart rest) (c : Char)
    (hc : (Literal.placesText l.places ++ (Literal.exponentText l.exponent ++ rest)).head? = some c) :
    isDigit c = false := by
  unfold Literal.placesText Literal.exponentText at hc
  split at hc
  · split at hc
    · exact (hrest c hc).1
    · obtain rfl := Option.some.inj hc
      rfl
  · obtain rfl := Option.some.inj hc
    rfl

/-- what follows the places of a literal is not a digit, and no point -/
theorem Literal.head?_exponentText (e : Option (Bool × List Char)) (hrest : Apart rest) (c : Char)
    (hc : (Literal.exponentText e ++ rest).head? = some c) : isDigit c = false ∧ c ≠ '.' := by
  unfold Literal.exponentText at hc
  split at hc
  · exact ⟨(hrest c hc).1, (hrest c hc).2.1⟩
  · obtain rfl := Option.some.inj hc
    exact ⟨rfl, by decide⟩

theorem readPlaces_placesText {places : List Char} (hplaces : ∀ c ∈ places, isDigit c = true)
    (hrest : ∀ c, rest.head? = some c → isDigit c = false ∧ c ≠ '.') :
    readPlaces (Literal.placesText places ++ rest) = some (places, rest) := by
  obtain ⟨htake, hdrop⟩ := takeWhile_digits hplaces fun c hc => (hrest c hc).1
  unfold Literal.placesText
  split
  · rename_i hnil
    subst hnil
    unfold readPlaces
    split
    · rename_i heq
      exact absurd rfl (hrest '.' (by rw [← List.nil_append rest, heq]; rfl)).2
    · rfl
  · rename_i hne
    have hempty : places.isEmpty = false := List.isEmpty_eq_false_iff.2 hne
    simp [readPlaces, htake, hdrop, hempty]

theorem readExponent_exponentText {e : Option (Bool × List Char)}
    (hdigits : ∀ p ∈ e, p.2 ≠ [] ∧ ∀ c ∈ p.2, isDigit c = true) (hrest : Apart rest) :
    readExponent (Literal.exponentText e ++ rest) = some (Literal.shift e, rest) := by
  cases e with
  | none =>
    cases rest with
    | nil => rfl
    | cons c rest =>
      obtain ⟨-, -, he, hE⟩ := hrest c rfl
      simp [Literal.exponentText, Literal.shift, readExponent, he, hE]
  | some p =>
    obtain ⟨negative, ds⟩ := p
    obtain ⟨hne, hds⟩ := hdigits _ rfl
    obtain ⟨htake, hdrop⟩ := takeWhile_digits hds fun c hc => (hrest c hc).1
    have hempty : ds.isEmpty = false := List.isEmpty_eq_false_iff.2 hne
    cases negative <;> simp [Literal.exponentText, Literal.shift, readExponent, readSign, htake, hdrop, hempty]

theorem readUnsigned_body (l : Literal) (hrest : Apart rest) :
    readUnsigned l.negative (l.body ++ rest) = some (l.value, rest) := by
  obtain ⟨htake, hdrop⟩ := takeWhile_digits l.whole_digits (l.head?_tail hrest)
  have hplaces := readPlaces_placesText l.places_digits (Literal.head?_exponentText l.exponent hrest)
  have hexponent := readExponent_exponentText l.exponent_digits hrest
  have hbody : l.body ++ rest =
      l.whole ++ (Literal.placesText l.places ++ (Literal.exponentText l.exponent ++ rest)) := by
    simp [Literal.body]
  rw [hbody, readUnsigned, htake, hdrop]
  split
  · exact absurd ‹_› l.whole_ne
  · cases l.whole_zero _ ‹_›
  · simp [hplaces, hexponent, Literal.value]

/-- **A literal is read as its value.** What does not go on with it is left. -/
theorem readNumber_literal (l : Literal) (hrest : Apart rest) : readNumber (l.text ++ rest) = some (l.value, rest) := by
  have hbody := readUnsigned_body l hrest
  unfold Literal.text
  cases hnegative : l.negative with
  | true =>
    rw [hnegative] at hbody
    simpa [readNumber] using hbody
  | false =>
    rw [hnegative] at hbody
    rw [if_neg Bool.false_ne_true]
    unfold readNumber
    split
    · rename_i heq
      -- a sign is not a digit, so the whole digits do not begin with one
      obtain ⟨d, ds, hwhole⟩ := List.exists_cons_of_ne_nil l.whole_ne
      rw [Literal.body, hwhole] at heq
      obtain rfl := (List.cons.inj heq).1
      exact absurd (l.whole_digits '-' (hwhole ▸ List.mem_cons_self)) (by decide)
    · exact hbody

end Reading

/-! ## Digits -/

/-- digits that say something: there are some, and the first is not zero -/
def Significant (ds : List Char) : Prop := ds ≠ [] ∧ ds.head? ≠ some '0' ∧ ∀ c ∈ ds, isDigit c = true

theorem isDigit_of_mem_decimal {n : Nat} {c : Char} (hc : c ∈ decimal n) : isDigit c = true := by
  have h := Nat.isDigit_of_mem_toDigits (by decide) (by decide) hc
  simp only [Char.isDigit, Bool.and_eq_true, decide_eq_true_eq] at h
  simp only [isDigit, Bool.and_eq_true, decide_eq_true_eq]
  exact h

theorem decimal_ne_nil (n : Nat) : decimal n ≠ [] := Nat.toDigits_ne_nil

theorem head?_decimal_ne {n : Nat} (hn : n ≠ 0) : (decimal n).head? ≠ some '0' := by
  induction n using Nat.strong_induction_on with
  | _ n ih =>
    by_cases hsmall : n < 10
    · intro hzero
      rw [decimal, Nat.toDigits_of_lt_base hsmall] at hzero
      interval_cases n <;> simp_all [Nat.digitChar]
    · have hmore : decimal n = decimal (n / 10) ++ [(n % 10).digitChar] :=
        Nat.toDigits_of_base_le (by decide) (by omega)
      rw [hmore, List.head?_append_of_ne_nil _ (decimal_ne_nil _)]
      exact ih (n / 10) (by omega) (by omega)

theorem length_decimal_le {n k : Nat} (hk : 0 < k) : (decimal n).length ≤ k ↔ n < 10 ^ k :=
  Nat.length_toDigits_le_iff (by decide) hk

/-- a positive number has as many digits as its size asks for -/
theorem pow_length_decimal_le {n : Nat} (hn : n ≠ 0) : 10 ^ ((decimal n).length - 1) ≤ n := by
  by_cases hone : (decimal n).length ≤ 1
  · have hexp : (decimal n).length - 1 = 0 := by omega
    rw [hexp, Nat.pow_zero]
    omega
  · by_contra hlt
    have hle := (length_decimal_le (by omega)).2 (Nat.not_le.1 hlt)
    omega

/-- without the zeros behind them, the digits of a positive number still begin as they did -/
theorem significant_trimmed {n : Nat} (hn : n ≠ 0) : Significant ((decimal n).reverse.dropWhile (· == '0')).reverse := by
  have hpart : ((decimal n).rdropWhile (· == '0')) <+: decimal n := List.rdropWhile_prefix ..
  have hfirst := head?_decimal_ne hn
  have hne : (decimal n).rdropWhile (· == '0') ≠ [] := by
    intro hnil
    rw [List.rdropWhile_eq_nil_iff] at hnil
    obtain ⟨d, ds, hds⟩ := List.exists_cons_of_ne_nil (decimal_ne_nil n)
    have hzero := hnil d (hds ▸ List.mem_cons_self)
    rw [hds] at hfirst
    exact hfirst (congrArg some (eq_of_beq hzero))
  refine ⟨hne, ?_, ?_⟩
  · obtain ⟨tail, htail⟩ := hpart
    rw [← htail, List.head?_append_of_ne_nil _ hne] at hfirst
    exact hfirst
  · intro c hc
    exact isDigit_of_mem_decimal (hpart.subset hc)

/-! ## The digits of a value -/

theorem pow10_eq (e : Int) : pow10 e = (10 : Rat) ^ e := by
  unfold pow10
  split
  · rename_i he
    obtain ⟨n, rfl⟩ := Int.eq_ofNat_of_zero_le he
    simp
  · rename_i he
    obtain ⟨n, hn⟩ := Int.exists_eq_neg_ofNat (Int.le_of_lt (Int.not_le.1 he))
    subst hn
    simp [Rat.mkRat_eq_div]

theorem one_le_zerosBehindPoint (fuel : Nat) {x : Rat} (h : 1 ≤ x * 10 ^ fuel) (hx : 0 < x) :
    1 ≤ x * 10 ^ (zerosBehindPoint fuel x + 1) := by
  induction fuel generalizing x with
  | zero =>
    simp only [zerosBehindPoint, pow_zero, mul_one, zero_add, pow_one] at h ⊢
    linarith
  | succ fuel ih =>
    unfold zerosBehindPoint
    split
    · simpa
    · have hnext := ih (x := x * 10) (by rw [pow_succ] at h; linarith) (by linarith)
      calc (1 : Rat) ≤ x * 10 * 10 ^ (zerosBehindPoint fuel (x * 10) + 1) := hnext
        _ = x * 10 ^ (zerosBehindPoint fuel (x * 10) + 1 + 1) := by ring

/-- the place of the point does not stand before the first digit -/
theorem zpow_pointOf_le {a : Rat} (ha : 0 < a) : (10 : Rat) ^ (pointOf a - 1) ≤ a := by
  unfold pointOf
  split
  · rename_i hone
    have hfloor : 1 ≤ a.floor := Rat.le_floor_iff.2 (by exact_mod_cast hone)
    have hne : a.floor.toNat ≠ 0 := by omega
    have hlength : 0 < (decimal a.floor.toNat).length := List.length_pos_of_ne_nil (decimal_ne_nil _)
    have hpow := pow_length_decimal_le hne
    have hexp : ((decimal a.floor.toNat).length : Int) - 1 = (((decimal a.floor.toNat).length - 1 : Nat) : Int) := by
      omega
    rw [hexp, zpow_natCast]
    calc (10 : Rat) ^ ((decimal a.floor.toNat).length - 1) ≤ (a.floor.toNat : Rat) := by exact_mod_cast hpow
      _ = (a.floor : Rat) := by
        have : (a.floor.toNat : Int) = a.floor := by omega
        exact_mod_cast this
      _ ≤ a := Rat.floor_le a
  · have hden : a.den < 10 ^ (decimal a.den).length :=
      (length_decimal_le (List.length_pos_of_ne_nil (decimal_ne_nil _))).1 le_rfl
    have hnum : 0 < a.num := Rat.num_pos.2 ha
    have hshift : 1 ≤ a * 10 ^ (decimal a.den).length := by
      have hmul : a * a.den = a.num := Rat.mul_den_eq_num a
      calc (1 : Rat) ≤ a.num := by exact_mod_cast hnum
        _ = a * a.den := hmul.symm
        _ ≤ a * 10 ^ (decimal a.den).length := by
          apply mul_le_mul_of_nonneg_left _ ha.le
          exact_mod_cast hden.le
    have hone := one_le_zerosBehindPoint _ hshift ha
    generalize zerosBehindPoint (decimal a.den).length a = k at hone ⊢
    have hexp : 0 - (k : Int) - 1 = -((k + 1 : Nat) : Int) := by push_cast; ring
    rw [hexp, zpow_neg, zpow_natCast, inv_le_iff_one_le_mul₀ (by positivity)]
    exact hone

theorem withDigits?_ne_zero {a : Rat} (ha : a ≠ 0) {point : Int} {n d : Nat} (h : withDigits? a point n = some d) :
    d ≠ 0 := by
  -- zero reads back as zero, so it stands for no other value
  have hzero : ∀ unit : Rat, nearest ((0 : Nat) * unit) ≠ .finite a := by
    intro unit
    rw [Nat.cast_zero, zero_mul, nearest, if_pos rfl]
    simpa using ha.symm
  rintro rfl
  unfold withDigits? at h
  dsimp only at h
  generalize (a / pow10 (point - n)).floor.toNat = low at h
  by_cases hlow : low = 0
  · subst hlow
    simp only [Bool.and_eq_true, beq_iff_eq, hzero, false_and, if_false] at h
    split at h <;> cases h
  · grind

theorem fewestDigits_ne_zero {a : Rat} (ha : 0 < a) (fuel n : Nat) (hn : 1 ≤ fuel + n) :
    (fewestDigits a (pointOf a) fuel n).1 ≠ 0 := by
  induction fuel generalizing n with
  | zero =>
    have hunit : pow10 (pointOf a - n) ≤ a := by
      rw [pow10_eq]
      calc (10 : Rat) ^ (pointOf a - n) ≤ 10 ^ (pointOf a - 1) := zpow_le_zpow_right₀ (by norm_num) (by omega)
        _ ≤ a := zpow_pointOf_le ha
    have hpos : 0 < pow10 (pointOf a - n) := by rw [pow10_eq]; positivity
    have hfloor : 1 ≤ (a / pow10 (pointOf a - n)).floor :=
      Rat.le_floor_iff.2 (by rw [Int.cast_one, one_le_div hpos]; exact hunit)
    unfold fewestDigits
    dsimp only
    omega
  | succ fuel ih =>
    unfold fewestDigits
    split
    · exact withDigits?_ne_zero ha.ne' ‹_›
    · exact ih (n + 1) (by omega)

theorem significant_shortest {a : Rat} (ha : 0 < a) : Significant (shortest a).1 :=
  significant_trimmed (fewestDigits_ne_zero ha 17 1 (by decide))

/-! ## Layout -/

section Layout

variable {ds : List Char}

theorem Significant.not_zero (h : Significant ds) : ∀ rest, ds = '0' :: rest → rest = [] := by
  intro rest hds
  exact absurd (congrArg List.head? hds) h.2.1

theorem Significant.append (h : Significant ds) {more : List Char} (hmore : ∀ c ∈ more, isDigit c = true) :
    Significant (ds ++ more) := by
  refine ⟨by simp [h.1], ?_, ?_⟩
  · rw [List.head?_append_of_ne_nil _ h.1]
    exact h.2.1
  · intro c hc
    rcases List.mem_append.1 hc with hc | hc
    · exact h.2.2 c hc
    · exact hmore c hc

theorem Significant.take (h : Significant ds) {k : Nat} (hk : 0 < k) : Significant (ds.take k) := by
  obtain ⟨n, rfl⟩ := Nat.exists_eq_succ_of_ne_zero hk.ne'
  cases ds with
  | nil => exact absurd rfl h.1
  | cons d ds =>
    refine ⟨by simp, h.2.1, ?_⟩
    intro c hc
    exact h.2.2 c (List.mem_of_mem_take hc)

theorem isDigit_replicate_zero (k : Nat) : ∀ c ∈ List.replicate k '0', isDigit c = true := by
  intro c hc
  rw [List.eq_of_mem_replicate hc]
  rfl

/-- laid out digits are a literal without its sign -/
theorem exists_body (negative : Bool) (hds : Significant ds) (point : Int) :
    ∃ l : Literal, l.negative = negative ∧ l.body = layout ds point := by
  have hplain : ∀ {p : Option (Bool × List Char)}, p = none → ∀ e ∈ p, e.2 ≠ [] ∧ ∀ c ∈ e.2, isDigit c = true := by
    rintro p rfl e he
    cases he
  unfold layout
  dsimp only
  split
  · have hwhole := hds.append (isDigit_replicate_zero (point.toNat - ds.length))
    exact ⟨⟨negative, ds ++ List.replicate (point.toNat - ds.length) '0', [], none, hwhole.1, hwhole.not_zero,
      hwhole.2.2, List.forall_mem_nil _, hplain rfl⟩, rfl, List.append_nil _⟩
  split
  · have hwhole := hds.take (k := point.toNat) (by omega)
    have hplaces : ds.drop point.toNat ≠ [] := by
      rw [ne_eq, List.drop_eq_nil_iff]
      omega
    refine ⟨⟨negative, ds.take point.toNat, ds.drop point.toNat, none, hwhole.1, hwhole.not_zero, hwhole.2.2, ?_,
      hplain rfl⟩, rfl, ?_⟩
    · intro c hc
      exact hds.2.2 c (List.mem_of_mem_drop hc)
    · simp [Literal.body, Literal.placesText, Literal.exponentText, hplaces]
  split
  · have hplaces : List.replicate (-point).toNat '0' ++ ds ≠ [] := by simp [hds.1]
    refine ⟨⟨negative, ['0'], List.replicate (-point).toNat '0' ++ ds, none, by simp, by simp,
      isDigit_replicate_zero 1, ?_, hplain rfl⟩, rfl, ?_⟩
    · intro c hc
      rcases List.mem_append.1 hc with hc | hc
      · exact isDigit_replicate_zero _ c hc
      · exact hds.2.2 c hc
    · simp [Literal.body, Literal.placesText, Literal.exponentText, hplaces]
  · obtain ⟨d, rest, rfl⟩ := List.exists_cons_of_ne_nil hds.1
    have hexponent : ∀ e ∈ some (decide (point - 1 < 0), decimal (point - 1).natAbs),
        e.2 ≠ [] ∧ ∀ c ∈ e.2, isDigit c = true := by
      rintro e ⟨⟩
      exact ⟨decimal_ne_nil _, fun c hc => isDigit_of_mem_decimal hc⟩
    have hmark : (if decide (point - 1 < 0) = true then '-' else '+') = if 0 ≤ point - 1 then '+' else '-' := by
      by_cases he : 0 ≤ point - 1
      · rw [if_pos he, if_neg (by simpa using he)]
      · rw [if_neg he, if_pos (by simpa using he)]
    refine ⟨⟨negative, [d], rest, some (decide (point - 1 < 0), decimal (point - 1).natAbs), by simp, ?_, ?_, ?_,
      hexponent⟩, rfl, ?_⟩
    · intro more hmore
      exact (List.cons.inj hmore).2.symm
    · intro c hc
      obtain rfl := List.mem_singleton.1 hc
      exact hds.2.2 c List.mem_cons_self
    · intro c hc
      exact hds.2.2 c (List.mem_cons_of_mem d hc)
    · rw [Literal.body, Literal.exponentText, hmark]
      cases rest <;> simp [Literal.placesText]

end Layout

/-- **The text of a finite number is a literal.** -/
theorem exists_literal (q : Rat) : ∃ l : Literal, l.text = (toText (.finite q)).toList := by
  by_cases hq : q = 0
  · subst hq
    exact ⟨⟨false, ['0'], [], none, by simp, by simp, isDigit_replicate_zero 1, by simp, by simp⟩, rfl⟩
  have ha : 0 < (if q < 0 then -q else q) := by
    split
    · linarith
    · exact lt_of_le_of_ne (not_lt.1 ‹_›) (Ne.symm hq)
  obtain ⟨l, hnegative, hbody⟩ :=
    exists_body (decide (q < 0)) (significant_shortest ha) (shortest (if q < 0 then -q else q)).2
  refine ⟨l, ?_⟩
  rw [Literal.text, hbody, hnegative, toText, if_neg hq]
  by_cases hneg : q < 0 <;> simp [hneg]

/-- **So it is read as a number**, whatever follows that does not go on with it. -/
theorem readNumber_toText (q : Rat) :
    ∃ n, ∀ rest, Apart rest → readNumber ((toText (.finite q)).toList ++ rest) = some (n, rest) := by
  obtain ⟨l, hl⟩ := exists_literal q
  refine ⟨l.value, ?_⟩
  intro rest hrest
  rw [← hl]
  exact readNumber_literal l hrest

end EnquiryMail.Number
