/-
The order of time stamps. A stamp has its fields from the year down to the milliseconds, each with zeros in front up to
a fixed width, so stamps are ordered as texts the way their fields are ordered as numbers; and the fields of civil time
are ordered the way the instants are, since dates come one after another as their days do.

- `dayNumber_lt_iff`: the order of dates.
- `lt_iff_fields`: the order of instants, by what a clock shows.
- `padded_lt_iff`: the order of numbers of one width.
- `stampChars_lt_iff`: the order of stamps.
- `stamps_in_order`: stamps of one zone sort as their instants, while years have four digits.
-/
import Mathlib.Data.String.Basic
import EnquiryMail.Proofs.Mail.Unbroken
import EnquiryMail.Proofs.Time.Header

namespace EnquiryMail.Time

open Mail (range_of_isAlphanum)
open EnquiryMail.Number (decimal isDigit natOf length_decimal_le)

/-! ## Dates -/

theorem daysBeforeYear_mono {y y' : Int} (h : y ≤ y') : daysBeforeYear y ≤ daysBeforeYear y' := by
  unfold daysBeforeYear
  omega

theorem daysBeforeMonth_succ (y : Int) {m : Nat} (h : 1 ≤ m) :
    daysBeforeMonth y (m + 1) = daysBeforeMonth y m + monthLength y m := by
  obtain ⟨k, rfl⟩ := Nat.exists_eq_add_of_le h
  rw [daysBeforeMonth, daysBeforeMonth, Nat.add_sub_cancel_left, Nat.add_sub_cancel, Nat.add_comm 1 k,
    List.range'_concat, List.map_append, List.sum_append, Nat.one_mul, Nat.add_comm 1 k]
  rfl

/-- a month has passed when a later one begins -/
theorem daysBeforeMonth_of_lt (y : Int) {m m' : Nat} (hm : 1 ≤ m) (h : m < m') :
    daysBeforeMonth y m + monthLength y m ≤ daysBeforeMonth y m' := by
  induction m', h using Nat.le_induction with
  | base => exact (daysBeforeMonth_succ y hm).ge
  | succ k hk ih =>
    rw [daysBeforeMonth_succ y (show 1 ≤ k by omega)]
    exact ih.trans (Nat.le_add_right _ _)

/-- the months of a year are the year -/
theorem daysBeforeMonth_end (y : Int) : daysBeforeMonth y 13 = if IsLeap y then 366 else 365 := by
  by_cases hleap : IsLeap y <;> simp [daysBeforeMonth, List.range', monthLength, hleap]

variable {y y' : Int} {m m' d d' : Nat}

/-- a date lies in its year -/
theorem IsDate.in_year (h : IsDate y m d) :
    daysBeforeYear y + (daysBeforeMonth y m + d : Nat) ≤ daysBeforeYear (y + 1) := by
  have hmonth := daysBeforeMonth_of_lt y h.month.1 (show m < 13 by have := h.month.2; omega)
  have hday := h.day.2
  rw [daysBeforeMonth_end] at hmonth
  rw [daysBeforeYear_succ]
  split_ifs at hmonth ⊢ <;> omega

/-- a date by its numbers, the greatest first -/
def dateFields (y : Int) (m d : Nat) : List Int := [y, m, d]

theorem dayNumber_lt (h : IsDate y m d) (h' : IsDate y' m' d') (hlt : dateFields y m d < dateFields y' m' d') :
    dayNumber y m d < dayNumber y' m' d' := by
  simp only [dateFields, List.cons_lt_cons_iff, List.lt_irrefl, and_false, or_false, Nat.cast_lt, Nat.cast_inj] at hlt
  unfold dayNumber
  -- the first number in which they differ decides: the year of the one is over, or its month, or its day
  obtain hyear | ⟨rfl, hmonth | ⟨rfl, hday⟩⟩ := hlt
  · have hend := h.in_year
    have hlater := daysBeforeYear_mono (show y + 1 ≤ y' by omega)
    have hfirst := h'.day.1
    omega
  · have hpassed := daysBeforeMonth_of_lt y h.month.1 hmonth
    have hday := h.day.2
    have hfirst := h'.day.1
    omega
  · omega

/-- **Dates come one after another as their days do.** -/
theorem dayNumber_lt_iff (h : IsDate y m d) (h' : IsDate y' m' d') :
    dayNumber y m d < dayNumber y' m' d' ↔ dateFields y m d < dateFields y' m' d' := by
  refine ⟨fun hlt => ?_, dayNumber_lt h h'⟩
  rcases lt_trichotomy (dateFields y m d) (dateFields y' m' d') with hless | hsame | hmore
  · exact hless
  · simp only [dateFields, List.cons.injEq, Nat.cast_inj, and_true] at hsame
    obtain ⟨rfl, rfl, rfl⟩ := hsame
    exact absurd hlt (lt_irrefl _)
  · exact absurd hlt (dayNumber_lt h' h hmore).not_gt

/-! ## Instants -/

variable {offset t t' : Int}

/-- what is ordered alike is equal alike -/
theorem eq_iff_of_lt_iff {α β : Type} [LinearOrder α] [LinearOrder β] {a a' : α} {b b' : β} (h : a < a' ↔ b < b')
    (h' : a' < a ↔ b' < b) : a = a' ↔ b = b' := by
  rw [← not_iff_not, ← ne_eq, ← ne_eq, ne_iff_lt_or_gt, ne_iff_lt_or_gt, h, h']

/-- lists that begin with as many elements are compared by these first -/
theorem append_lt_append_iff {α : Type} [LinearOrder α] {as as' : List α} (h : as.length = as'.length)
    (bs bs' : List α) : as ++ bs < as' ++ bs' ↔ as < as' ∨ as = as' ∧ bs < bs' := by
  induction as generalizing as' with
  | nil =>
    obtain rfl := List.length_eq_zero_iff.1 h.symm
    simp
  | cons a as ih =>
    obtain ⟨a', as', rfl⟩ := List.exists_cons_of_length_eq_add_one h.symm
    rw [List.cons_append, List.cons_append, List.cons_lt_cons_iff, List.cons_lt_cons_iff, ih (by simpa using h),
      List.cons.injEq]
    tauto

/-- a time of day by its numbers, the greatest first -/
def clockFields (c : Civil) : List Int := [c.hour, c.minute, c.second, c.milli]

/-- what a clock shows, the greatest first -/
def fields (c : Civil) : List Int := dateFields c.year c.month c.day ++ clockFields c

/-- the time of day is what is left of the day -/
theorem civil_clock (offset t : Int) :
    (civil offset t).hour < 24 ∧ (civil offset t).minute < 60 ∧ (civil offset t).second < 60 ∧
      (civil offset t).milli < 1000 ∧
      (((civil offset t).hour * 3600000 + (civil offset t).minute * 60000 + (civil offset t).second * 1000 +
        (civil offset t).milli : Nat) : Int) = localMillis offset t % 86400000 := by
  simp only [civil, localMillis]
  omega

theorem clockFields_lt_iff (offset t t' : Int) :
    clockFields (civil offset t) < clockFields (civil offset t') ↔
      localMillis offset t % 86400000 < localMillis offset t' % 86400000 := by
  obtain ⟨hhour, hminute, hsecond, hmilli, hsum⟩ := civil_clock offset t
  obtain ⟨hhour', hminute', hsecond', hmilli', hsum'⟩ := civil_clock offset t'
  simp only [clockFields, List.cons_lt_cons_iff, List.lt_irrefl, and_false, or_false, Nat.cast_lt, Nat.cast_inj]
  omega

/-- **Instants are ordered by what a clock shows.** -/
theorem lt_iff_fields (offset t t' : Int) : t < t' ↔ fields (civil offset t) < fields (civil offset t') := by
  have hdate := dayNumber_lt_iff (isDate_civil offset t) (isDate_civil offset t')
  have hdate' := dayNumber_lt_iff (isDate_civil offset t') (isDate_civil offset t)
  rw [dayNumber_civil, dayNumber_civil] at hdate hdate'
  rw [fields, fields, append_lt_append_iff (by rfl), ← hdate, ← eq_iff_of_lt_iff hdate hdate', clockFields_lt_iff]
  simp only [localMillis]
  omega

/-! ## Texts -/

theorem toNat_of_isDigit {c : Char} (h : isDigit c = true) : 48 ≤ c.toNat ∧ c.toNat ≤ 57 := by
  simp only [isDigit, Bool.and_eq_true, decide_eq_true_eq, Char.le_def, UInt32.le_iff_toNat_le] at h
  exact h

/-- texts of so many digits -/
def digits (width : Nat) : Set (List Char) := {ds | ds.length = width ∧ ∀ c ∈ ds, isDigit c = true}

/-- **Digits of one width** are ordered as texts the way the numbers are that they spell. -/
theorem strictMonoOn_natOf (width : Nat) : StrictMonoOn natOf (digits width) := by
  rintro ds ⟨hlength, hds⟩ ds' ⟨hlength', hds'⟩ hlt
  -- a number is read from its last digit, so the digits in front are the ones that are known to be ordered
  induction ds using List.reverseRecOn generalizing width ds' with
  | nil =>
    obtain rfl := List.length_eq_zero_iff.1 (hlength'.trans hlength.symm)
    exact absurd hlt (lt_irrefl _)
  | append_singleton ds d ih =>
    rcases ds'.eq_nil_or_concat with rfl | ⟨ds', d', rfl⟩
    · exact absurd hlt (List.not_lt_nil _)
    rw [List.concat_eq_append] at hlt hds' hlength' ⊢
    obtain ⟨hfront, hlast⟩ := List.forall_mem_append.1 hds
    obtain ⟨hfront', hlast'⟩ := List.forall_mem_append.1 hds'
    have hshort : ds.length = ds'.length := by simpa using hlength.trans hlength'.symm
    have hdigit := toNat_of_isDigit (hlast d (List.mem_singleton_self d))
    have hdigit' := toNat_of_isDigit (hlast' d' (List.mem_singleton_self d'))
    rw [natOf_append_digit, natOf_append_digit]
    rcases (append_lt_append_iff hshort _ _).1 hlt with hbefore | ⟨rfl, hunit⟩
    · -- ten times one more in front outweighs any last digit
      have hless := ih _ rfl hfront hshort.symm hfront' hbefore
      omega
    · have hless : d.toNat < d'.toNat := by
        simpa [List.cons_lt_cons_iff, Char.lt_def, UInt32.lt_iff_toNat_lt] using hunit
      omega

theorem natOf_padded (width n : Nat) : natOf (padded width n).toList = n := by
  rw [toList_padded, natOf_zeros, natOf_decimal]

theorem padded_mem_digits {width n : Nat} (hwidth : 0 < width) (h : n < 10 ^ width) :
    (padded width n).toList ∈ digits width := ⟨length_padded hwidth h, isDigit_padded⟩

/-- **Numbers of one width** are ordered as they are written. -/
theorem padded_lt_iff {width n n' : Nat} (hwidth : 0 < width) (h : n < 10 ^ width) (h' : n' < 10 ^ width) :
    (padded width n).toList < (padded width n').toList ↔ n < n' := by
  have hmono := (strictMonoOn_natOf width).lt_iff_lt (padded_mem_digits hwidth h) (padded_mem_digits hwidth h')
  rwa [natOf_padded, natOf_padded, Iff.comm] at hmono

/-! ## Stamps -/

/-- the form of a stamp, place by place -/
def stampForm : String := "0000-00-00 00:00:00,000"

theorem toList_stampForm : stampForm.toList = ['0', '0', '0', '0', '-', '0', '0', '-', '0', '0', ' ', '0', '0', ':',
    '0', '0', ':', '0', '0', ',', '0', '0', '0'] := String.toList_ofList

/-- the year that a clock in the zone shows has four digits -/
def InFourDigitYear (offset t : Int) : Prop := 1000 ≤ (civil offset t).year ∧ (civil offset t).year ≤ 9999

/-- the fields of a stamp fit their widths -/
structure Narrow (c : Civil) : Prop where
  /-- the year is not before the common era -/
  era : ((c.year.toNat : Nat) : Int) = c.year
  year : c.year.toNat < 10 ^ 4
  month : c.month < 10 ^ 2
  day : c.day < 10 ^ 2
  hour : c.hour < 10 ^ 2
  minute : c.minute < 10 ^ 2
  second : c.second < 10 ^ 2
  milli : c.milli < 10 ^ 3

theorem narrow_civil (h : InFourDigitYear offset t) : Narrow (civil offset t) := by
  obtain ⟨hfirst, hlast⟩ := h
  obtain ⟨hmonth, hday⟩ := isDate_civil offset t
  have hdays := monthLength_le (civil offset t).year (civil offset t).month
  obtain ⟨hhour, hminute, hsecond, hmilli, -⟩ := civil_clock offset t
  exact ⟨Int.toNat_of_nonneg (by omega), by omega, by omega, by omega, by omega, by omega, by omega, by omega⟩

/-- the characters of a stamp: each field in its width, and a mark behind each but the last -/
def stampChars (c : Civil) : List Char :=
  (padded 4 c.year.toNat).toList ++ ("-".toList ++ ((padded 2 c.month).toList ++ ("-".toList ++
    ((padded 2 c.day).toList ++ (" ".toList ++ ((padded 2 c.hour).toList ++ (":".toList ++
    ((padded 2 c.minute).toList ++ (":".toList ++ ((padded 2 c.second).toList ++ (",".toList ++
    (padded 3 c.milli).toList)))))))))))

/-- a year of four digits needs no zeros in front -/
theorem toString_fourDigits {y : Int} (hlow : 1000 ≤ y) (hhigh : y ≤ 9999) : toString y = padded 4 y.toNat := by
  obtain ⟨n, rfl⟩ := Int.eq_ofNat_of_zero_le (show 0 ≤ y by omega)
  have hlength : (decimal n).length = 4 := by
    have hle := (length_decimal_le (n := n) (k := 4) (by decide)).2 (by omega)
    have hgt := mt (length_decimal_le (n := n) (k := 3) (by decide)).1 (by omega)
    omega
  rw [← String.toList_inj, Int.toNat_natCast, toList_padded, hlength]
  show (Nat.repr n).toList = _
  simp [Nat.repr, decimal]

theorem toList_lineStamp (h : InFourDigitYear offset t) :
    (lineStamp offset t).toList = stampChars (civil offset t) := by
  simp only [lineStamp, toString_fourDigits h.1 h.2, String.toList_append, List.append_assoc, stampChars]

/-- a number in front, and a mark behind it -/
theorem field_lt_iff {width n n' : Nat} (hwidth : 0 < width) (h : n < 10 ^ width) (h' : n' < 10 ^ width) (mark : String)
    {cs cs' : List Char} {ns ns' : List Int} (hrest : cs < cs' ↔ ns < ns') :
    (padded width n).toList ++ (mark.toList ++ cs) < (padded width n').toList ++ (mark.toList ++ cs') ↔
      (n : Int) :: ns < (n' : Int) :: ns' := by
  have hlength : (padded width n).toList.length = (padded width n').toList.length := by
    rw [length_padded hwidth h, length_padded hwidth h']
  have hless := padded_lt_iff hwidth h h'
  have hsame := eq_iff_of_lt_iff hless (padded_lt_iff hwidth h' h)
  rw [append_lt_append_iff hlength, append_lt_append_iff rfl, hless, hsame, hrest, List.cons_lt_cons_iff, Nat.cast_lt,
    Nat.cast_inj]
  simp only [lt_irrefl, true_and, false_or]

/-- **Stamps are ordered as their fields.** -/
theorem stampChars_lt_iff {c c' : Civil} (h : Narrow c) (h' : Narrow c') :
    stampChars c < stampChars c' ↔ fields c < fields c' := by
  rw [stampChars, stampChars, fields, fields, dateFields, dateFields, ← h.era, ← h'.era]
  refine field_lt_iff (by decide) h.year h'.year "-" ?_
  refine field_lt_iff (by decide) h.month h'.month "-" ?_
  refine field_lt_iff (by decide) h.day h'.day " " ?_
  refine field_lt_iff (by decide) h.hour h'.hour ":" ?_
  refine field_lt_iff (by decide) h.minute h'.minute ":" ?_
  refine field_lt_iff (by decide) h.second h'.second "," ?_
  rw [padded_lt_iff (by decide) h.milli h'.milli]
  simp [List.cons_lt_cons_iff]

theorem form_stampChars {c : Civil} (h : Narrow c) : List.Forall₂ Fits stampForm.toList (stampChars c) := by
  have hplaces : stampForm.toList = List.replicate 4 '0' ++ ("-".toList ++ (List.replicate 2 '0' ++ ("-".toList ++
      (List.replicate 2 '0' ++ (" ".toList ++ (List.replicate 2 '0' ++ (":".toList ++ (List.replicate 2 '0' ++
      (":".toList ++ (List.replicate 2 '0' ++ (",".toList ++ List.replicate 3 '0'))))))))))) := by
    rw [toList_stampForm]
    rfl
  have hfield {width n : Nat} (hwidth : 0 < width) (hn : n < 10 ^ width) {places cs : List Char}
      (hrest : List.Forall₂ Fits places cs) :
      List.Forall₂ Fits (List.replicate width '0' ++ places) ((padded width n).toList ++ cs) :=
    List.rel_append (fits_digits hwidth hn) hrest
  rw [hplaces, stampChars]
  refine hfield (by decide) h.year (fits_self (by decide) ?_)
  refine hfield (by decide) h.month (fits_self (by decide) ?_)
  refine hfield (by decide) h.day (fits_self (by decide) ?_)
  refine hfield (by decide) h.hour (fits_self (by decide) ?_)
  refine hfield (by decide) h.minute (fits_self (by decide) ?_)
  refine hfield (by decide) h.second (fits_self (by decide) ?_)
  exact fits_digits (by decide) h.milli

/-- what stands in a place is as long as the place -/
theorem unitSize_of_fits {place c : Char} (h : Fits place c) (hplace : Text.unitSize place = 1) :
    Text.unitSize c = 1 := by
  have hsmall {last : Char} (hle : c ≤ last) (hlast : last.toNat < 0x10000) : Text.unitSize c = 1 :=
    if_pos ((UInt32.le_iff_toNat_le.1 hle).trans_lt hlast)
  unfold Fits at h
  split_ifs at h with hletter hdigit hsign
  · rcases range_of_isAlphanum (Bool.or_eq_true_iff.2 (.inl h)) with ⟨-, hle⟩ | ⟨-, hle⟩ | ⟨-, hle⟩
    · exact hsmall hle (by decide)
    · exact hsmall hle (by decide)
    · exact hsmall hle (by decide)
  · exact if_pos (by have := (toNat_of_isDigit h).2; omega)
  · rcases of_decide_eq_true h with rfl | rfl <;> rfl
  · exact of_decide_eq_true h ▸ hplace

theorem units_of_fits {places cs : List Char} (h : List.Forall₂ Fits places cs)
    (hplaces : ∀ place ∈ places, Text.unitSize place = 1) : Text.units cs = places.length := by
  induction h with
  | nil => rfl
  | cons hfits hrest ih =>
    obtain ⟨hplace, hmore⟩ := List.forall_mem_cons.1 hplaces
    rw [Text.units, unitSize_of_fits hfits hplace, ih hmore, List.length_cons, Nat.add_comm]

/-- **Stamps sort in time order.** In any zone, while its clock shows years of four digits, stamps are of one form and
one length; an instant is before another exactly if its stamp is the smaller text, and two instants have the same stamp
only if they are the same millisecond. -/
theorem stamps_in_order (offset : Int) :
    (∀ t, InFourDigitYear offset t → List.Forall₂ Fits stampForm.toList (lineStamp offset t).toList ∧
      Text.units (lineStamp offset t).toList = 23) ∧
    ∀ t t', InFourDigitYear offset t → InFourDigitYear offset t' →
      (t < t' ↔ lineStamp offset t < lineStamp offset t') ∧ (lineStamp offset t = lineStamp offset t' ↔ t = t') := by
  have hless {t t' : Int} (h : InFourDigitYear offset t) (h' : InFourDigitYear offset t') :
      t < t' ↔ lineStamp offset t < lineStamp offset t' := by
    rw [lt_iff_fields offset, String.lt_iff_toList_lt, toList_lineStamp h, toList_lineStamp h',
      stampChars_lt_iff (narrow_civil h) (narrow_civil h')]
  refine ⟨fun t h => ?_, fun t t' h h' => ⟨hless h h', (eq_iff_of_lt_iff (hless h h') (hless h' h)).symm⟩⟩
  have hform : List.Forall₂ Fits stampForm.toList (lineStamp offset t).toList := by
    rw [toList_lineStamp h]
    exact form_stampChars (narrow_civil h)
  have hlength := units_of_fits hform (by simp [toList_stampForm, Text.unitSize])
  rw [toList_stampForm] at hlength
  exact ⟨hform, hlength⟩

/-- the last millisecond of a leap day and the first one behind it, in a zone five hours and a half ahead -/
theorem stamps_in_order_leapDay :
    (InFourDigitYear 330 1709231399999 ∧ InFourDigitYear 330 1709231400000) ∧
      lineStamp 330 1709231399999 = "2024-02-29 23:59:59,999" ∧
      lineStamp 330 1709231400000 = "2024-03-01 00:00:00,000" ∧
      Text.units (lineStamp 330 1709231399999).toList = 23 ∧
      lineStamp 330 1709231399999 < lineStamp 330 1709231400000 := by
  have hbefore : InFourDigitYear 330 1709231399999 := ⟨by decide +kernel, by decide +kernel⟩
  have hbehind : InFourDigitYear 330 1709231400000 := ⟨by decide +kernel, by decide +kernel⟩
  obtain ⟨hform, horder⟩ := stamps_in_order 330
  exact ⟨⟨hbefore, hbehind⟩, by decide +kernel, by decide +kernel, (hform _ hbefore).2,
    (horder _ _ hbefore hbehind).1.1 (by decide)⟩

end EnquiryMail.Time
