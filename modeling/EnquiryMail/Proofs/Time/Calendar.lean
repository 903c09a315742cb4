/-
The Gregorian calendar, carried on in both directions. It is stated by its rules, which years have a leap day and how
long the months are, and by the days that have passed up to a date; the reckoning of dates in eras of 400 years that
begin in March is then shown to follow these rules for every day.

- `daysBeforeYear_succ`: a year is as long as the rules say.
- `isDate_dateOfDay`: every day has a date of the calendar.
- `dayNumber_dateOfDay`: and as many days have passed up to that date.
-/
import Mathlib.Tactic
import EnquiryMail.Time.Civil

namespace EnquiryMail.Time

/-! ## The rules -/

/-- a year with a leap day: every fourth, of the last years of centuries only every fourth -/
def IsLeap (y : Int) : Prop := y % 4 = 0 ∧ (y % 100 ≠ 0 ∨ y % 400 = 0)

instance : DecidablePred IsLeap := fun y => inferInstanceAs (Decidable (y % 4 = 0 ∧ (y % 100 ≠ 0 ∨ y % 400 = 0)))

/-- the days of a month -/
def monthLength (y : Int) : Nat → Nat
  | 2 => if IsLeap y then 29 else 28
  | 4 | 6 | 9 | 11 => 30
  | _ => 31

theorem monthLength_le (y : Int) (m : Nat) : monthLength y m ≤ 31 := by
  unfold monthLength
  split
  · split <;> decide
  all_goals decide

/-- a date of the calendar -/
structure IsDate (y : Int) (m d : Nat) : Prop where
  month : 1 ≤ m ∧ m ≤ 12
  day : 1 ≤ d ∧ d ≤ monthLength y m

instance (y : Int) (m d : Nat) : Decidable (IsDate y m d) :=
  decidable_of_iff ((1 ≤ m ∧ m ≤ 12) ∧ 1 ≤ d ∧ d ≤ monthLength y m) ⟨fun h => ⟨h.1, h.2⟩, fun h => ⟨h.month, h.day⟩⟩

/-- the days from the start of the year 1 to the start of a year -/
def daysBeforeYear (y : Int) : Int := 365 * (y - 1) + (y - 1) / 4 - (y - 1) / 100 + (y - 1) / 400

/-- the days of a year in front of a month -/
def daysBeforeMonth (y : Int) (m : Nat) : Nat := ((List.range' 1 (m - 1)).map (monthLength y)).sum

/-- the days from 1970-01-01 to a date -/
def dayNumber (y : Int) (m d : Nat) : Int := daysBeforeYear y + daysBeforeMonth y m + d - (daysBeforeYear 1970 + 1)

/-- **A year is as long as the rules say.** -/
theorem daysBeforeYear_succ (y : Int) : daysBeforeYear (y + 1) = daysBeforeYear y + if IsLeap y then 366 else 365 := by
  unfold daysBeforeYear
  by_cases h : IsLeap y
  · rw [if_pos h]
    unfold IsLeap at h
    omega
  · rw [if_neg h]
    unfold IsLeap at h
    omega

/-! ## Years from March -/

/-- the place of a month in a year that begins in March -/
def fromMarch (m : Nat) : Nat := if m ≤ 2 then m + 9 else m - 3

/-- the days in front of a month, counted from March: of each five months in a row the days are the same -/
theorem daysBeforeMonth_eq {m : Nat} (h : 1 ≤ m ∧ m ≤ 12) (y : Int) :
    (daysBeforeMonth y m : Int) =
      (153 * fromMarch m + 2) / 5 + if m ≤ 2 then -306 else if IsLeap y then 60 else 59 := by
  obtain ⟨hlow, hhigh⟩ := h
  unfold daysBeforeMonth
  by_cases hleap : IsLeap y
  · interval_cases m <;> simp [List.range', monthLength, fromMarch, hleap]
  · interval_cases m <;> simp [List.range', monthLength, fromMarch, hleap]

/-- **The reckoning in eras counts the days of the calendar.** -/
theorem dayOfDate_eq {m : Nat} (h : 1 ≤ m ∧ m ≤ 12) (y : Int) (d : Nat) : dayOfDate y m d = dayNumber y m d := by
  have hmonth := daysBeforeMonth_eq h y
  have hepoch : daysBeforeYear 1970 = 719162 := by decide
  rw [dayNumber, hmonth, hepoch, dayOfDate, daysBeforeYear, fromMarch]
  by_cases hearly : m ≤ 2
  · simp only [if_pos hearly]
    push_cast
    omega
  · simp only [if_neg hearly]
    by_cases hleap : IsLeap y
    · rw [if_pos hleap]
      unfold IsLeap at hleap
      omega
    · rw [if_neg hleap]
      unfold IsLeap at hleap
      omega

/-- a day of an era by its century, the fours of years in it, the years behind them and the days in the last year; only
the last year of four has a day more, and not at the end of the first three centuries -/
theorem exists_parts {n : Nat} (h : n < 146097) : ∃ c q r k, n = 36524 * c + 1461 * q + 365 * r + k ∧
    c ≤ 3 ∧ q ≤ 24 ∧ r ≤ 3 ∧ k ≤ 365 ∧ (k = 365 → r = 3 ∧ (q ≠ 24 ∨ c = 3)) := by
  refine ⟨min (n / 36524) 3, (n - 36524 * min (n / 36524) 3) / 1461,
    min ((n - 36524 * min (n / 36524) 3) % 1461 / 365) 3,
    (n - 36524 * min (n / 36524) 3) % 1461 - 365 * min ((n - 36524 * min (n / 36524) 3) % 1461 / 365) 3, ?_⟩
  omega

/-- the leap days that have passed taken away, a day of an era tells its year -/
theorem yearOfEra_parts {c q r k n : Nat} (hn : n = 36524 * c + 1461 * q + 365 * r + k) (hc : c ≤ 3) (hq : q ≤ 24)
    (hr : r ≤ 3) (hk : k ≤ 365) (hlong : k = 365 → r = 3 ∧ (q ≠ 24 ∨ c = 3)) :
    (n - n / 1460 + n / 36524 - n / 146096) / 365 = 100 * c + 4 * q + r := by
  have hfours : n / 1460 = 25 * c + q + (24 * c + q + 365 * r + k) / 1460 := by omega
  by_cases hlast : n = 146096
  · subst hlast
    omega
  have hera : n / 146096 = 0 := by omega
  have hcentury : n / 36524 = c := by omega
  rw [hfours, hera, hcentury]
  omega

/-- what the year of a day of an era is: the day lies in it, and in its last place only if the year after is a leap
year -/
structure YearOfEra (n y k : Nat) : Prop where
  year : (n - n / 1460 + n / 36524 - n / 146096) / 365 = y
  day : n - (365 * y + y / 4 - y / 100) = k
  split : n = 365 * y + y / 4 - y / 100 + k
  inEra : y < 400
  inYear : k < 365 ∨ k = 365 ∧ IsLeap (y + 1)

theorem exists_yearOfEra {n : Nat} (h : n < 146097) : ∃ y k, YearOfEra n y k := by
  obtain ⟨c, q, r, k, hn, hc, hq, hr, hk, hlong⟩ := exists_parts h
  have hfours : (100 * c + 4 * q + r) / 4 = 25 * c + q := by omega
  have hcenturies : (100 * c + 4 * q + r) / 100 = c := by omega
  refine ⟨100 * c + 4 * q + r, k, yearOfEra_parts hn hc hq hr hk hlong, ?_, ?_, by omega, ?_⟩
  · rw [hfours, hcenturies]
    omega
  · rw [hfours, hcenturies]
    omega
  · unfold IsLeap
    omega

/-! ## Every day has its date -/

theorem isLeap_add_eras (y era : Int) : IsLeap (y + era * 400) ↔ IsLeap y := by
  unfold IsLeap
  omega

/-- the parts of a date, reckoned in eras -/
theorem dateOfDay_eq (n : Int) : ∃ (y k : Nat), YearOfEra ((n + 719468) % 146097).toNat y k ∧
    let s := (5 * k + 2) / 153
    let m := if s < 10 then s + 3 else s - 9
    dateOfDay n = (y + (n + 719468) / 146097 * 400 + (if m ≤ 2 then 1 else 0), m, k - (153 * s + 2) / 5 + 1) := by
  obtain ⟨y, k, hparts⟩ := exists_yearOfEra (n := ((n + 719468) % 146097).toNat) (by omega)
  refine ⟨y, k, hparts, ?_⟩
  simp only [dateOfDay, hparts.year, hparts.day]

/-- **Every day has a date of the calendar.** -/
theorem isDate_dateOfDay (n : Int) : IsDate (dateOfDay n).1 (dateOfDay n).2.1 (dateOfDay n).2.2 := by
  obtain ⟨y, k, hparts, hdate⟩ := dateOfDay_eq n
  rw [hdate]
  have hyear := hparts.inYear
  have hmonth : (5 * k + 2) / 153 ≤ 11 := by omega
  generalize hs : (5 * k + 2) / 153 = s at hmonth
  refine ⟨⟨by dsimp only; split <;> omega, by dsimp only; split <;> omega⟩, by dsimp only; omega, ?_⟩
  by_cases hlast : s = 11
  · -- the month of the leap day, the last of a year that begins in March
    subst hlast
    have hleap := isLeap_add_eras (y + 1) ((n + 719468) / 146097)
    rw [add_right_comm] at hleap
    show k - 337 + 1 ≤ if IsLeap (y + (n + 719468) / 146097 * 400 + 1) then 29 else 28
    simp only [hleap]
    rcases hyear with hshort | ⟨hlong, hday⟩
    · split <;> omega
    · rw [if_pos hday]
      omega
  · show k - (153 * s + 2) / 5 + 1 ≤ monthLength _ (if s < 10 then s + 3 else s - 9)
    interval_cases s <;> simp [monthLength] <;> omega

/-- **As many days have passed up to that date.** -/
theorem dayNumber_dateOfDay (n : Int) : dayNumber (dateOfDay n).1 (dateOfDay n).2.1 (dateOfDay n).2.2 = n := by
  obtain ⟨y, k, hparts, hdate⟩ := dateOfDay_eq n
  have hvalid := (isDate_dateOfDay n).month
  rw [← dayOfDate_eq hvalid, hdate]
  have hday := hparts.split
  have hera := hparts.inEra
  have hyear := hparts.inYear
  have hmonth : (5 * k + 2) / 153 ≤ 11 := by omega
  generalize hs : (5 * k + 2) / 153 = s at hmonth
  have hback : (y + (n + 719468) / 146097 * 400 : Int) / 400 = (n + 719468) / 146097 := by omega
  have hrest : (y + (n + 719468) / 146097 * 400 : Int) % 400 = y := by omega
  dsimp only [dayOfDate]
  by_cases hlate : s < 10
  · simp only [if_pos hlate, if_neg (show ¬ s + 3 ≤ 2 by omega), add_zero, hback, hrest]
    omega
  · simp only [if_neg hlate, if_pos (show s - 9 ≤ 2 by omega), add_sub_cancel_right, hback, hrest]
    omega

end EnquiryMail.Time
