/-
The date of a message and the instant it stands for. A date header is read part by part: names of three letters, numbers
of a fixed width, and between them what the form says and nothing else. What it stands for is reckoned in the calendar,
its zone taken away. So a date names the second in which it was made, and two dates made in one zone are the same text
only within one second.

- `form_headerDate`: the form of a date.
- `read?_headerDate`: what is read from it.
- `isRight_reading`: that is a day of the calendar with its day of the week, a time of day and a zone.
- `header_dates_denote`: so it stands for its second, and for no other.
-/
import EnquiryMail.Proofs.Number.Spelling
import EnquiryMail.Proofs.Time.Calendar
import EnquiryMail.Time.Stamp

namespace EnquiryMail.Time

open EnquiryMail.Number (decimal isDigit natOf isDigit_of_mem_decimal length_decimal_le)

/-! ## Reading -/

/-- the rest of `cs` behind a text -/
def skip? (text : String) (cs : List Char) : Option (List Char) :=
  if text.toList <+: cs then some (cs.drop text.toList.length) else none

/-- the place of the name that `cs` begins with, and the rest -/
def readName? (names : List String) (cs : List Char) : Option (Nat × List Char) :=
  (names.findIdx? fun name => name.toList = cs.take 3).map fun i => (i, cs.drop 3)

/-- the number in so many digits that `cs` begins with, and the rest -/
def readDigits? (width : Nat) (cs : List Char) : Option (Nat × List Char) :=
  if (cs.take width).length = width ∧ (cs.take width).all isDigit then some (natOf (cs.take width), cs.drop width)
  else none

/-- the minutes east in a sign and four digits, and the rest -/
def readZone? : List Char → Option (Int × List Char)
  | '+' :: cs => do
    let (hours, cs) ← readDigits? 2 cs
    let (minutes, cs) ← readDigits? 2 cs
    some ((hours * 60 + minutes : Nat), cs)
  | '-' :: cs => do
    let (hours, cs) ← readDigits? 2 cs
    let (minutes, cs) ← readDigits? 2 cs
    some (-(hours * 60 + minutes : Nat), cs)
  | _ => none

/-- a date as it is read -/
structure Reading where
  /-- 0 is Sunday -/
  weekday : Nat
  day : Nat
  /-- 1 is January -/
  month : Nat
  year : Nat
  hour : Nat
  minute : Nat
  second : Nat
  /-- minutes east of the zero meridian -/
  offset : Int
  deriving DecidableEq, Repr

/-- day of the week, day, place of the month and year, and the rest -/
def readDay? (cs : List Char) : Option (Nat × Nat × Nat × Nat × List Char) := do
  let (weekday, cs) ← readName? weekdays cs
  let (day, cs) ← readDigits? 2 (← skip? ", " cs)
  let (month, cs) ← readName? months (← skip? " " cs)
  let (year, cs) ← readDigits? 4 (← skip? " " cs)
  some (weekday, day, month, year, cs)

/-- hours, minutes and seconds, and the rest -/
def readClock? (cs : List Char) : Option (Nat × Nat × Nat × List Char) := do
  let (hour, cs) ← readDigits? 2 cs
  let (minute, cs) ← readDigits? 2 (← skip? ":" cs)
  let (second, cs) ← readDigits? 2 (← skip? ":" cs)
  some (hour, minute, second, cs)

/-- reads a date and nothing behind it -/
def Reading.read? (cs : List Char) : Option Reading := do
  let (weekday, day, month, year, cs) ← readDay? cs
  let (hour, minute, second, cs) ← readClock? (← skip? " " cs)
  let (offset, cs) ← readZone? (← skip? " " cs)
  if cs = [] then some ⟨weekday, day, month + 1, year, hour, minute, second, offset⟩ else none

/-- the seconds from the start of 1970 to what a date stands for -/
def Reading.seconds (r : Reading) : Int :=
  dayNumber r.year r.month r.day * 86400 + r.hour * 3600 + r.minute * 60 + r.second - r.offset * 60

/-- a date of the calendar with its day of the week, a time of day, and a zone less than a day away -/
structure Reading.IsRight (r : Reading) : Prop where
  date : IsDate r.year r.month r.day
  /-- the days of the week go round, and 1970-01-01 was a Thursday -/
  weekday : (r.weekday : Int) = (dayNumber r.year r.month r.day + 4) % 7
  time : r.hour < 24 ∧ r.minute < 60 ∧ r.second < 60
  zone : r.offset.natAbs < 24 * 60

/-- what stands in a place of the form: a letter, a digit, a sign, or just this character -/
def Fits (place c : Char) : Prop :=
  if place = 'A' then c.isAlpha
  else if place = '0' then isDigit c
  else if place = '±' then c = '+' ∨ c = '-'
  else c = place

instance (place c : Char) : Decidable (Fits place c) := by
  unfold Fits
  infer_instance

/-- the form of a date, place by place -/
def HasForm (cs : List Char) : Prop := List.Forall₂ Fits "AAA, 00 AAA 0000 00:00:00 ±0000".toList cs

/-! ## Parts -/

theorem skip?_append (text : String) (rest : List Char) : skip? text (text.toList ++ rest) = some rest := by
  rw [skip?, if_pos (List.prefix_append _ _), List.drop_left]

theorem readName?_append {names : List String} (hsize : ∀ name ∈ names, name.toList.length = 3)
    (hdistinct : names.Nodup) {i : Nat} (hi : i < names.length) (rest : List Char) :
    readName? names ((names.getD i "").toList ++ rest) = some (i, rest) := by
  have hname : names.getD i "" = names[i] := by rw [List.getD_eq_getElem?_getD, List.getElem?_eq_getElem hi]; rfl
  have hlength : names[i].toList.length = 3 := hsize _ (List.getElem_mem hi)
  have htake : (names[i].toList ++ rest).take 3 = names[i].toList := by rw [← hlength, List.take_left]
  have hdrop : (names[i].toList ++ rest).drop 3 = rest := by rw [← hlength, List.drop_left]
  have hfind : names.findIdx? (fun name => name.toList = names[i].toList) = some i := by
    rw [List.findIdx?_eq_some_iff_getElem]
    refine ⟨hi, by simp, fun j hj => ?_⟩
    simp only [decide_eq_true_eq, String.toList_inj]
    exact fun h => (List.Nodup.getElem_inj_iff hdistinct).1 h |>.not_lt hj
  rw [readName?, hname, htake, hdrop, hfind]
  rfl

theorem natOf_append_digit (ds : List Char) (d : Char) : natOf (ds ++ [d]) = natOf ds * 10 + (d.toNat - 48) := by
  simp [natOf]

theorem natOf_decimal (n : Nat) : natOf (decimal n) = n := by
  induction n using Nat.strong_induction_on with
  | _ n ih =>
    have hdigit : ∀ d < 10, (Nat.digitChar d).toNat - 48 = d := by decide
    by_cases hsmall : n < 10
    · rw [decimal, Nat.toDigits_of_lt_base hsmall]
      simpa [natOf] using hdigit n hsmall
    · rw [decimal, Nat.toDigits_of_base_le (by decide) (by omega), natOf_append_digit, ← decimal,
        ih (n / 10) (by omega), hdigit _ (Nat.mod_lt _ (by decide))]
      omega

theorem natOf_zeros (k : Nat) (ds : List Char) : natOf (List.replicate k '0' ++ ds) = natOf ds := by
  induction k with
  | zero => rfl
  | succ k ih => simpa [List.replicate_succ, natOf] using ih

theorem toList_padded (width n : Nat) :
    (padded width n).toList = List.replicate (width - (decimal n).length) '0' ++ decimal n := String.toList_ofList

theorem length_padded {width n : Nat} (hwidth : 0 < width) (h : n < 10 ^ width) :
    (padded width n).toList.length = width := by
  have hlength := (length_decimal_le hwidth).2 h
  rw [toList_padded, List.length_append, List.length_replicate]
  omega

theorem isDigit_padded {width n : Nat} : ∀ c ∈ (padded width n).toList, isDigit c = true := by
  intro c hc
  rw [toList_padded, List.mem_append] at hc
  rcases hc with hc | hc
  · rw [List.eq_of_mem_replicate hc]
    rfl
  · exact isDigit_of_mem_decimal hc

theorem readDigits?_padded {width n : Nat} (hwidth : 0 < width) (h : n < 10 ^ width) (rest : List Char) :
    readDigits? width ((padded width n).toList ++ rest) = some (n, rest) := by
  have hlength := length_padded hwidth h
  have htake : ((padded width n).toList ++ rest).take width = (padded width n).toList := List.take_left' hlength
  have hdrop : ((padded width n).toList ++ rest).drop width = rest := List.drop_left' hlength
  rw [readDigits?, htake, hdrop, if_pos ⟨hlength, List.all_eq_true.2 isDigit_padded⟩, toList_padded, natOf_zeros,
    natOf_decimal]

theorem readZone?_zoneText {offset : Int} (h : offset.natAbs < 24 * 60) (rest : List Char) :
    readZone? ((zoneText offset).toList ++ rest) = some (offset, rest) := by
  have hhours : offset.natAbs / 60 < 10 ^ 2 := by omega
  have hminutes : offset.natAbs % 60 < 10 ^ 2 := by omega
  have hwhole : offset.natAbs / 60 * 60 + offset.natAbs % 60 = offset.natAbs := by omega
  by_cases hwest : offset < 0
  · have hback : -(offset.natAbs : Int) = offset := by omega
    simp only [zoneText, if_pos hwest, String.toList_append, List.append_assoc]
    rw [show "-".toList = ['-'] from rfl, List.singleton_append, readZone?]
    simp only [readDigits?_padded (by decide) hhours, readDigits?_padded (by decide) hminutes, Option.bind_eq_bind,
      Option.bind_some, hwhole, hback]
  · have hback : (offset.natAbs : Int) = offset := by omega
    simp only [zoneText, if_neg hwest, String.toList_append, List.append_assoc]
    rw [show "+".toList = ['+'] from rfl, List.singleton_append, readZone?]
    simp only [readDigits?_padded (by decide) hhours, readDigits?_padded (by decide) hminutes, Option.bind_eq_bind,
      Option.bind_some, hwhole, hback]

theorem readDay?_append {weekday day month year : Nat} (hweekday : weekday < 7) (hday : day < 100) (hmonth : month < 12)
    (hyear : year < 10000) (rest : List Char) :
    readDay? ((weekdays.getD weekday "").toList ++ (", ".toList ++ ((padded 2 day).toList ++ (" ".toList ++
      ((months.getD month "").toList ++ (" ".toList ++ ((padded 4 year).toList ++ rest))))))) =
        some (weekday, day, month, year, rest) := by
  have hweekdays : ∀ rest, readName? weekdays ((weekdays.getD weekday "").toList ++ rest) = some (weekday, rest) :=
    readName?_append (by decide +kernel) (by decide +kernel) hweekday
  have hmonths : ∀ rest, readName? months ((months.getD month "").toList ++ rest) = some (month, rest) :=
    readName?_append (by decide +kernel) (by decide +kernel) hmonth
  have htwo : ∀ rest, readDigits? 2 ((padded 2 day).toList ++ rest) = some (day, rest) :=
    readDigits?_padded (by decide) hday
  have hfour : ∀ rest, readDigits? 4 ((padded 4 year).toList ++ rest) = some (year, rest) :=
    readDigits?_padded (by decide) hyear
  simp only [readDay?, hweekdays, hmonths, htwo, hfour, skip?_append, Option.bind_eq_bind, Option.bind_some]

theorem readClock?_append {hour minute second : Nat} (hhour : hour < 100) (hminute : minute < 100)
    (hsecond : second < 100)
    (rest : List Char) :
    readClock? ((padded 2 hour).toList ++ (":".toList ++ ((padded 2 minute).toList ++ (":".toList ++
      ((padded 2 second).toList ++ rest))))) = some (hour, minute, second, rest) := by
  have htwo : ∀ {n : Nat}, n < 100 → ∀ rest, readDigits? 2 ((padded 2 n).toList ++ rest) = some (n, rest) :=
    fun h => readDigits?_padded (by decide) h
  simp only [readClock?, htwo hhour, htwo hminute, htwo hsecond, skip?_append, Option.bind_eq_bind, Option.bind_some]

/-! ## The date of an instant -/

variable {offset t t' : Int}

/-- what is to be read from the date of an instant -/
def reading (offset t : Int) : Reading :=
  let c := civil offset t
  ⟨c.weekday, c.day, c.month, c.year.toNat, c.hour, c.minute, c.second, offset⟩

/-- the milliseconds that a clock in the zone has counted -/
def localMillis (offset t : Int) : Int := t + offset * 60000

/-- the year that a clock in the zone shows has four digits at most -/
def InCommonEra (offset t : Int) : Prop := 1 ≤ (civil offset t).year ∧ (civil offset t).year ≤ 9999

theorem isDate_civil (offset t : Int) :
    IsDate (civil offset t).year (civil offset t).month (civil offset t).day :=
  isDate_dateOfDay _

theorem dayNumber_civil (offset t : Int) :
    dayNumber (civil offset t).year (civil offset t).month (civil offset t).day = localMillis offset t / 86400000 :=
  dayNumber_dateOfDay _

theorem civil_time (offset t : Int) :
    (civil offset t).hour < 24 ∧ (civil offset t).minute < 60 ∧ (civil offset t).second < 60 ∧
      (((civil offset t).hour * 3600 + (civil offset t).minute * 60 + (civil offset t).second : Nat) : Int) =
        localMillis offset t % 86400000 / 1000 := by
  simp only [civil, localMillis]
  omega

theorem civil_weekday (offset t : Int) :
    ((civil offset t).weekday : Int) = (localMillis offset t / 86400000 + 4) % 7 := by
  simp only [civil, localMillis]
  omega

/-- **The date of an instant is read as what was written.** -/
theorem read?_headerDate (hoffset : offset.natAbs < 24 * 60) (hera : InCommonEra offset t) :
    Reading.read? (headerDate offset t).toList = some (reading offset t) := by
  obtain ⟨hfirst, hlast⟩ := hera
  obtain ⟨hmonth, hday⟩ := isDate_civil offset t
  obtain ⟨hhour, hminute, hsecond, -⟩ := civil_time offset t
  have hweekday := civil_weekday offset t
  have hdays := monthLength_le (civil offset t).year (civil offset t).month
  have hyear : eraYear (civil offset t).year = (civil offset t).year.toNat := if_pos (by omega)
  simp only [headerDate, reading, hyear, String.toList_append, List.append_assoc]
  generalize civil offset t = c at *
  have hback : c.month - 1 + 1 = c.month := by omega
  have hzone := readZone?_zoneText hoffset []
  rw [List.append_nil] at hzone
  rw [Reading.read?, readDay?_append (by omega) (by omega) (by omega) (by omega)]
  simp only [Option.bind_eq_bind, Option.bind_some, skip?_append, hzone, hback, if_true,
    readClock?_append (show c.hour < 100 by omega) (show c.minute < 100 by omega) (show c.second < 100 by omega)]

theorem fits_digits {width n : Nat} (hwidth : 0 < width) (h : n < 10 ^ width) :
    List.Forall₂ Fits (List.replicate width '0') (padded width n).toList := by
  rw [List.forall₂_iff_get]
  refine ⟨by rw [List.length_replicate, length_padded hwidth h], fun i hi hi' => ?_⟩
  have hdigit : isDigit ((padded width n).toList.get ⟨i, hi'⟩) = true := isDigit_padded _ (List.get_mem _ _)
  simpa [Fits] using hdigit

theorem fits_name {names : List String} (hfit : ∀ name ∈ names, List.Forall₂ Fits ['A', 'A', 'A'] name.toList) {i : Nat}
    (hi : i < names.length) : List.Forall₂ Fits ['A', 'A', 'A'] (names.getD i "").toList := by
  rw [List.getD_eq_getElem?_getD, List.getElem?_eq_getElem hi]
  exact hfit _ (List.getElem_mem hi)

theorem fits_zone (h : offset.natAbs < 24 * 60) :
    List.Forall₂ Fits ('±' :: (List.replicate 2 '0' ++ List.replicate 2 '0')) (zoneText offset).toList := by
  have hhours : List.Forall₂ Fits (List.replicate 2 '0') (padded 2 (offset.natAbs / 60)).toList :=
    fits_digits (by decide) (by omega)
  have hminutes : List.Forall₂ Fits (List.replicate 2 '0') (padded 2 (offset.natAbs % 60)).toList :=
    fits_digits (by decide) (by omega)
  have hsign : List.Forall₂ Fits ['±'] (if offset < 0 then "-" else "+").toList := by split <;> decide
  simp only [zoneText, String.toList_append, List.append_assoc]
  exact List.rel_append hsign (List.rel_append hhours hminutes)

theorem fits_self {text : String} (h : List.Forall₂ Fits text.toList text.toList) {places cs : List Char}
    (hrest : List.Forall₂ Fits places cs) : List.Forall₂ Fits (text.toList ++ places) (text.toList ++ cs) :=
  List.rel_append h hrest

/-- **The form of a date**, place by place. -/
theorem form_headerDate (hoffset : offset.natAbs < 24 * 60) (hera : InCommonEra offset t) :
    HasForm (headerDate offset t).toList := by
  obtain ⟨hfirst, hlast⟩ := hera
  obtain ⟨hmonth, hday⟩ := isDate_civil offset t
  obtain ⟨hhour, hminute, hsecond, -⟩ := civil_time offset t
  have hweekday := civil_weekday offset t
  have hdays := monthLength_le (civil offset t).year (civil offset t).month
  have hyear : eraYear (civil offset t).year = (civil offset t).year.toNat := if_pos (by omega)
  have hplaces : "AAA, 00 AAA 0000 00:00:00 ±0000".toList = ['A', 'A', 'A'] ++ (", ".toList ++ (List.replicate 2 '0' ++
      (" ".toList ++ (['A', 'A', 'A'] ++ (" ".toList ++ (List.replicate 4 '0' ++ (" ".toList ++ (List.replicate 2 '0' ++
      (":".toList ++ (List.replicate 2 '0' ++ (":".toList ++ (List.replicate 2 '0' ++ (" ".toList ++
      ('±' :: (List.replicate 2 '0' ++ List.replicate 2 '0'))))))))))))))) := by decide +kernel
  simp only [HasForm, hplaces, headerDate, hyear, String.toList_append, List.append_assoc]
  generalize civil offset t = c at *
  have htwo : ∀ {n : Nat}, n < 100 → ∀ {places cs : List Char}, List.Forall₂ Fits places cs →
      List.Forall₂ Fits (List.replicate 2 '0' ++ places) ((padded 2 n).toList ++ cs) :=
    fun h _ _ hrest => List.rel_append (fits_digits (by decide) h) hrest
  refine List.rel_append (fits_name (by decide +kernel) (show c.weekday < 7 by omega)) (fits_self (by decide) ?_)
  refine htwo (by omega) (fits_self (by decide) ?_)
  refine List.rel_append (fits_name (by decide +kernel) (show c.month - 1 < 12 by omega)) (fits_self (by decide) ?_)
  refine List.rel_append (fits_digits (by decide) (by omega)) (fits_self (by decide) ?_)
  refine htwo (by omega) (fits_self (by decide) ?_)
  refine htwo (by omega) (fits_self (by decide) ?_)
  exact htwo (by omega) (fits_self (by decide) (fits_zone hoffset))

/-- **What is read is a date of the calendar**, with its day of the week, a time of day and the zone. -/
theorem isRight_reading (hoffset : offset.natAbs < 24 * 60) (hera : InCommonEra offset t) :
    (reading offset t).IsRight := by
  have hyear : (((civil offset t).year.toNat : Nat) : Int) = (civil offset t).year :=
    Int.toNat_of_nonneg (by have := hera.1; omega)
  have hdate := isDate_civil offset t
  obtain ⟨hhour, hminute, hsecond, -⟩ := civil_time offset t
  refine ⟨?_, ?_, ⟨hhour, hminute, hsecond⟩, hoffset⟩
  · show IsDate ((civil offset t).year.toNat : Nat) (civil offset t).month (civil offset t).day
    rw [hyear]
    exact hdate
  · show ((civil offset t).weekday : Int) =
      (dayNumber ((civil offset t).year.toNat : Nat) (civil offset t).month (civil offset t).day + 4) % 7
    rw [hyear, dayNumber_civil, civil_weekday]

/-- **It stands for the instant, rounded down to the second.** -/
theorem seconds_reading (hera : InCommonEra offset t) : (reading offset t).seconds = t / 1000 := by
  have hyear : (((civil offset t).year.toNat : Nat) : Int) = (civil offset t).year :=
    Int.toNat_of_nonneg (by have := hera.1; omega)
  have htime := (civil_time offset t).2.2.2
  have hday := dayNumber_civil offset t
  simp only [Reading.seconds, reading, hyear, hday]
  simp only [localMillis] at *
  push_cast at htime
  omega

/-- what a date stands for, in a zone -/
structure Denotes (offset t : Int) : Prop where
  /-- it has the form of a date -/
  form : HasForm (headerDate offset t).toList
  /-- it is read as a date of the calendar with its day of the week, a time of day and the zone, and that is the instant
  rounded down to the second -/
  read : ∃ r, Reading.read? (headerDate offset t).toList = some r ∧ r.IsRight ∧ r.offset = offset ∧ r.seconds = t / 1000

/-- a clock that shows no milliseconds shows the same all through a second -/
theorem headerDate_congr (offset : Int) (h : t / 1000 = t' / 1000) : headerDate offset t = headerDate offset t' := by
  have hday : (t + offset * 60000) / 86400000 = (t' + offset * 60000) / 86400000 := by omega
  have hhour : ((t + offset * 60000) % 86400000).toNat / 3600000 =
      ((t' + offset * 60000) % 86400000).toNat / 3600000 := by
    omega
  have hminute : ((t + offset * 60000) % 86400000).toNat / 60000 =
      ((t' + offset * 60000) % 86400000).toNat / 60000 := by
    omega
  have hsecond : ((t + offset * 60000) % 86400000).toNat / 1000 = ((t' + offset * 60000) % 86400000).toNat / 1000 := by
    omega
  simp only [headerDate, civil, hday, hhour, hminute, hsecond]

/-- two dates in one zone are the same text only within one second -/
theorem headerDate_eq_iff (hoffset : offset.natAbs < 24 * 60) (hera : InCommonEra offset t)
    (hera' : InCommonEra offset t') : headerDate offset t = headerDate offset t' ↔ t / 1000 = t' / 1000 := by
  refine ⟨fun h => ?_, headerDate_congr offset⟩
  have hread : some (reading offset t) = some (reading offset t') := by
    rw [← read?_headerDate hoffset hera, ← read?_headerDate hoffset hera', h]
  rw [← seconds_reading hera, ← seconds_reading hera', Option.some.inj hread]

/-- **A date stands for its second.** In every zone less than a day away, while its clock shows a year from 1 to 9999,
the date of an instant has the form of a date, and what is read from it is a day of the calendar with the right day of
the week, a time of day and the zone, which together are the instant rounded down to the second; so two dates made in
the zone are the same text exactly if they were made in the same second. -/
theorem header_dates_denote (hoffset : offset.natAbs < 24 * 60) :
    (∀ t, InCommonEra offset t → Denotes offset t) ∧
    ∀ t t', InCommonEra offset t → InCommonEra offset t' →
      (headerDate offset t = headerDate offset t' ↔ t / 1000 = t' / 1000) := by
  refine ⟨fun t hera => ?_, fun t t' hera hera' => headerDate_eq_iff hoffset hera hera'⟩
  exact ⟨form_headerDate hoffset hera, reading offset t, read?_headerDate hoffset hera, isRight_reading hoffset hera,
    rfl, seconds_reading hera⟩

/-- the last millisecond before 1970, in a zone that lags three hours and a half -/
theorem header_dates_denote_lagging :
    ((-210 : Int).natAbs < 24 * 60 ∧ InCommonEra (-210) (-1) ∧ InCommonEra (-210) (-1000)) ∧
      headerDate (-210) (-1) = "Wed, 31 Dec 1969 20:29:59 -0330" ∧ Denotes (-210) (-1) ∧
      headerDate (-210) (-1) = headerDate (-210) (-1000) := by
  have hoffset : (-210 : Int).natAbs < 24 * 60 := by decide
  have hera : InCommonEra (-210) (-1) := ⟨by decide +kernel, by decide +kernel⟩
  have hera' : InCommonEra (-210) (-1000) := ⟨by decide +kernel, by decide +kernel⟩
  obtain ⟨hdenotes, hsame⟩ := header_dates_denote hoffset
  exact ⟨⟨hoffset, hera, hera'⟩, by decide +kernel, hdenotes _ hera, (hsame _ _ hera hera').2 (by decide)⟩

end EnquiryMail.Time
