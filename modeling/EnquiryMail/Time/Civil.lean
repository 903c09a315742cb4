/-
Instants and civil time. An instant is a count of milliseconds from the start of 1970, within 8.64e15 of it; civil
time is the calendar date and time of day at a fixed distance from the zero meridian. The calendar is the Gregorian
one carried on in both directions, with a year 0 before the year 1.

`dateOfDay` and `dayOfDate` pass between a date and its distance from 1970-01-01 in days.
-/
import EnquiryMail.Number.Basic

namespace EnquiryMail.Time

/-- milliseconds from the start of 1970 -/
abbrev Instant := Int

/-- the farthest instant from 1970 -/
def farthest : Int := 8640000000000000

/-- the instant that a number of milliseconds names: its fraction is dropped, and it lies in range -/
def instant? (n : Number) : Option Instant :=
  match n.trunc.toInt? with
  | some ms => if -farthest ≤ ms ∧ ms ≤ farthest then some ms else none
  | none => none

/-- a date and a time of day -/
structure Civil where
  year : Int
  month : Nat
  day : Nat
  hour : Nat
  minute : Nat
  second : Nat
  milli : Nat
  /-- 0 is Sunday -/
  weekday : Nat
  deriving DecidableEq, Repr

/-- year, month and day of the month of a count of days from 1970-01-01; the year is reckoned from March so
that the leap day is its last -/
def dateOfDay (days : Int) : Int × Nat × Nat :=
  let z := days + 719468
  let era := z / 146097
  let dayOfEra := (z % 146097).toNat
  let yearOfEra := (dayOfEra - dayOfEra / 1460 + dayOfEra / 36524 - dayOfEra / 146096) / 365
  let dayOfYear := dayOfEra - (365 * yearOfEra + yearOfEra / 4 - yearOfEra / 100)
  let shifted := (5 * dayOfYear + 2) / 153
  let day := dayOfYear - (153 * shifted + 2) / 5 + 1
  let month := if shifted < 10 then shifted + 3 else shifted - 9
  (yearOfEra + era * 400 + (if month ≤ 2 then 1 else 0), month, day)

/-- the count of days from 1970-01-01 to a date -/
def dayOfDate (year : Int) (month day : Nat) : Int :=
  let y := if month ≤ 2 then year - 1 else year
  let era := y / 400
  let yearOfEra := y % 400
  let shifted : Int := if month ≤ 2 then month + 9 else month - 3
  let dayOfYear := (153 * shifted + 2) / 5 + day - 1
  let dayOfEra := yearOfEra * 365 + yearOfEra / 4 - yearOfEra / 100 + dayOfYear
  era * 146097 + dayOfEra - 719468

/-- civil time at an instant, `offset` minutes east of the zero meridian -/
def civil (offset : Int) (t : Instant) : Civil :=
  let ms := t + offset * 60000
  let days := ms / 86400000
  let rest := (ms % 86400000).toNat
  let (year, month, day) := dateOfDay days
  { year, month, day
    hour := rest / 3600000
    minute := rest / 60000 % 60
    second := rest / 1000 % 60
    milli := rest % 1000
    weekday := ((days + 4) % 7).toNat }

end EnquiryMail.Time
