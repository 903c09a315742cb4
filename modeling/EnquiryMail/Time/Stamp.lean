/-
The three written forms of an instant: the date header of a message, the local time stamp of a log line, and the
ISO form in universal time.
-/
import EnquiryMail.Time.Civil
import EnquiryMail.Number.Shortest

namespace EnquiryMail.Time

open EnquiryMail.Number (decimal)

/-- a natural number with zeros in front up to `width` digits -/
def padded (width n : Nat) : String :=
  let ds := decimal n
  String.ofList (List.replicate (width - ds.length) '0' ++ ds)

/-- names of the days of the week -/
def weekdays : List String := ["Sun", "Mon", "Tue", "Wed", "Thu", "Fri", "Sat"]

/-- names of the months -/
def months : List String :=
  ["Jan", "Feb", "Mar", "Apr", "May", "Jun", "Jul", "Aug", "Sep", "Oct", "Nov", "Dec"]

/-- a zone distance, sign and four digits -/
def zoneText (offset : Int) : String :=
  (if offset < 0 then "-" else "+") ++ padded 2 (offset.natAbs / 60) ++ padded 2 (offset.natAbs % 60)

/-- the year of the common era or, from the year 0 backwards, of the era before it -/
def eraYear (year : Int) : Nat := if 0 < year then year.toNat else (1 - year).toNat

/-- `Thu, 21 Dec 2000 16:01:07 +0200` -/
def headerDate (offset : Int) (t : Instant) : String :=
  let c := civil offset t
  weekdays.getD c.weekday "" ++ ", " ++ padded 2 c.day ++ " " ++ months.getD (c.month - 1) "" ++ " " ++
    padded 4 (eraYear c.year) ++ " " ++ padded 2 c.hour ++ ":" ++ padded 2 c.minute ++ ":" ++ padded 2 c.second ++
    " " ++ zoneText offset

/-- `2026-02-10 14:30:15,042`, the year as it is -/
def lineStamp (offset : Int) (t : Instant) : String :=
  let c := civil offset t
  toString c.year ++ "-" ++ padded 2 c.month ++ "-" ++ padded 2 c.day ++ " " ++ padded 2 c.hour ++ ":" ++
    padded 2 c.minute ++ ":" ++ padded 2 c.second ++ "," ++ padded 3 c.milli

/-- the stamp of no instant -/
def noStamp : String := "NaN-NaN-NaN NaN:NaN:NaN,NaN"

/-- `2026-02-10T14:30:15.042Z`; a year of more than four digits has a sign and six -/
def isoStamp (t : Instant) : String :=
  let c := civil 0 t
  let year :=
    if 0 ≤ c.year ∧ c.year ≤ 9999 then padded 4 c.year.toNat
    else (if c.year < 0 then "-" else "+") ++ padded 6 c.year.natAbs
  year ++ "-" ++ padded 2 c.month ++ "-" ++ padded 2 c.day ++ "T" ++ padded 2 c.hour ++ ":" ++
    padded 2 c.minute ++ ":" ++ padded 2 c.second ++ "." ++ padded 3 c.milli ++ "Z"

end EnquiryMail.Time
