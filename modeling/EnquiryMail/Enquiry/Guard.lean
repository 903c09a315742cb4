/-
Checks against automatic submissions: a hidden field that has to stay empty, and a least time between rendering the
form and posting it.
-/
import EnquiryMail.Enquiry.Form
import EnquiryMail.Time.Civil

namespace EnquiryMail.Enquiry

/-- what the guard finds -/
structure Verdict where
  /-- the hidden field is filled in -/
  bot : Bool
  problems : List Problem
  deriving DecidableEq, Repr

/-- a form rendered at a known time is posted before the least time has passed; without a clock it is not -/
def isTooQuick (s : Submission) (minFill : Number) (now : Option Time.Instant) : Bool :=
  match now with
  | none => false
  | some ms => Number.lt 0 s.renderedAt && Number.lt (Number.sub (Number.ofInt (ms / 1000)) s.renderedAt) minFill

/-- checks a submission -/
def guard (s : Submission) (minFill : Number) (now : Option Time.Instant) : Verdict :=
  if s.website ≠ "" then ⟨true, []⟩ else ⟨false, if isTooQuick s minFill now then [.tooQuick] else []⟩

end EnquiryMail.Enquiry
