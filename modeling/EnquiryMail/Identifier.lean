/-
Identifiers of messages and requests. The n-th identifier that a run makes is a fixed form with n in its last twelve
digits, so that a run can be repeated.
-/
import EnquiryMail.Time.Stamp

namespace EnquiryMail

/-- the identifier with a number -/
def identifier (n : Nat) : String := "00000000-0000-4000-8000-" ++ Time.padded 12 n

end EnquiryMail
