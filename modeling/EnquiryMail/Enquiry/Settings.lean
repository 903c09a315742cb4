/-
Settings of the enquiry form: who receives enquiries, under which subject, what the site is called, where visitors
are sent when mail fails, and the limits on how quickly and how often the form is answered.
-/
import EnquiryMail.Number.Basic

namespace EnquiryMail.Enquiry

/-- settings of the enquiry form -/
structure Settings where
  recipients : List String
  subject : String
  siteName : String
  fallbackAddress : String
  minFillSeconds : Number
  rateLimit : Number
  rateWindowMinutes : Number
  deriving DecidableEq, Inhabited

end EnquiryMail.Enquiry
