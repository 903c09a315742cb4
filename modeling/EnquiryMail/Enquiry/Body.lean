/-
The mail text of an enquiry: an underlined title, one labelled line a field, and the message below its own heading.
-/
import EnquiryMail.Enquiry.Form
import EnquiryMail.Text.Units

namespace EnquiryMail.Enquiry

/-- the title, as many equals signs below it as it has units -/
def title (siteName : String) : String := "New enterprise enquiry from " ++ siteName

/-- the lines of the mail text -/
def bodyLines (e : Enquiry) (siteName : String) : List String :=
  [title siteName,
    String.ofList (List.replicate (Text.units (title siteName).toList) '='),
    "",
    "Name:    " ++ e.name,
    "Email:   " ++ e.email,
    "Company: " ++ e.company,
    "Phone:   " ++ (if e.phone = "" then "Not provided" else e.phone),
    "Plan:    " ++ (e.plan.map (·.name)).getD "Not specified",
    "",
    "Message:",
    "--------",
    e.message]

/-- the mail text -/
def body (e : Enquiry) (siteName : String) : String :=
  String.intercalate "\r\n" (bodyLines e siteName) ++ "\r\n"

end EnquiryMail.Enquiry
