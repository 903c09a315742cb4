/-
The enquiry form. A submission is read from any document: every text field is trimmed, a missing field or one that is
no text is empty, and the time of rendering is a whole number of seconds, 0 when it cannot be read. A submission is
then checked field by field, in the order of the form.

`read_fieldless`: a document without fields reads as the empty submission.
-/
import EnquiryMail.Json.Basic
import EnquiryMail.Mail.Address
import EnquiryMail.Number.Literal

namespace EnquiryMail

namespace Enquiry

/-- a plan on offer -/
inductive Plan
  | basic
  | standard
  | premium
  | notSure
  deriving DecidableEq, Repr, Inhabited

/-- the name of a plan -/
def Plan.name : Plan → String
  | basic => "Basic"
  | standard => "Standard"
  | premium => "Premium"
  | notSure => "Not Sure"

/-- the plans on offer -/
def Plan.all : List Plan := [basic, standard, premium, notSure]

/-- the plan with a name -/
def Plan.ofName? (s : String) : Option Plan := all.find? fun p => p.name = s

theorem Plan.ofName?_name (p : Plan) : Plan.ofName? p.name = some p := by
  cases p <;> decide +kernel

/-- everything that the form posts -/
structure Submission where
  name : String
  email : String
  company : String
  phone : String
  plan : String
  message : String
  /-- visitors never see this field, so it stays empty -/
  website : String
  /-- seconds since 1970 when the form was rendered, 0 when unknown -/
  renderedAt : Number
  deriving DecidableEq, Inhabited

end Enquiry

/-- a checked enquiry -/
structure Enquiry where
  name : String
  email : String
  company : String
  phone : String
  plan : Option Enquiry.Plan
  message : String
  deriving DecidableEq, Inhabited

namespace Enquiry

/-- a text field, trimmed -/
def textOf (j : Json) (name : String) : String :=
  match j.get? name with
  | some (.str s) => trimmed s
  | _ => ""

/-- a field of whole seconds, given as a number or as the text of one -/
def secondsOf (j : Json) (name : String) : Number :=
  let n := match j.get? name with
    | some (.num n) => n
    | some (.str s) => Number.ofText s
    | _ => .nan
  if n.isFinite then n.trunc else 0

/-- reads a submission; `_ts` stands in for a time of rendering that is 0 -/
def Submission.read (j : Json) : Submission :=
  let rendered := secondsOf j "renderedAt"
  { name := textOf j "name"
    email := textOf j "email"
    company := textOf j "company"
    phone := textOf j "phone"
    plan := textOf j "plan"
    message := textOf j "message"
    website := textOf j "website"
    renderedAt := if rendered = 0 then secondsOf j "_ts" else rendered }

/-- the shortest message taken, in characters -/
def minLength : Nat := 10

/-- the longest message taken, in characters -/
def maxLength : Nat := 5000

/-- what is wrong with a submission -/
inductive Problem
  | tooQuick
  | nameMissing
  | emailMissing
  | emailInvalid
  | companyMissing
  | messageMissing
  | messageShort
  | messageLong
  deriving DecidableEq, Repr

/-- the wording of a problem -/
def Problem.message : Problem → String
  | .tooQuick => "Form submitted too quickly. Please wait a moment and try again."
  | .nameMissing => "Name is required."
  | .emailMissing => "Email is required."
  | .emailInvalid => "Please enter a valid email address."
  | .companyMissing => "Company name is required."
  | .messageMissing => "Message is required."
  | .messageShort => "Message must be at least " ++ toString minLength ++ " characters."
  | .messageLong => "Message must be under " ++ toString maxLength ++ " characters."

/-- what is wrong with an address field -/
def emailProblems (email : String) : List Problem :=
  if email = "" then [.emailMissing] else if Mail.isAddress email then [] else [.emailInvalid]

/-- what is wrong with a message field -/
def messageProblems (message : String) : List Problem :=
  let length := message.toList.length
  if length = 0 then [.messageMissing]
  else if length < minLength then [.messageShort]
  else if maxLength < length then [.messageLong]
  else []

/-- what is wrong with the fields of a submission, in the order of the form -/
def Submission.problems (s : Submission) : List Problem :=
  (if s.name = "" then [.nameMissing] else []) ++ emailProblems s.email ++
    (if s.company = "" then [.companyMissing] else []) ++ messageProblems s.message

/-- the enquiry of a submission; a plan that is not on offer is dropped -/
def Submission.enquiry (s : Submission) : Enquiry :=
  ⟨s.name, s.email, s.company, s.phone, Plan.ofName? s.plan, s.message⟩

theorem read_fieldless (j : Json) (h : ∀ name, j.get? name = none) :
    Submission.read j = ⟨"", "", "", "", "", "", "", 0⟩ := by
  simp [Submission.read, textOf, secondsOf, h, Number.isFinite]

end Enquiry

end EnquiryMail
