/-
Messages to be sent: one recipient, a reply address, a subject and a plain-text body. Addresses end up inside
commands and header fields, so line breaks and angle brackets are refused (`Message.problems`).
-/
import EnquiryMail.Text.Blank

namespace EnquiryMail.Mail

/-- one message, as handed to a sender -/
structure Message where
  recipient : String
  subject : String
  body : String
  replyTo : String
  deriving DecidableEq, Inhabited, Repr

/-- the two addresses of a message -/
inductive AddressRole
  | recipient
  | replyTo
  deriving DecidableEq, Repr

/-- why a message cannot be sent -/
inductive MessageProblem
  | addressMissing (role : AddressRole)
  | addressForbidden (role : AddressRole)
  | subjectBroken
  deriving DecidableEq, Repr

/-- what a problem report calls an address -/
def AddressRole.label : AddressRole → String
  | .recipient => "recipient"
  | .replyTo => "reply-to"

/-- the wording of a problem -/
def MessageProblem.message : MessageProblem → String
  | .addressMissing role => role.label ++ " address is required"
  | .addressForbidden role => role.label ++ " address contains forbidden characters"
  | .subjectBroken => "subject must not contain line breaks"

/-- a carriage return or a line feed -/
def isBreak (c : Char) : Bool := c == '\r' || c == '\n'

/-- a text that spans lines -/
def hasBreak (s : String) : Bool := s.toList.any isBreak

/-- a character that an address must not have -/
def isForbidden (c : Char) : Bool := isBreak c || c == '<' || c == '>'

/-- what is wrong with one address -/
def addressProblems (role : AddressRole) (address : String) : List MessageProblem :=
  if isBlankText address then [.addressMissing role]
  else if address.toList.any isForbidden then [.addressForbidden role]
  else []

/-- what is wrong with a message, the recipient first -/
def Message.problems (m : Message) : List MessageProblem :=
  addressProblems .recipient m.recipient ++ addressProblems .replyTo m.replyTo ++
    (if hasBreak m.subject then [.subjectBroken] else [])

end EnquiryMail.Mail
