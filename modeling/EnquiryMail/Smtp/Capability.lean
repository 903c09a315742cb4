/-
Capabilities that a relay announces after EHLO: one a line, behind code and separator, the first line naming only
the relay. Keywords and mechanism names are compared by their upper-case text.
-/
import EnquiryMail.Smtp.Reply
import EnquiryMail.Text.Upper

namespace EnquiryMail.Smtp

open EnquiryMail.Text

/-- the capability lines of a reply with code 250 -/
def Reply.capabilities (r : Reply) : List String :=
  if r.code = "250" then
    ((r.lines.drop 1).map fun line => String.ofList (trim (dropUnits 4 line.toList))).filter (· ≠ "")
  else []

/-- ends the keyword of a capability -/
def endsKeyword (c : Char) : Bool := isBlank c || c == '='

/-- the keyword of a capability: what stands before its first blank or equals sign -/
def keywordOf (capability : String) : List Char := capability.toList.takeWhile fun c => !endsKeyword c

/-- a keyword is among the capabilities -/
def hasCapability (capabilities : List String) (keyword : String) : Bool :=
  capabilities.any fun c => upper (keywordOf c) == upper keyword.toList

/-- what follows `AUTH` and one separator, when that is all on one line -/
def authText? (capability : String) : Option (List Char) :=
  match capability.toList with
  | a :: u :: t :: h :: sep :: rest =>
    if [a, u, t, h].map Char.toUpper = ['A', 'U', 'T', 'H'] ∧ endsKeyword sep ∧ !rest.any isLineEnd then some rest
    else none
  | _ => none

/-- adds a name that is not there yet -/
def addNew (names : List String) (name : String) : List String :=
  if names.contains name then names else names ++ [name]

/-- the sign-in mechanisms that the capabilities name, in order of first mention -/
def authMechanisms (capabilities : List String) : List String :=
  let mentioned := capabilities.flatMap fun c => (authText? c).elim [] words
  (mentioned.map fun m => String.ofList (upper m)).foldl addNew []

end EnquiryMail.Smtp
