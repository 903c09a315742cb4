/-
E-mail addresses. The local part has letters, digits and `_ ' + - .`, begins with no dot and ends with a letter, a
digit, `_`, `+` or `-`; the domain is two or more labels, the last of letters alone; and no two dots follow each
other.
-/
import EnquiryMail.Text.Blank

namespace EnquiryMail.Mail

/-- a letter or a digit -/
def isAlnum (c : Char) : Bool := c.isAlphanum

/-- a character of a local part -/
def isLocalChar (c : Char) : Bool := isAlnum c || c == '_' || c.toNat == 0x27 || c == '+' || c == '-' || c == '.'

/-- a character that may end a local part -/
def endsLocal (c : Char) : Bool := isAlnum c || c == '_' || c == '+' || c == '-'

/-- what stands in front of the at sign -/
def isLocalPart (cs : List Char) : Bool :=
  cs.all isLocalChar && cs.head? != some '.' &&
    (match cs.getLast? with
      | some c => endsLocal c
      | none => false)

/-- a label of a domain, the last one aside -/
def isLabel : List Char → Bool
  | [] => false
  | c :: cs => isAlnum c && cs.all fun d => isAlnum d || d == '-'

/-- the last label of a domain -/
def isTopLabel (cs : List Char) : Bool := 2 ≤ cs.length && cs.all Char.isAlpha

/-- what stands behind the at sign -/
def isDomain (cs : List Char) : Bool :=
  let labels := Text.splitOn '.' cs
  2 ≤ labels.length && labels.dropLast.all isLabel && isTopLabel (labels.getLast?.getD [])

/-- two dots follow each other -/
def hasDoubleDot : List Char → Bool
  | '.' :: '.' :: _ => true
  | _ :: rest => hasDoubleDot rest
  | [] => false

/-- an e-mail address -/
def isAddress (address : String) : Bool :=
  let cs := address.toList
  let part := cs.takeWhile (· != '@')
  match cs.drop part.length with
  | [] => false
  | _ :: domain => isLocalPart part && isDomain domain && !hasDoubleDot part

end EnquiryMail.Mail
