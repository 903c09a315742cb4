/-
Posted forms: pieces between ampersands, each a key and a value around its first equals sign, a plus sign for a
blank and `%41` for an octet. Empty pieces are skipped. A key given several times has the list of its values.

A key or a value is read for escapes only where one was noticed. In a key it must stand together; in a value a plus
sign may stand inside it, and an escape in a key behind the key's first counts for the value. A text that was
noticed is read strictly, and where that fails octet by octet.
-/
import EnquiryMail.Json.Basic
import EnquiryMail.Text.Blank
import EnquiryMail.Text.Percent

namespace EnquiryMail.Http.Form

open Text.Percent (afterEscape? decode? hasEscape looseOctets)

/-- a text with blanks for its plus signs -/
def spaced (cs : List Char) : List Char := cs.map fun c => if c = '+' then ' ' else c

/-- an escape is noticed in a text in which plus signs do not matter -/
def isNoticed (cs : List Char) : Bool := hasEscape (cs.filter (· ≠ '+'))

/-- reads a key or a value in which escapes have or have not been noticed -/
def unescape (noticed : Bool) (cs : List Char) : List Char :=
  if noticed then (decode? (spaced cs)).getD (Text.Utf8.decode (looseOctets (spaced cs))) else spaced cs

/-- a piece as key and value -/
def pair (piece : List Char) : String × String :=
  let key := piece.takeWhile (· != '=')
  let value := (piece.dropWhile (· != '=')).drop 1
  let noticed := isNoticed value || isNoticed ((afterEscape? key).getD [])
  (String.ofList (unescape (hasEscape key) key), String.ofList (unescape noticed value))

/-- adds a value to a document -/
def add (fields : Json.Fields) (p : String × String) : Json.Fields :=
  match Json.Fields.get? fields p.1 with
  | none => Json.Fields.set p.1 (.str p.2) fields
  | some (.arr values) => Json.Fields.set p.1 (.arr (values ++ [.str p.2])) fields
  | some value => Json.Fields.set p.1 (.arr [value, .str p.2]) fields

/-- reads a form -/
def read (cs : List Char) : Json :=
  .obj (((Text.splitOn '&' cs).filter (· ≠ [])).map pair |>.foldl add [])

/-- how many ampersands a form has -/
def separators (cs : List Char) : Nat := cs.count '&'

end EnquiryMail.Http.Form
