/-
Media types with parameters, such as `application/json; charset=utf-8`. A value that does not follow the grammar to
its end is no media type.
-/
import EnquiryMail.Text.Lower
import EnquiryMail.Text.Units

namespace EnquiryMail.Http

/-- a media type and its parameters, names and type in lower case -/
structure MediaType where
  name : String
  parameters : List (String × String)
  deriving DecidableEq, Repr

namespace MediaType

/-- a character of a token -/
def isTokenChar (c : Char) : Bool := c.isAlphanum || "!#$%&'*+-.^_`|~".toList.contains c

/-- a character that the name of a type may hold behind its first -/
def isTypeChar (c : Char) : Bool := c.isAlphanum || "!#$&^_-".toList.contains c

/-- a character that the name of a subtype may hold behind its first -/
def isSubtypeChar (c : Char) : Bool := isTypeChar c || c == '.' || c == '+'

/-- one half of a type -/
def isHalf (allowed : Char → Bool) : List Char → Bool
  | c :: rest => c.isAlphanum && rest.all allowed && rest.length ≤ 126
  | [] => false

/-- skips blanks -/
def skipBlanks (cs : List Char) : List Char := cs.dropWhile (· == ' ')

/-- a text without blanks at its ends -/
def stripBlanks (cs : List Char) : List Char := (skipBlanks (skipBlanks cs).reverse).reverse

/-- a name without a plus sign at its end, behind which a suffix could stand -/
def withoutEmptySuffix (cs : List Char) : List Char := if cs.getLast? = some '+' then cs.dropLast else cs

/-- type and subtype -/
def name? (cs : List Char) : Option String :=
  let cs := (stripBlanks cs).map Char.toLower
  let type := cs.takeWhile (· != '/')
  match cs.dropWhile (· != '/') with
  | '/' :: subtype =>
    if isHalf isTypeChar type && isHalf isSubtypeChar subtype then some (String.ofList (withoutEmptySuffix cs))
    else none
  | _ => none

/-- the rest of a quoted value -/
def readQuoted : List Char → Option (List Char × List Char)
  | [] => none
  | '"' :: rest => some ([], rest)
  | '\\' :: c :: rest =>
    if ' ' ≤ c ∧ c ≤ '~' then (readQuoted rest).map fun (v, r) => (c :: v, r) else none
  | c :: rest =>
    if (' ' ≤ c ∧ c ≤ '~' ∧ c ≠ '\\') ∨ (0x80 ≤ c.toNat ∧ c.toNat ≤ 0xFF) then
      (readQuoted rest).map fun (v, r) => (c :: v, r)
    else none

/-- the value of a parameter -/
def readValue (cs : List Char) : Option (List Char × List Char) :=
  match cs with
  | '"' :: rest => readQuoted rest
  | _ =>
    match cs.takeWhile isTokenChar with
    | [] => none
    | token => some (token, cs.dropWhile isTokenChar)

/-- one parameter, beginning at its semicolon -/
def readParameter (cs : List Char) : Option ((String × String) × List Char) :=
  match cs with
  | ';' :: rest =>
    let rest := skipBlanks rest
    match rest.takeWhile isTokenChar, skipBlanks (rest.dropWhile isTokenChar) with
    | [], _ => none
    | name, '=' :: rest =>
      (readValue (skipBlanks rest)).map fun (v, rest) =>
        ((String.ofList (name.map Char.toLower), String.ofList v), skipBlanks rest)
    | _, _ => none
  | _ => none

/-- parameters up to the end, at most as many as the first argument -/
def readParameters : Nat → List Char → Option (List (String × String))
  | _, [] => some []
  | 0, _ => none
  | fuel + 1, cs =>
    match readParameter cs with
    | some (p, rest) => (readParameters fuel rest).map (p :: ·)
    | none => none

/-- reads a media type -/
def read? (s : String) : Option MediaType :=
  let cs := s.toList
  let rest := cs.dropWhile (· != ';')
  match name? (cs.takeWhile (· != ';')), readParameters (rest.length + 1) rest with
  | some name, some ps => some ⟨name, ps⟩
  | _, _ => none

/-- the value of a parameter, the last one if it is given several times -/
def parameter? (m : MediaType) (name : String) : Option String := m.parameters.reverse.lookup name

/-- the charset that a type names, in lower case; an empty one is none -/
def charset? (m : MediaType) : Option String :=
  (m.parameter? "charset").bind fun c =>
    if c = "" then none else some (Text.lowered c)

end MediaType

end EnquiryMail.Http
