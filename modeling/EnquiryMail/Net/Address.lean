/-
Numeric network addresses. A version 4 address is four decimal octets without leading zeros; a version 6 address is
eight groups of up to four hexadecimal digits, a double colon standing for one or more zero groups, the last two
groups possibly written as a version 4 address, and possibly a zone behind a percent sign.
-/
import EnquiryMail.Text.Blank
import EnquiryMail.Number.Literal

namespace EnquiryMail.Net

open EnquiryMail.Text (splitOn)

/-- an octet in decimal without leading zero -/
def isOctet (cs : List Char) : Bool :=
  cs.length ≤ 3 && cs.all Number.isDigit && !cs.isEmpty && Number.natOf cs ≤ 255 &&
    (cs.length == 1 || cs.head? != some '0')

/-- a version 4 address -/
def isV4 (cs : List Char) : Bool :=
  let parts := splitOn '.' cs
  parts.length == 4 && parts.all isOctet

/-- one to four hexadecimal digits -/
def isGroup (cs : List Char) : Bool :=
  1 ≤ cs.length && cs.length ≤ 4 && cs.all fun c => (Number.digitValue? c).isSome

/-- the two sides of the first double colon -/
def splitDouble : List Char → Option (List Char × List Char)
  | ':' :: ':' :: rest => some ([], rest)
  | c :: rest => (splitDouble rest).map fun (a, b) => (c :: a, b)
  | [] => none

/-- how many groups a colon-separated list stands for; only the last may be a version 4 address, and only where
`tail` allows it -/
def groupCount? (tail : Bool) (cs : List Char) : Option Nat :=
  if cs.isEmpty then some 0
  else
    let parts := splitOn ':' cs
    let leading := parts.dropLast
    let final := parts.getLast?.getD []
    if !leading.all isGroup then none
    else if isGroup final then some (leading.length + 1)
    else if tail && isV4 final then some (leading.length + 2)
    else none

/-- a character of a zone -/
def isZoneChar (c : Char) : Bool := c.isAlphanum || c == '-' || c == '.' || c == ':'

/-- a version 6 address without zone -/
def isBareV6 (cs : List Char) : Bool :=
  match splitDouble cs with
  | none => groupCount? true cs == some 8
  | some (a, b) =>
    match groupCount? false a, groupCount? true b with
    | some m, some n => m + n ≤ 7
    | _, _ => false

/-- a version 6 address -/
def isV6 (cs : List Char) : Bool :=
  let bare := cs.takeWhile (· != '%')
  match cs.drop bare.length with
  | [] => isBareV6 bare
  | _ :: zone => isBareV6 bare && !zone.isEmpty && zone.all isZoneChar

/-- a numeric address of either version -/
def isNumeric (host : String) : Bool := isV4 host.toList || isV6 host.toList

end EnquiryMail.Net
