/-
Rules of configuration variables. Each variable has one rule, which reads its text or names what is wrong with it;
rules are applied to all variables, so that one bad variable never hides another.

`Reading.both_faults`: the faults of two readings are those of the first and then those of the second.
-/
import EnquiryMail.Environment
import EnquiryMail.Mail.Address
import EnquiryMail.Number.Literal

namespace EnquiryMail.Config

/-- what is wrong with a variable -/
inductive Fault
  | required
  | notNumber
  | notInteger
  | notPositive
  | negative
  | aboveMaximum
  | notAddress
  | noAddress
  deriving DecidableEq, Repr

/-- the highest port -/
def maxPort : Nat := 65535

/-- the wording of a fault -/
def Fault.message : Fault → String
  | .required => "is required"
  | .notNumber => "Expected number, received nan"
  | .notInteger => "Expected integer, received float"
  | .notPositive => "Number must be greater than 0"
  | .negative => "Number must be greater than or equal to 0"
  | .aboveMaximum => "Number must be less than or equal to 65535"
  | .notAddress => "Invalid email"
  | .noAddress => "needs at least one address"

/-- a fault of a variable, or of one member of its list -/
structure Issue where
  name : String
  index : Option Nat
  fault : Fault
  deriving DecidableEq, Repr

/-- `PORT: Number must be greater than 0` -/
def Issue.message (i : Issue) : String :=
  let place := match i.index with
    | some n => i.name ++ "." ++ toString n
    | none => i.name
  place ++ ": " ++ i.fault.message

/-- a value that was read, or the issues in the way -/
abbrev Reading (α : Type) := Except (List Issue) α

namespace Reading

/-- the issues of a reading -/
def faults {α : Type} : Reading α → List Issue
  | .ok _ => []
  | .error is => is

/-- reads two things; the issues of both are kept -/
def both {α β : Type} (a : Reading α) (b : Reading β) : Reading (α × β) :=
  match a, b with
  | .ok x, .ok y => .ok (x, y)
  | a, b => .error (a.faults ++ b.faults)

/-- one fault of a variable -/
def fault {α : Type} (name : String) (f : Fault) : Reading α := .error [⟨name, none, f⟩]

theorem both_faults {α β : Type} (a : Reading α) (b : Reading β) : (both a b).faults = a.faults ++ b.faults := by
  cases a <;> cases b <;> simp [both, faults]

end Reading

open Reading

/-- the trimmed text of a variable that is not blank -/
def optionalText (env : Environment) (name : String) : Option String :=
  match env.get? name with
  | some v => if isBlankText v then none else some (trimmed v)
  | none => none

/-- a text that has to be there and not empty -/
def requiredText (env : Environment) (name : String) : Reading String :=
  match env.get? name with
  | some v => if v = "" then fault name .required else .ok v
  | none => fault name .required

/-- a text that has to be there and not blank, trimmed -/
def requiredTrimmed (env : Environment) (name : String) : Reading String :=
  match env.get? name with
  | some v => if isBlankText v then fault name .required else .ok (trimmed v)
  | none => fault name .required

/-- an optional address -/
def optionalAddress (env : Environment) (name : String) : Reading (Option String) :=
  match optionalText env name with
  | some v => if Mail.isAddress v then .ok (some v) else fault name .notAddress
  | none => .ok none

/-- the number of a variable, blank meaning unset -/
def numberOr (env : Environment) (name : String) (fallback : Nat) : Number :=
  match env.get? name with
  | some v => if isBlankText v then .ofInt fallback else Number.ofText v
  | none => .ofInt fallback

/-- the number is an integer -/
def isInteger (n : Number) : Bool := n.toInt?.isSome

/-- a whole number that a bound lets through -/
def wholeNumber (env : Environment) (name : String) (fallback : Nat) (bound : Number → Bool) (f : Fault) :
    Reading Number :=
  let n := numberOr env name fallback
  if n = .nan then fault name .notNumber
  else
    match (if isInteger n then [] else [⟨name, none, .notInteger⟩]) ++
      (if bound n then [] else [⟨name, none, f⟩]) with
    | [] => .ok n
    | is => .error is

/-- a whole number above zero -/
def positiveNumber (env : Environment) (name : String) (fallback : Nat) : Reading Number :=
  wholeNumber env name fallback (Number.lt 0) .notPositive

/-- a whole number that is zero or above -/
def naturalNumber (env : Environment) (name : String) (fallback : Nat) : Reading Number :=
  wholeNumber env name fallback (Number.le 0) .negative

/-- a port -/
def portNumber (env : Environment) (name : String) (fallback : Nat) : Reading Number :=
  match positiveNumber env name fallback with
  | .ok n => if Number.le n (.ofInt maxPort) then .ok n else fault name .aboveMaximum
  | .error is => .error is

/-- texts that switch a flag off -/
def offTexts : List String := ["false", "0", "no", "off"]

/-- a flag that is on unless a variable says otherwise -/
def flag (env : Environment) (name : String) : Bool :=
  match optionalText env name with
  | some v => !offTexts.contains (String.ofList (v.toList.map Char.toLower))
  | none => true

/-- the trimmed, non-empty members of a comma-separated list -/
def members (s : String) : List String :=
  ((Text.splitOn ',' s.toList).map fun part => String.ofList (Text.trim part)).filter (· ≠ "")

/-- a list of addresses that has to be there and not empty -/
def addressList (env : Environment) (name : String) : Reading (List String) :=
  match env.get? name with
  | none => fault name .required
  | some v =>
    match members v with
    | [] => fault name .noAddress
    | ms =>
      match ms.zipIdx.filterMap fun (m, i) => if Mail.isAddress m then none else some ⟨name, some i, .notAddress⟩ with
      | [] => .ok ms
      | is => .error is

end EnquiryMail.Config
