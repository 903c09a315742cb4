/-
Levels of log messages, from the most to the least verbose. A level is read from its name in any case, the long
forms of two names included.
-/
import EnquiryMail.Text.Blank
import EnquiryMail.Text.Upper

namespace EnquiryMail.Log

/-- how much a message matters -/
inductive Level
  | trace
  | debug
  | info
  | warn
  | error
  deriving DecidableEq, Repr, Inhabited

namespace Level

/-- the place of a level -/
def rank : Level → Nat
  | trace => 0
  | debug => 1
  | info => 2
  | warn => 3
  | error => 4

/-- the name of a level in settings -/
def name : Level → String
  | trace => "TRACE"
  | debug => "DEBUG"
  | info => "INFO"
  | warn => "WARN"
  | error => "ERROR"

/-- the name of a level in written objects -/
def lowerName : Level → String
  | trace => "trace"
  | debug => "debug"
  | info => "info"
  | warn => "warn"
  | error => "error"

/-- the level that a text names -/
def ofText? (text : String) : Option Level :=
  match String.ofList (Text.upper (Text.trim text.toList)) with
  | "TRACE" => some trace
  | "DEBUG" => some debug
  | "INFO" => some info
  | "INFORMATION" => some info
  | "WARN" => some warn
  | "WARNING" => some warn
  | "ERROR" => some error
  | _ => none

/-- the level that a text names, `info` when it names none -/
def ofText (text : String) : Level := (ofText? text).getD info

/-- a message of this level passes a threshold -/
def enabled (message threshold : Level) : Bool := threshold.rank ≤ message.rank

end Level

end EnquiryMail.Log
