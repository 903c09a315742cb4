/-
The commands of the command line and the flags they take. A flag has a long spelling and perhaps a one-letter one;
some take a value. The flags of the whole program may stand anywhere, those of a command only behind its name.
-/

namespace EnquiryMail.Cli

/-- a flag -/
inductive Flag
  | version
  | json
  | verbose
  | subject
  | body
  | replyTo
  deriving DecidableEq, Repr

namespace Flag

/-- the one-letter spelling -/
def letter? : Flag → Option Char
  | version => some 'V'
  | json => none
  | verbose => some 'v'
  | subject => some 's'
  | body => some 'b'
  | replyTo => some 'r'

/-- the long spelling without its two dashes -/
def word : Flag → String
  | version => "version"
  | json => "json"
  | verbose => "verbose"
  | subject => "subject"
  | body => "body"
  | replyTo => "reply-to"

/-- what the value is called, for flags that take one -/
def value? : Flag → Option String
  | version => none
  | json => none
  | verbose => none
  | subject => some "subject"
  | body => some "body"
  | replyTo => some "address"

/-- a flag without value -/
def isSwitch (f : Flag) : Bool := f.value?.isNone

/-- an argument that is exactly this flag -/
def spelled (f : Flag) (arg : List Char) : Bool :=
  arg == '-' :: '-' :: f.word.toList || f.letter?.any fun c => arg == ['-', c]

/-- all spellings of a flag, as messages show it -/
def shown (f : Flag) : String :=
  (match f.letter? with
    | some c => String.ofList ['-', c] ++ ", "
    | none => "") ++
  "--" ++ f.word ++
  (match f.value? with
    | some v => " <" ++ v ++ ">"
    | none => "")

/-- an argument that asks for help -/
def isHelp (arg : String) : Bool := arg == "-h" || arg == "--help"

end Flag

/-- a command -/
inductive Command
  | send
  | verify
  deriving DecidableEq, Repr

namespace Command

/-- the name of a command -/
def name : Command → String
  | send => "send"
  | verify => "verify"

/-- the command with a name -/
def ofName? (name : String) : Option Command := [send, verify].find? fun c => c.name == name

/-- the name that shows help -/
def helpName : String := "help"

/-- the flags of a command -/
def flags : Command → List Flag
  | send => [.subject, .body, .replyTo]
  | verify => []

/-- the flags that a command needs -/
def required : Command → List Flag
  | send => [.subject, .body]
  | verify => []

/-- the operand that a command needs -/
def operand? : Command → Option String
  | send => some "to"
  | verify => none

/-- the flags of the whole program -/
def programFlags : List Flag := [.version, .json, .verbose]

theorem ofName?_name (c : Command) : ofName? c.name = some c := by cases c <;> decide

end Command

end EnquiryMail.Cli
