/-
What a command line asks for. The flags of the program are taken wherever they stand; the first operand names the
command, which reads the rest with its own flags. A request for help wins over everything that is missing or not
understood, a missing flag over an unknown one, an unknown flag over a missing operand.
-/
import EnquiryMail.Cli.Arguments
import EnquiryMail.Cli.Usage

namespace EnquiryMail.Cli

/-- what a command is to do -/
inductive Task
  | send (recipient subject body : String) (replyTo : Option String)
  | verify
  deriving DecidableEq, Repr

/-- what a command line asks for -/
inductive Invocation
  | version
  | help (topic : Option Command)
  /-- nothing that could be run: the program's help is shown as an error -/
  | lost
  | misuse (e : UsageError)
  | run (json verbose : Bool) (task : Task)
  deriving DecidableEq, Repr

namespace Invocation

/-- an end of the sorting -/
def ofStop : Stop → Invocation
  | .version => .version
  | .valueMissing f => .misuse (.valueMissing f)

/-- the task of a command whose flags are complete -/
def task? (c : Command) (s : Sorted) (operands : List String) : Option Task :=
  match c, operands with
  | .send, recipient :: _ =>
    some (.send recipient ((s.value? .subject).getD "") ((s.value? .body).getD "") (s.value? .replyTo))
  | .send, [] => none
  | .verify, _ => some .verify

/-- a command with its operands and the arguments that the program did not understand -/
def ofCommand (program : Sorted) (c : Command) (operands unknown : List String) : Invocation :=
  match sort c.flags unknown with
  | .error stop => ofStop stop
  | .ok s =>
    if s.unknown.any Flag.isHelp then .help (some c)
    else
      match c.required.find? fun f => !s.has f with
      | some f => .misuse (.flagMissing f)
      | none =>
        match s.unknown with
        | arg :: _ => .misuse (.unknownFlag (some c) arg)
        | [] =>
          match task? c s (operands ++ s.operands) with
          | some task => .run (program.has .json) (program.has .verbose) task
          | none => .misuse (.operandMissing (c.operand?.getD ""))

/-- the help asked for by name -/
def ofHelp : List String → Invocation
  | [] => .help none
  | name :: _ =>
    if name = "" then .help none
    else
      match Command.ofName? name with
      | some c => .help (some c)
      | none => .lost

/-- a program's arguments sorted, as an invocation -/
def ofSorted (s : Sorted) : Invocation :=
  match s.operands with
  | name :: operands =>
    match Command.ofName? name with
    | some c => ofCommand s c operands s.unknown
    | none =>
      if name = Command.helpName then ofHelp operands
      else if s.unknown.any Flag.isHelp then .help none
      else .misuse (.unknownCommand name)
  | [] =>
    match s.unknown with
    | [] => .lost
    | arg :: _ => if s.unknown.any Flag.isHelp then .help none else .misuse (.unknownFlag none arg)

/-- what arguments ask for -/
def ofArguments (args : List String) : Invocation :=
  match sort Command.programFlags args with
  | .error stop => ofStop stop
  | .ok s => ofSorted s

end Invocation

end EnquiryMail.Cli
