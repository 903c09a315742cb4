/-
Help texts, and what is said about a command line that cannot be run.
-/
import EnquiryMail.Cli.Flag
import EnquiryMail.Cli.Paint
import EnquiryMail.Cli.Suggestion

namespace EnquiryMail.Cli

/-- the version of the program -/
def versionText : String := "0.1.0"

/-! ## Help -/

/-- lines, each ended -/
def ended (lines : List String) : String := String.join (lines.map (· ++ "\n"))

/-- the help of the whole program -/
def programHelp (color : Bool) : String :=
  ended
    ["Usage: site-mailer [options] [command]",
     "",
     "Send mail through an authenticated STARTTLS relay",
     "",
     "Options:",
     "  -V, --version        Output the version number",
     "  --json               Output as JSON",
     "  -v, --verbose        Log the SMTP conversation (credentials redacted)",
     "  -h, --help           display help for command",
     "",
     "Commands:",
     "  send [options] <to>  Send a plain-text message through the SMTP relay",
     "  verify               Check that the relay accepts STARTTLS and the configured",
     "                       credentials",
     "  help [command]       display help for command",
     "",
     painted color .bold "Examples:",
     "  " ++ painted color .gray "# Send a one-line message",
     "  $ site-mailer send sales@example.com -s \"Hello\" -b \"Testing the relay\"",
     "",
     "  " ++ painted color .gray "# Send a file as the body",
     "  $ site-mailer send sales@example.com -s \"Report\" -b @report.txt",
     "",
     "  " ++ painted color .gray "# Check STARTTLS and credentials",
     "  $ site-mailer verify",
     ""]

/-- the help of a command -/
def commandHelp : Command → String
  | .send =>
    ended
      ["Usage: site-mailer send [options] <to>",
       "",
       "Send a plain-text message through the SMTP relay",
       "",
       "Options:",
       "  -s, --subject <subject>   Message subject",
       "  -b, --body <body>         Message body, or @file to read it from a file",
       "  -r, --reply-to <address>  Reply-To address (defaults to the sender)",
       "  -h, --help                display help for command"]
  | .verify =>
    ended
      ["Usage: site-mailer verify [options]",
       "",
       "Check that the relay accepts STARTTLS and the configured credentials",
       "",
       "Options:",
       "  -h, --help  display help for command"]

/-- the help of a command, or of the whole program -/
def helpText (color : Bool) : Option Command → String
  | none => programHelp color
  | some c => commandHelp c

/-! ## Misuse -/

/-- why a command line cannot be run -/
inductive UsageError
  | valueMissing (f : Flag)
  | flagMissing (f : Flag)
  | unknownFlag (context : Option Command) (arg : String)
  | operandMissing (name : String)
  | unknownCommand (name : String)
  deriving DecidableEq, Repr

/-- the flags that could be meant in a command, or in front of one -/
def knownFlags (context : Option Command) : List String :=
  (match context with
    | some c => c.flags.map (fun f => "--" ++ f.word) ++ ["--help"]
    | none => []) ++
  Command.programFlags.map (fun f => "--" ++ f.word) ++ ["--help"]

/-- the names that could be meant by a command -/
def knownNames : List String := [Command.send.name, Command.verify.name, Command.helpName]

/-- the wording of a usage error -/
def UsageError.message : UsageError → String
  | valueMissing f => "error: option '" ++ f.shown ++ "' argument missing"
  | flagMissing f => "error: required option '" ++ f.shown ++ "' not specified"
  | unknownFlag context arg =>
    "error: unknown option '" ++ arg ++ "'" ++
      (if arg.startsWith "--" then suggestionText (suggestions arg (knownFlags context)) else "")
  | operandMissing name => "error: missing required argument '" ++ name ++ "'"
  | unknownCommand name =>
    "error: unknown command '" ++ name ++ "'" ++ suggestionText (suggestions name knownNames)

end EnquiryMail.Cli
