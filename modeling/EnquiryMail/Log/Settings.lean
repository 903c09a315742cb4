/-
Logging settings of an environment: the level, the overrides of components, the format of written entries, a log
file, and the form of time stamps. A value that is not one of those allowed counts as the default.
-/
import EnquiryMail.Environment
import EnquiryMail.Log.Level

namespace EnquiryMail.Log

/-- the form of written entries -/
inductive Format
  | text
  | json
  deriving DecidableEq, Repr, Inhabited

/-- the form of time stamps in text entries -/
inductive StampForm
  | classic
  | iso
  deriving DecidableEq, Repr, Inhabited

/-- logging settings -/
structure Settings where
  level : Level
  /-- override entries such as `smtp:TRACE` -/
  overrides : List String
  format : Format
  file : Option String
  stamps : StampForm
  deriving DecidableEq, Repr, Inhabited

/-- the trimmed, non-empty parts of a comma-separated list -/
def splitList (s : String) : List String :=
  ((Text.splitOn ',' s.toList).map fun part => String.ofList (Text.trim part)).filter (· ≠ "")

/-- the settings of an environment -/
def Settings.ofEnvironment (env : Environment) : Settings :=
  { level := Level.ofText ((env.get? "LOG_LEVEL").getD "INFO")
    overrides := splitList ((env.get? "MAILER_DEBUG_COMPONENTS").getD "")
    format := if env.get? "LOG_FORMAT" = some "json" then .json else .text
    file := (env.get? "LOG_FILE").filter (· ≠ "")
    stamps := if env.get? "LOG_TIMESTAMP_FORMAT" = some "iso" then .iso else .classic }

end EnquiryMail.Log
