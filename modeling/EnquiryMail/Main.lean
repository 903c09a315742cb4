/-
The command line as a program. It takes its settings from the environment, prints what the command reports and leaves
the exit code of the report. Nothing else of its surroundings is in its reach: relays refuse the connection, files
are not found, and the clock stands at its origin.
-/
import EnquiryMail.Cli.Run

namespace EnquiryMail.Main

/-- the variables that a command looks at -/
def names : List String :=
  ["SMTP_HOST", "SMTP_PORT", "SMTP_USERNAME", "SMTP_PASSWORD", "SMTP_FROM", "SMTP_FROM_NAME", "SMTP_EHLO_DOMAIN",
    "SMTP_CONNECT_TIMEOUT", "SMTP_READ_TIMEOUT", "SMTP_TLS_REJECT_UNAUTHORIZED", "SMTP_TLS_CA_FILE",
    "MAILER_DEBUG_COMPONENTS", "LOG_LEVEL", "LOG_FORMAT", "LOG_TIMESTAMP_FORMAT"]

/-- surroundings with an environment and a directory alone -/
def surroundings (env : Environment) (directory : String) : World :=
  { now := 0, offset := 0, env, files := [], directory := Path.resolve [] directory, made := 0, calls := [] }

/-- the variables that are set -/
def environment : IO Environment :=
  names.filterMapM fun name => return (← IO.getEnv name).map fun value => (name, value)

end EnquiryMail.Main

open EnquiryMail in
/-- answers the command line -/
def main (args : List String) : IO UInt32 := do
  let world := Main.surroundings (← Main.environment) ((← IO.getEnv "PWD").getD "/")
  let (report, _) := Cli.run args false (Net.Network.start world [])
  (← IO.getStdout).putStr report.output
  (← IO.getStderr).putStr report.errors
  return report.exit.toUInt32
