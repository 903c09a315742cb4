/-
Running a command line over a network. While a command is under way the error output names what it waits for, unless
documents are asked for; log lines come before the result. A configuration that cannot be used and a body that
cannot be had end the command before anything is sent.

`run_quiet`: only a task touches the network.
-/
import EnquiryMail.Cli.Body
import EnquiryMail.Cli.Invocation
import EnquiryMail.Cli.Report
import EnquiryMail.Config.Mailer
import EnquiryMail.Log.Journal
import EnquiryMail.Net.Network
import EnquiryMail.Smtp.Session

namespace EnquiryMail.Cli

open Net (Network)

/-- a report and what the error output said before it -/
structure Finished where
  waiting : String
  report : Report
  network : Network

/-- a wait as the error output names it -/
def waitText (f : Form) (text : String) : String := if f.json then "" else "- " ++ text ++ "\n"

/-- the result of a delivery -/
def sendReport (f : Form) (recipient : String) (duration : Number) : Except Smtp.Failure Smtp.Receipt → Report
  | .ok r =>
    f.succeeded "Message sent"
      [("to", recipient), ("message-id", r.messageId), ("response", r.response), ("time", durationText duration)]
      (.obj [("success", .bool true), ("to", .str recipient), ("messageId", .str r.messageId),
        ("response", .str r.response), ("duration", .num duration)])
  | .error e =>
    f.failed e.kind.name e.message e.response
      (.obj [("success", .bool false), ("to", .str recipient), ("failure", failureDocument e),
        ("duration", .num duration)])

/-- the result of a check -/
def verifyReport (f : Form) (s : Smtp.Settings) : Except Smtp.Failure Smtp.Acceptance → Report
  | .ok r =>
    let extensions := String.intercalate ", " r.capabilities
    f.succeeded ("Relay " ++ s.relayName ++ " accepted " ++ s.username)
      [("response", r.response),
        ("extensions", if extensions = "" then painted f.color .gray "(none)" else extensions)]
      (.obj [("success", .bool true), ("relay", .str s.relayName), ("capabilities", .texts r.capabilities),
        ("response", .str r.response)])
  | .error e =>
    f.failed e.kind.name e.message e.response
      (.obj [("success", .bool false), ("relay", .str s.relayName), ("failure", failureDocument e)])

/-- does a task with usable relay settings -/
def runTask (f : Form) (s : Smtp.Settings) (n : Network) : Task → Finished
  | .send recipient subject given replyTo =>
    match readBody n.world.files n.world.directory given with
    | .error e => ⟨"", f.error e.message, n⟩
    | .ok body =>
      let m : Mail.Message := ⟨recipient, subject, body, replyTo.getD s.sender⟩
      let (r, after) := (Smtp.sendMail s m n.world.offset .clock).run (Network.handle s) n
      ⟨waitText f ("Sending to " ++ recipient ++ " via " ++ s.relayName ++ "..."),
        sendReport f recipient (Number.ofInt (after.world.now - n.world.now)) r, after⟩
  | .verify =>
    let (r, after) := (Smtp.verifyRelay s).run (Network.handle s) n
    ⟨waitText f ("Connecting to " ++ s.relayName ++ "..."), verifyReport f s r, after⟩

/-- does a task with the relay settings of the environment -/
def attempt (f : Form) (n : Network) (task : Task) : Finished :=
  match Config.readSmtp n.world.env with
  | .error e => ⟨"", f.error ("Configuration error: " ++ e.message), n⟩
  | .ok s => runTask f s n task

/-- the log lines of a command: everything when it is to be verbose, else errors alone, overrides apart -/
def logLines (verbose : Bool) (w : World) : List String :=
  { Log.Journal.boot w.env with global := if verbose then .trace else .error }.lines w.offset w.calls.reverse

/-- a finished task as a report -/
def Finished.total (verbose : Bool) (d : Finished) : Report :=
  { d.report with
    output := ended (logLines verbose d.network.world) ++ d.report.output
    errors := d.waiting ++ d.report.errors }

/-- answers an invocation -/
def Invocation.answer (color : Bool) (n : Network) : Invocation → Report × Network
  | .version => (⟨versionText ++ "\n", "", 0⟩, n)
  | .help topic => (⟨helpText color topic, "", 0⟩, n)
  | .lost => (⟨"", helpText color none, 1⟩, n)
  | .misuse e => (⟨"", e.message ++ "\n", 1⟩, n)
  | .run json verbose task =>
    let d := attempt ⟨json, color⟩ n task
    (d.total verbose, d.network)

/-- answers a command line -/
def run (args : List String) (color : Bool) (n : Network) : Report × Network :=
  (Invocation.ofArguments args).answer color n

theorem run_quiet (args : List String) (color : Bool) (n : Network)
    (h : ∀ json verbose task, Invocation.ofArguments args ≠ .run json verbose task) :
    (run args color n).2 = n := by
  unfold run
  cases hi : Invocation.ofArguments args with
  | run json verbose task => exact absurd hi (h json verbose task)
  | _ => rfl

end EnquiryMail.Cli
