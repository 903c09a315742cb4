/-
The mail session: greeting, EHLO, STARTTLS, EHLO again under encryption, AUTH LOGIN, and then either one message or
nothing, and QUIT. Every step expects one reply code; the first that does not come ends the session with the failure
of that step. Credentials are written only to a channel that says it is encrypted. A channel that was opened is
closed on every way out, and a session always ends with a result.

`sendMail` delivers a message, `verifyRelay` stops after signing in.
-/
import EnquiryMail.Mail.Compose
import EnquiryMail.Smtp.Capability
import EnquiryMail.Smtp.Script
import EnquiryMail.Smtp.Settings
import EnquiryMail.Text.Base64

namespace EnquiryMail.Smtp

open Mail (Message)

/-- what a relay said to an accepted message -/
structure Receipt where
  messageId : String
  response : String
  deriving DecidableEq, Repr, Inhabited

/-- what a relay offers and said to the password -/
structure Acceptance where
  capabilities : List String
  response : String
  deriving DecidableEq, Repr, Inhabited

/-- the component of a session's log calls -/
def sessionComponent : String := "smtp.session"

/-- the component of a result's log calls -/
def resultComponent : String := "smtp"

namespace Session

/-- logs on behalf of the session -/
def note (level : Log.Level) (message : String) (fields : Json.Fields) : Step Unit :=
  Step.ask (.log (Log.call sessionComponent level message fields))

/-- a line written and the reply to it, or the error of either -/
def exchange (line : String) (secret : Bool) : Script (Except String Reply) := do
  match ← Script.request (.writeLine line secret) with
  | .error m => Script.done (.error m)
  | .ok _ => Script.request .read

/-- the reply to a command -/
def command (line : String) (secret : Bool) : Step Reply := do
  Step.orTransport (← ExceptT.lift (exchange line secret))

/-- a reply with another code ends the session -/
def expect (reply : Reply) (code : String) (kind : FailureKind) : Step Unit :=
  if reply.code = code then ExceptT.mk (Script.done (.ok ())) else Step.fail (Failure.ofReply kind reply.text)

/-- the encrypted connection, or the failure to get one -/
def upgrade : Step Unit := do
  match ← Step.ask .startTls with
  | .error m => Step.fail (Failure.of .tls m)
  | .ok _ =>
    let secure : Bool ← Step.ask .isSecure
    if secure then pure () else Step.fail (Failure.of .tls "connection is not encrypted after STARTTLS")

/-- greeting to password -/
def handshake (s : Settings) : Step Acceptance := do
  let greeting ← Step.orTransport (← Step.ask .read)
  expect greeting "220" .greeting
  let plain ← command ("EHLO " ++ s.ehloDomain) false
  if !hasCapability plain.capabilities "STARTTLS" then
    note .warn "Relay did not advertise STARTTLS; trying it anyway" [("host", .str s.host)]
  expect (← command "STARTTLS" false) "220" .startTls
  upgrade
  let offer ← command ("EHLO " ++ s.ehloDomain) false
  let mechanisms := authMechanisms offer.capabilities
  if !mechanisms.isEmpty && !mechanisms.contains "LOGIN" then
    note .warn "Relay does not advertise AUTH LOGIN" [("mechanisms", .str (String.intercalate " " mechanisms))]
  expect (← command "AUTH LOGIN" false) "334" .authMechanism
  expect (← command (base64 s.username) true) "334" .authUsername
  let answer ← command (base64 s.password) true
  expect answer "235" .authFailed
  pure ⟨offer.capabilities, answer.text⟩

/-- sender and recipient -/
def envelope (sender recipient : String) : Step Unit := do
  expect (← command ("MAIL FROM:<" ++ sender ++ ">") false) "250" .senderRejected
  expect (← command ("RCPT TO:<" ++ recipient ++ ">") false) "250" .recipientRejected

/-- the payload and the reply to it -/
def transfer (payload : String) : Step Reply := do
  expect (← command "DATA" false) "354" .dataRejected
  Step.orTransport (← Step.ask (.writeRaw payload))
  let reply ← Step.orTransport (← Step.ask .read)
  expect reply "250" .messageRejected
  pure reply

/-- says goodbye; what comes back does not matter any more -/
def quit : Step Unit := do
  match ← ExceptT.lift (exchange "QUIT" false) with
  | .ok _ => pure ()
  | .error m => note .debug ("QUIT not acknowledged: " ++ m) []

/-- which instant the date header names: the clock at that time, or a fixed one, which may be none -/
inductive Dating
  | clock
  | fixed (t : Option Time.Instant)
  deriving DecidableEq, Repr

/-- the instant of the date header -/
def dated : Dating → Step Time.Instant
  | .clock => Step.ask .clock
  | .fixed (some t) => pure t
  | .fixed none => Step.fail (Failure.of .transport "Invalid time value")

/-- the id and the payload of a message -/
def compose (s : Settings) (m : Message) (offset : Int) (dating : Dating) : Step (String × String) := do
  let uuid ← Step.ask .freshId
  let t ← dated dating
  let id := Mail.messageId uuid s.idDomain
  pure (id, Mail.payload ⟨Time.headerDate offset t, Mail.fromField s.senderName s.sender, id⟩ m)

/-- a whole delivery over an open channel -/
def delivery (s : Settings) (m : Message) (offset : Int) (dating : Dating) : Step Receipt := do
  let _ ← handshake s
  envelope s.sender m.recipient
  let (id, payload) ← compose s m offset dating
  let reply ← transfer payload
  quit
  pure ⟨id, reply.text⟩

/-- signing in over an open channel, and leaving -/
def signIn (s : Settings) : Step Acceptance := do
  let acceptance ← handshake s
  quit
  pure acceptance

/-- runs a step over a channel of its own: without a channel it fails, and with one `report` takes the result down
before the channel is closed -/
def overChannel {α : Type} (step : Step α) (report : Except Failure α → Script Unit) :
    Script (Except Failure α) := do
  match ← Script.request .openChannel with
  | .failed m =>
    let r := .error (Failure.of .connection m)
    report r
    Script.done r
  | .absent =>
    let r := .error (Failure.of .transport "Connection is not open")
    report r
    Script.done r
  | .ready =>
    let r ← step.run
    report r
    Script.request .close
    Script.done r

end Session

/-- what makes a session pointless from the start -/
def preflight (s : Settings) : Option Failure :=
  if s.problems.isEmpty then none
  else some (Failure.of .configuration (String.intercalate "; " (s.problems.map (·.message))))

/-- what makes a message impossible to send -/
def refusal (m : Message) : Option Failure :=
  if m.problems.isEmpty then none
  else some (Failure.of .invalidMessage (String.intercalate "; " (m.problems.map (·.message))))

/-- delivers one message -/
def sendMail (s : Settings) (m : Message) (offset : Int) (dating : Session.Dating) : Script (Except Failure Receipt) :=
  match (preflight s).or (refusal m) with
  | some f => do
    Script.request (.log (Log.call resultComponent .warn f.message [("to", .str m.recipient)]))
    Script.done (.error f)
  | none => do
    let started : Int ← Script.request .clock
    Session.overChannel (Session.delivery s m offset dating) fun
      | .ok r => do
        let ended : Int ← Script.request .clock
        Script.request (.log (Log.call resultComponent .info ("Message accepted by " ++ s.host)
          [("to", .str m.recipient), ("messageId", .str r.messageId), ("durationMs", .int (ended - started))]))
      | .error f =>
        Script.request (.log (Log.call resultComponent .warn f.message
          [("kind", .str f.kind.name), ("to", .str m.recipient), ("host", .str s.host)]))

/-- checks settings against a relay without sending anything -/
def verifyRelay (s : Settings) : Script (Except Failure Acceptance) :=
  match preflight s with
  | some f => Script.done (.error f)
  | none =>
    Session.overChannel (Session.signIn s) fun
      | .ok _ =>
        Script.request (.log (Log.call resultComponent .info ("Relay " ++ s.relayName ++ " accepted credentials") []))
      | .error f =>
        Script.request (.log (Log.call resultComponent .warn f.message
          [("kind", .str f.kind.name), ("host", .str s.host)]))

end EnquiryMail.Smtp
