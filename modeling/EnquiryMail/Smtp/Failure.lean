/-
Failures of a mail session. Every step of the session has a failure kind of its own; a failure carries its kind,
what went wrong, and the reply of the relay when it came from one. Anything else that goes wrong on the way is a
transport failure.
-/

namespace EnquiryMail.Smtp

/-- the step that failed -/
inductive FailureKind
  | configuration
  | invalidMessage
  | connection
  | greeting
  | startTls
  | tls
  | authMechanism
  | authUsername
  | authFailed
  | senderRejected
  | recipientRejected
  | dataRejected
  | messageRejected
  | transport
  deriving DecidableEq, Repr, Inhabited

namespace FailureKind

/-- the name of a kind in results -/
def name : FailureKind → String
  | configuration => "configuration-error"
  | invalidMessage => "invalid-message"
  | connection => "connection-error"
  | greeting => "greeting-error"
  | startTls => "starttls-error"
  | tls => "tls-error"
  | authMechanism => "auth-mechanism-error"
  | authUsername => "auth-username-error"
  | authFailed => "auth-failed-error"
  | senderRejected => "sender-rejected-error"
  | recipientRejected => "recipient-rejected-error"
  | dataRejected => "data-rejected-error"
  | messageRejected => "message-rejected-error"
  | transport => "transport-error"

/-- how a message about a failure of this kind begins -/
def opening : FailureKind → String
  | configuration => "Invalid SMTP settings"
  | invalidMessage => "Invalid message"
  | connection => "Connection failed"
  | greeting => "Bad greeting"
  | startTls => "STARTTLS rejected"
  | tls => "TLS handshake failed"
  | authMechanism => "AUTH rejected"
  | authUsername => "Username rejected"
  | authFailed => "Auth failed"
  | senderRejected => "MAIL FROM rejected"
  | recipientRejected => "RCPT TO rejected"
  | dataRejected => "DATA rejected"
  | messageRejected => "Message rejected"
  | transport => "Transport error"

/-- all kinds -/
def all : List FailureKind :=
  [configuration, invalidMessage, connection, greeting, startTls, tls, authMechanism, authUsername, authFailed,
    senderRejected, recipientRejected, dataRejected, messageRejected, transport]

/-- the kind with a name -/
def ofName? (s : String) : Option FailureKind := all.find? fun k => k.name = s

theorem ofName?_name (k : FailureKind) : ofName? k.name = some k := by
  cases k <;> decide +kernel

end FailureKind

/-- why a session failed -/
structure Failure where
  kind : FailureKind
  /-- `RCPT TO rejected: 550 5.1.1 No such user` -/
  message : String
  /-- text of the reply that caused it -/
  response : Option String
  deriving DecidableEq, Repr, Inhabited

/-- a failure of a kind, with what went wrong -/
def Failure.of (kind : FailureKind) (detail : String) : Failure := ⟨kind, kind.opening ++ ": " ++ detail, none⟩

/-- a failure that a reply caused -/
def Failure.ofReply (kind : FailureKind) (text : String) : Failure := ⟨kind, kind.opening ++ ": " ++ text, some text⟩

end EnquiryMail.Smtp
