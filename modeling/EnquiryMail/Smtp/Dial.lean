/-
Opening a connection: the plain socket is asked for under a time limit; it is there, refused, or too late. Also here:
reading the further trust anchor that the settings name.
-/
import EnquiryMail.Smtp.Connection
import EnquiryMail.World

namespace EnquiryMail.Smtp

/-- what has become of asking for a socket -/
inductive DialOutcome
  | connected (c : Connection)
  | failed (message : String)

namespace Dial

/-- the address that relays see -/
def localAddress : String := "192.0.2.1"

/-- the port that relays see -/
def localPort : Nat := 40000

/-- asking for the socket sets the alarm -/
def started (s : Settings) : List Effect := [.arm .connect s.connectTimeout.delay]

/-- the socket is there, and a connection goes over it -/
def accepted (s : Settings) (c : Connection) : DialOutcome × List Effect :=
  (.connected c,
    [.disarm .connect,
      Connection.note .debug ("Connected to " ++ s.relayName)
        [("localAddress", .str localAddress), ("localPort", .nat localPort)]])

/-- what is destroyed when a socket that is asked for is given up -/
def givenUp (live : Bool) : List Effect := if live then [.destroyed .plain] else []

/-- the socket is refused -/
def refused (live : Bool) (error : String) : DialOutcome × List Effect :=
  (.failed error, .disarm .connect :: givenUp live)

/-- the limit has passed -/
def expired (s : Settings) (live : Bool) : DialOutcome × List Effect :=
  (.failed (ConnectionError.connectTimeout s.relayName s.connectTimeout.shown).message, givenUp live)

end Dial

/-- the trust anchor that the settings name, or why it cannot be read -/
def trustAnchor (w : World) (s : Settings) : Except String (Option String) :=
  match s.tls.caFile with
  | none => .ok none
  | some path =>
    match w.files.read w.directory path with
    | .ok bytes => .ok (some (ofUtf8 bytes))
    | .error e => .error e.message

end EnquiryMail.Smtp
