/-
Relays that follow a script. A relay takes a connection or not, greets, answers every write of the client with the
next of its deliveries, and lets a TLS handshake succeed, fail or hang. A delivery is packets of bytes after a delay,
then perhaps an error or the end of the connection.
-/
import EnquiryMail.Text.Utf8

namespace EnquiryMail.Net

open Text.Utf8 (Bytes)

/-- what ends a connection from the other side -/
inductive Ending
  | hangUp
  | error (message : String)
  deriving DecidableEq, Repr

/-- what a relay sends -/
structure Delivery where
  /-- milliseconds to wait; none for at once -/
  delay : Option Int
  packets : List Bytes
  ending : Option Ending
  deriving Inhabited

/-- silence -/
def Delivery.silence : Delivery := ⟨none, [], none⟩

/-- how a relay takes a connection -/
inductive Welcome
  | accepts
  | delayed (ms : Int)
  | refuses (message : String)
  | hangs
  deriving DecidableEq, Repr

/-- how a relay takes a handshake -/
inductive Shaking
  | succeeds
  | fails (message : String)
  | hangs
  deriving DecidableEq, Repr

/-- a scripted relay -/
structure Relay where
  welcome : Welcome
  greeting : Delivery
  replies : List Delivery
  shaking : Shaking

/-- nobody listens there -/
def Relay.nobody : Relay := ⟨.refuses "connect ECONNREFUSED", .silence, [], .hangs⟩

end EnquiryMail.Net
