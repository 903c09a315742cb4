/-
A network of scripted relays: the n-th connection meets the n-th relay. Sessions run over it one at a time. While a
session waits, everything that needs no time happens first, in order; only then does the clock jump to the next thing
on the agenda. Everything done on the wire is taken down.

`wait` is the loop; each turn takes one thing off the queue or the agenda, so the number of things there bounds it.
-/
import EnquiryMail.Net.Agenda
import EnquiryMail.Net.Relay
import EnquiryMail.Smtp.Dial
import EnquiryMail.Smtp.Script

namespace EnquiryMail.Net

open EnquiryMail.Smtp
open Text.Utf8 (Bytes)

/-- what is done on the wire -/
inductive WireEvent
  | connect (relay : String)
  | wrote (layer : Layer) (text : String)
  | shake (h : Handshake)
  | destroyed (layer : Layer)
  deriving DecidableEq, Repr

/-- things that are yet to happen, each on the connection with a number -/
inductive Coming
  | alarm (a : Alarm)
  | accepted
  | refused (message : String)
  | delivery (layer : Layer) (packets : List Bytes) (ending : Option Ending)
  | shaken
  | shakeFailed (message : String)

/-- the connection of the session under way -/
inductive Line
  | idle
  | dialing
  | up (c : Connection)

/-- the state of the network -/
structure Network where
  world : World
  /-- relays of the connections to come -/
  relays : List Relay
  settings : Settings
  /-- the number of the connection under way -/
  number : Nat
  line : Line
  /-- the relay's answers to come, and its part in a handshake -/
  replies : List Delivery
  greeting : Delivery
  shaking : Shaking
  /-- things that happen at once, with the number of their connection -/
  queue : List (Nat × Coming)
  agenda : Agenda (Nat × Coming)
  /-- newest first -/
  wire : List WireEvent
  /-- what the operation under way waits for -/
  dialed : Option (Except String Unit)
  answer : Option (Except String Reply)
  upgraded : Option (Except String Unit)

namespace Network

/-- a network before the first connection -/
def start (w : World) (relays : List Relay) : Network :=
  { world := w, relays := relays, settings := default, number := 0, line := .idle, replies := []
    greeting := .silence, shaking := .hangs, queue := [], agenda := [], wire := []
    dialed := none, answer := none, upgraded := none }

/-- takes down what is done on the wire -/
def record (n : Network) (e : WireEvent) : Network := { n with wire := e :: n.wire }

/-- something is to happen after a delay -/
def schedule (n : Network) (delay : Int) (x : Coming) : Network :=
  { n with agenda := n.agenda.set (n.world.now + delay) (n.number, x) }

/-- something happens as soon as the session waits -/
def enqueue (n : Network) (x : Coming) : Network := { n with queue := n.queue ++ [(n.number, x)] }

/-- a relay sends something on a layer -/
def deliver (n : Network) (layer : Layer) (d : Delivery) : Network :=
  if d.packets.isEmpty && d.ending.isNone then n
  else
    match d.delay with
    | some ms => n.schedule (Time.delayOf (Number.ofInt ms)) (.delivery layer d.packets d.ending)
    | none => n.enqueue (.delivery layer d.packets d.ending)

/-- the relay answers a write -/
def reply (n : Network) (layer : Layer) : Network :=
  match n.replies with
  | [] => n
  | d :: rest => { n with replies := rest }.deliver layer d

/-- whether a thing to come is an alarm of the connection under way -/
def isAlarm (number : Nat) (a : Alarm) : Nat × Coming → Bool
  | (m, .alarm b) => m == number && b == a
  | _ => false

/-- the relay takes part in a handshake -/
def shake (n : Network) : Network :=
  match n.shaking with
  | .succeeds => n.enqueue .shaken
  | .fails m => n.enqueue (.shakeFailed m)
  | .hangs => n

/-- carries an effect of the connection out -/
def effect (n : Network) : Effect → Network
  | .wrote layer text => (n.record (.wrote layer text)).reply layer
  | .shake h => (n.record (.shake h)).shake
  | .destroyed layer => n.record (.destroyed layer)
  | .arm a delay => n.schedule delay (.alarm a)
  | .disarm a => { n with agenda := n.agenda.cancel (isAlarm n.number a) }
  | .answered _ r => { n with answer := some r }
  | .upgraded r => { n with upgraded := some r }
  | .log c => { n with world := n.world.log c }

/-- carries effects out, one after another -/
def effects (n : Network) (es : List Effect) : Network := es.foldl effect n

/-- what the connection does, if there is one -/
def onConnection (n : Network) (f : Connection → Connection.Outcome) : Network :=
  match n.line with
  | .up c =>
    let (c, es) := f c
    { n with line := .up c }.effects es
  | _ => n

/-- what asking for a socket has led to -/
def dialedAs (n : Network) : DialOutcome × List Effect → Network
  | (.connected c, es) =>
    { ({ n with line := .up c }.effects es).deliver .plain n.greeting with dialed := some (.ok ()) }
  | (.failed m, es) => { { n with line := .idle }.effects es with dialed := some (.error m) }

/-- packets and ending of a delivery reach the connection; a socket that is closed, or no longer current, gets
nothing -/
def receive (now : Int) (layer : Layer) (packets : List Bytes) (ending : Option Ending) (c : Connection) :
    Connection.Outcome :=
  if c.socket.layer = layer ∧ c.socket.live then
    Connection.andThen (Connection.arrive now packets.flatten c) fun c =>
      match ending with
      | none => (c, [])
      | some .hangUp => Connection.hangUp now none c
      | some (.error m) => Connection.hangUp now (some m) c
  else (c, [])

/-- a thing happens -/
def happen (n : Network) : Nat × Coming → Network
  | (number, x) =>
    if number ≠ n.number then n
    else
      match x, n.line with
      | .accepted, .dialing => n.dialedAs (Dial.accepted n.settings (Connection.start n.settings))
      | .refused m, .dialing => n.dialedAs (Dial.refused true m)
      | .alarm .connect, .dialing => n.dialedAs (Dial.expired n.settings true)
      | .alarm a, _ => n.onConnection (Connection.alarm a)
      | .delivery layer packets ending, _ => n.onConnection (receive n.world.now layer packets ending)
      | .shaken, _ => n.onConnection (Connection.shaken 0)
      | .shakeFailed m, _ => n.onConnection (Connection.shakeFailed n.world.now 0 m)
      | _, _ => n

/-- lets things happen until a test holds, at most as many as the first argument -/
def wait (ready : Network → Bool) : Nat → Network → Network
  | 0, n => n
  | fuel + 1, n =>
    if ready n then n
    else
      match n.queue with
      | x :: rest => wait ready fuel ({ n with queue := rest }.happen x)
      | [] =>
        match n.agenda.next? with
        | some ((due, x), rest) =>
          wait ready fuel ({ n with agenda := rest, world := { n.world with now := due } }.happen x)
        | none => n

/-- lets things happen until a test holds -/
def waitFor (ready : Network → Bool) (n : Network) : Network :=
  wait ready (2 * (n.queue.length + n.agenda.length) + 2) n

/-- asks for a connection to the next relay -/
def dial (s : Settings) (n : Network) : Network :=
  let relay := n.relays.headD .nobody
  let n := { n with relays := n.relays.tail, settings := s, number := n.number + 1, line := .dialing
                    replies := relay.replies, greeting := relay.greeting, shaking := relay.shaking, dialed := none }
  let n := (n.record (.connect s.relayName)).effects (Dial.started s)
  match relay.welcome with
  | .accepts => n.enqueue .accepted
  | .refuses m => n.enqueue (.refused m)
  | .delayed ms => n.schedule (Time.delayOf (Number.ofInt ms)) .accepted
  | .hangs => n

/-- answers a session whose relay settings are `s` -/
def handle (s : Settings) : Script.Handler Network
  | .openChannel, n =>
    let n := (n.dial s).waitFor (·.dialed.isSome)
    (match n.dialed with
      | some (.ok _) => .ready
      | some (.error m) => .failed m
      | none => .absent, n)
  | .read, n =>
    let n := { n with answer := none }.onConnection (Connection.read n.world.now 0)
    let n := n.waitFor (·.answer.isSome)
    (n.answer.getD (.error ConnectionError.closed.message), n)
  | .writeLine text secret, n =>
    match n.line with
    | .up c =>
      let (r, es) := c.writeLine text secret
      (r, n.effects es)
    | _ => (.error ConnectionError.closed.message, n)
  | .writeRaw text, n =>
    match n.line with
    | .up c =>
      let (r, es) := c.writeRaw text
      (r, n.effects es)
    | _ => (.error ConnectionError.closed.message, n)
  | .startTls, n =>
    let n := { n with upgraded := none }.onConnection (Connection.startTls 0 (trustAnchor n.world s))
    let n := n.waitFor (·.upgraded.isSome)
    (n.upgraded.getD (.error ConnectionError.closed.message), n)
  | .isSecure, n =>
    (match n.line with
      | .up c => c.secure
      | _ => false, n)
  | .close, n => ((), { n.onConnection (Connection.close n.world.now) with line := .idle })
  | .log c, n => ((), { n with world := n.world.log c })
  | .clock, n => (n.world.now, n)
  | .freshId, n =>
    let (id, w) := n.world.fresh
    (id, { n with world := w })

end Network

end EnquiryMail.Net
