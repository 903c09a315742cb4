/-
Connections driven by hand. Each action is something that the client or the relay does, or time passing; what
happens during it is taken down in order. No time passes except by `advance`, which lets the alarms due on the way go
off in their order. Sockets can be asked for and handshakes started while others are under way; each has an alarm of
its own, and the relay acts at the newest.
-/
import EnquiryMail.Net.Agenda
import EnquiryMail.Smtp.Dial

namespace EnquiryMail.Smtp.Drill

open Text.Utf8 (Bytes)

/-- something done to a connection -/
inductive Action
  | connect
  | accept
  | read
  | line (text : String) (secret : Bool)
  | raw (text : String)
  | failWrites (error : String)
  | arrive (packets : List Bytes)
  | hangUp
  | fail (error : String)
  | advance (ms : Int)
  | startTls
  | tlsOk
  | tlsError (error : String)
  | close

/-- something that happens -/
inductive Happening
  | connecting (relay : String)
  | connected (r : Except String Unit)
  | answered (id : Nat) (r : Except String Reply)
  | wrote (layer : Layer) (text : String)
  | lineDone (r : Except String Unit)
  | rawDone (r : Except String Unit)
  | shake (h : Handshake)
  | upgraded (r : Except String Unit)
  | destroyed (layer : Layer)

/-- a plain socket that has been asked for -/
structure Dialing where
  number : Nat
  /-- nobody has closed it -/
  live : Bool
  /-- writes will fail with this error -/
  refusal : Option String
  /-- whoever asked still waits -/
  awaited : Bool
  deriving DecidableEq, Repr

/-- the state of a drill: sockets are numbered as they are asked for, and a connection has the number of its first
socket -/
structure State where
  settings : Settings
  world : World
  /-- sockets that have not become connections -/
  dials : List Dialing
  connections : List (Nat × Connection)
  /-- the connection that the client uses: the one that was opened last -/
  inUse : Option Nat
  /-- the socket or connection at which the relay acts: the one asked for or encrypted last -/
  focus : Option Nat
  /-- the connection of the newest handshake, and the number of that -/
  shaking : Option (Nat × Nat)
  alarms : Net.Agenda (Nat × Alarm)
  /-- sockets asked for so far -/
  sockets : Nat
  /-- handshakes started so far -/
  handshakes : Nat
  /-- reads started so far -/
  reads : Nat
  /-- what has happened during the action, newest first -/
  trail : List Happening

namespace State

/-- a drill in a world; unless it is to connect first, the connection is there -/
def start (s : Settings) (w : World) (connects : Bool) : State :=
  let number : Option Nat := if connects then none else some 0
  { settings := s, world := w, dials := [], connections := number.toList.map fun n => (n, Connection.start s)
    inUse := number, focus := number, shaking := none, alarms := [], sockets := 1, handshakes := 0, reads := 0
    trail := [] }

/-- takes down what happens -/
def happen (st : State) (h : Happening) : State := { st with trail := h :: st.trail }

/-- carries out an effect of the socket or connection with a number -/
def effect (number : Nat) (st : State) : Effect → State
  | .wrote layer text => st.happen (.wrote layer text)
  | .shake h => st.happen (.shake h)
  | .destroyed layer => st.happen (.destroyed layer)
  | .arm a delay => { st with alarms := st.alarms.set (st.world.now + delay) (number, a) }
  | .disarm a => { st with alarms := st.alarms.cancel (· == (number, a)) }
  | .answered id r => st.happen (.answered id r)
  | .upgraded r => st.happen (.upgraded r)
  | .log c => { st with world := st.world.log c }

/-- carries effects out, one after another -/
def effects (number : Nat) (st : State) (es : List Effect) : State := es.foldl (effect number) st

/-- the connection with a number -/
def connectionAt? (number : Option Nat) (st : State) : Option (Nat × Connection) :=
  number.bind fun n => st.connections.find? fun e => e.1 == n

/-- what the connection with a number does, if there is one -/
def onConnection (number : Option Nat) (f : Connection → Connection.Outcome) (st : State) : State :=
  match st.connectionAt? number with
  | some (n, c) =>
    let (c, es) := f c
    State.effects n { st with connections := st.connections.map fun e => if e.1 = n then (n, c) else e } es
  | none => st

/-- what the connection in use does -/
def used (f : Connection → Connection.Outcome) (st : State) : State := st.onConnection st.inUse f

/-- the connection in use -/
def connection? (st : State) : Option Connection := (st.connectionAt? st.inUse).map (·.2)

/-! ## Asking for sockets -/

/-- the socket with a number that has not become a connection -/
def dial? (number : Nat) (st : State) : Option Dialing := st.dials.find? (·.number == number)

/-- takes down that a socket has changed -/
def withDial (d : Dialing) (st : State) : State :=
  { st with dials := st.dials.map fun e => if e.number = d.number then d else e }

/-- asks for a socket -/
def connect (st : State) : State :=
  let n := st.sockets
  let st := { st with sockets := n + 1, focus := some n, dials := ⟨n, true, none, true⟩ :: st.dials }
  State.effects n (st.happen (.connecting st.settings.relayName)) (Dial.started st.settings)

/-- what asking for a socket has led to -/
def dialed (d : Dialing) (st : State) : DialOutcome × List Effect → State
  | (.connected c, es) =>
    let st := { st with dials := st.dials.filter (·.number != d.number), connections := (d.number, c) :: st.connections
                        inUse := some d.number }
    (State.effects d.number st es).happen (.connected (.ok ()))
  | (.failed m, es) =>
    let st := st.withDial { d with live := false, awaited := false }
    (State.effects d.number st es).happen (.connected (.error m))

/-- the socket that the relay acts at, if it has not become a connection -/
def focused? (st : State) : Option Dialing := st.focus.bind fun n => st.dial? n

/-- the relay takes the socket on; if nobody waits for it any more nothing comes of it -/
def accept (st : State) : State :=
  match st.focused?.filter (·.awaited) with
  | some d => st.dialed d (Dial.accepted st.settings (Connection.onSocket st.settings d.live d.refusal))
  | none => st

/-- the relay closes the socket, or it fails with an error; a socket that is only asked for just goes quiet when it is
closed -/
def hangUp (error : Option String) (st : State) : State :=
  match st.focused? with
  | none => st.onConnection st.focus (Connection.hangUp st.world.now error)
  | some d =>
    let d := { d with live := false }
    match error with
    | some m => if d.awaited then st.dialed d (Dial.refused d.live m) else st
    | none => st.withDial d

/-- writes on the socket that the relay acts at fail from now on -/
def refuseWrites (error : String) (st : State) : State :=
  match st.focused? with
  | none => st.onConnection st.focus fun c => (c.refuseWrites error, [])
  | some d => st.withDial { d with refusal := some error }

/-! ## Handshakes -/

/-- starts an upgrade of the connection in use -/
def startTls (st : State) : State :=
  match st.inUse with
  | none => st
  | some n =>
    let id := st.handshakes
    let anchor := trustAnchor st.world st.settings
    let shaking := if anchor.toOption.isSome then some (n, id) else st.shaking
    { st with handshakes := id + 1, shaking }.onConnection n (Connection.startTls id anchor)

/-- the newest handshake succeeds; from here on the relay acts at its socket -/
def tlsOk (st : State) : State :=
  match st.shaking with
  | none => st
  | some (n, id) => { st with focus := some n }.onConnection n (Connection.shaken id)

/-- the newest handshake fails -/
def tlsError (error : String) (st : State) : State :=
  match st.shaking with
  | none => st
  | some (n, id) => st.onConnection n (Connection.shakeFailed st.world.now id error)

/-! ## Time -/

/-- an alarm goes off -/
def alarm (st : State) (number : Nat) (a : Alarm) : State :=
  match a, st.dial? number with
  | .connect, some d => st.dialed d (Dial.expired st.settings d.live)
  | _, _ => st.onConnection number (Connection.alarm a)

/-- lets the alarms due by a time go off, at most as many as the first argument -/
def alarmsUntil (target : Int) : Nat → State → State
  | 0, st => st
  | fuel + 1, st =>
    match st.alarms.next? with
    | some ((due, number, a), rest) =>
      if due ≤ target then
        alarmsUntil target fuel ({ st with alarms := rest, world := { st.world with now := due } }.alarm number a)
      else st
    | none => st

/-- time passes -/
def advance (st : State) (ms : Int) : State :=
  let target := st.world.now + ms
  let st := alarmsUntil target st.alarms.length st
  { st with world := { st.world with now := target } }

/-! ## Actions -/

/-- does one action -/
def act (st : State) : Action → State
  | .connect => st.connect
  | .accept => st.accept
  | .read =>
    let id := st.reads + 1
    { st with reads := id }.used (Connection.read st.world.now id)
  | .line text secret =>
    match st.connection? with
    | some c =>
      let (r, es) := c.writeLine text secret
      (State.effects 0 st es).happen (.lineDone r)
    | none => st
  | .raw text =>
    match st.connection? with
    | some c =>
      let (r, es) := c.writeRaw text
      (State.effects 0 st es).happen (.rawDone r)
    | none => st
  | .failWrites m => st.refuseWrites m
  | .arrive packets => st.onConnection st.focus (Connection.arrive st.world.now packets.flatten)
  | .hangUp => st.hangUp none
  | .fail m => st.hangUp (some m)
  | .advance ms => st.advance ms
  | .startTls => st.startTls
  | .tlsOk => st.tlsOk
  | .tlsError m => st.tlsError m
  | .close => st.used (Connection.close st.world.now)

/-- the connection in use is encrypted -/
def isSecure (st : State) : Bool := st.connection?.any (·.secure)

/-- what happened during one action, and whether the connection is encrypted after it -/
structure Report where
  happenings : List Happening
  secure : Bool

/-- does one action and reports it -/
def step (st : State) (a : Action) : Report × State :=
  let st := { st with trail := [] }.act a
  (⟨st.trail.reverse, st.isSecure⟩, st)

/-- does actions one after another -/
def run (st : State) : List Action → List Report × State
  | [] => ([], st)
  | a :: rest =>
    let (report, st) := st.step a
    let (reports, st) := st.run rest
    (report :: reports, st)

end State

end EnquiryMail.Smtp.Drill
