/-
The life of a server: starts, stops and signals, and what the host does with the listeners asked for. A start while a
listener serves settles at once, any other asks for a new listener; a stop gives the current listener up before it
has closed, so that a second one has nothing to do. A signal is a stop for each handler, with five seconds to finish,
and ends the process. The first end counts: what is logged later is not seen.
-/
import EnquiryMail.Config.Mailer
import EnquiryMail.Http.App
import EnquiryMail.Server.Listener

namespace EnquiryMail.Server

open Enquiry (Courier)

/-- what a server is made with -/
structure Setup where
  config : Config.Mailer
  /-- proxies in front of it -/
  proxies : Number
  deriving Inhabited

/-- how a process ended: its code, and the log calls made by then, newest first -/
structure Ending where
  code : Nat
  calls : List Log.Timed

/-- a server over a state of its surroundings -/
structure State (σ : Type) where
  /-- all listeners asked for, the first one first -/
  listeners : List Listener
  /-- the listener that serves -/
  current : Option Nat
  /-- handlers of each signal -/
  handlers : Nat
  /-- starts and stops called so far -/
  calls : Nat
  /-- how they came out, newest first -/
  settled : List (Nat × Except String Unit)
  ended : Option Ending
  surroundings : σ

/-- signals that end a process -/
inductive Signal
  | terminate
  | interrupt
  deriving DecidableEq, Repr

/-- the name of a signal -/
def Signal.name : Signal → String
  | .terminate => "SIGTERM"
  | .interrupt => "SIGINT"

/-- what befalls a server -/
inductive Event
  | start
  | stop
  | install
  | signal (s : Signal)
  /-- the host has opened a listener -/
  | listening (n : Nat)
  | listenFailed (n : Nat) (message : String)
  /-- a request comes to a listener -/
  | accepted (n : Nat)
  | answered (n : Nat)
  /-- the host has closed a listener -/
  | closed (n : Nat)
  | closeFailed (n : Nat) (message : String)
  | advance (ms : Int)
  deriving DecidableEq, Repr

/-- the component of a server's log calls -/
def component : String := "server"

/-- milliseconds that a shutdown may take -/
def grace : Int := 5000

/-- where a server listens, as its log names it -/
def Setup.place (s : Setup) : String := s.config.server.host ++ ":" ++ s.config.server.port.toText

/-- the first line of a start -/
def Setup.greeting (s : Setup) : String :=
  "Relay " ++ s.config.smtp.relayName ++ " as " ++ s.config.smtp.username ++ "; enquiries to " ++
    String.intercalate ", " s.config.enquiry.recipients

/-- the interface that a listener serves -/
def Setup.app (s : Setup) : Http.App := ⟨s.config.enquiry, s.proxies⟩

namespace State

variable {σ : Type}

/-- a server that was never started -/
def initial (surroundings : σ) : State σ := ⟨[], none, 0, 0, [], none, surroundings⟩

/-- a listener serves -/
def isRunning (st : State σ) : Bool := st.current.isSome

/-- takes down a log call -/
def log (courier : Courier σ) (c : Log.Call) (st : State σ) : State σ :=
  { st with surroundings := courier.log c st.surroundings }

/-- the time -/
def now (courier : Courier σ) (st : State σ) : Time.Instant := (courier.world st.surroundings).now

/-- changes a listener -/
def onListener (n : Nat) (f : Listener → Listener) (st : State σ) : State σ :=
  { st with listeners := st.listeners.modify n f }

/-- puts a listener into a phase -/
def move (n : Nat) (phase : Phase) (st : State σ) : State σ := st.onListener n fun l => { l with phase }

/-- a call comes out -/
def settle (call : Nat) (r : Except String Unit) (st : State σ) : State σ :=
  { st with settled := (call, r) :: st.settled }

/-- how a call came out, once it has -/
def result? (st : State σ) (call : Nat) : Option (Except String Unit) := st.settled.lookup call

/-- the process ends, unless it has -/
def exit (courier : Courier σ) (code : Nat) (st : State σ) : State σ :=
  match st.ended with
  | some _ => st
  | none => { st with ended := some ⟨code, (courier.world st.surroundings).calls⟩ }

/-- the log calls that are seen, newest first -/
def seen (courier : Courier σ) (st : State σ) : List Log.Timed :=
  match st.ended with
  | some e => e.calls
  | none => (courier.world st.surroundings).calls

/-! ## Calls -/

/-- a start -/
def start (courier : Courier σ) (s : Setup) (st : State σ) : State σ :=
  let call := st.calls
  let st := { st with calls := call + 1 }
  match st.current with
  | some _ => st.settle call (.ok ())
  | none =>
    let st := st.log courier (Log.call component .info s.greeting [])
    { st with listeners := st.listeners ++ [.asked call (s.app.limiter (st.now courier))] }

/-- gives the current listener up for somebody who waits until it has closed -/
def giveUp (n : Nat) (closer : Closer) (st : State σ) : State σ :=
  { st.move n (.closing closer) with current := none }

/-- a stop -/
def stop (st : State σ) : State σ :=
  let call := st.calls
  let st := { st with calls := call + 1 }
  match st.current with
  | none => st.settle call (.ok ())
  | some n => st.giveUp n (.stop call)

/-- one handler takes a signal; tells whether there was nothing to stop -/
def shutDown (courier : Courier σ) (s : Signal) (st : State σ) : Bool × State σ :=
  let st := st.log courier (Log.call component .warn ("Received " ++ s.name ++ ", shutting down...") [])
  match st.current with
  | none => (true, st)
  | some n => (false, st.giveUp n (.shutdown (st.now courier + grace)))

/-- handlers take a signal one after another; tells whether one of them had nothing to stop -/
def shutDowns (courier : Courier σ) (s : Signal) : Nat → State σ → Bool × State σ
  | 0, st => (false, st)
  | k + 1, st =>
    let (idle, st) := st.shutDown courier s
    let (others, st) := shutDowns courier s k st
    (idle || others, st)

/-- a signal: a handler with nothing to stop ends the process as soon as all have taken it -/
def signal (courier : Courier σ) (s : Signal) (st : State σ) : State σ :=
  let (idle, st) := shutDowns courier s st.handlers st
  if idle then st.exit courier 0 else st

/-! ## What the host does -/

/-- a listener is open: it becomes the current one, and the start that waited comes out -/
def listening (courier : Courier σ) (s : Setup) (n : Nat) (st : State σ) : State σ :=
  match st.listeners[n]?.bind Listener.opener? with
  | some call =>
    let st := st.move n .serving
    let st := st.log courier
      (Log.call Http.component .info ("Mailer API listening on http://" ++ s.place) [])
    { st.settle call (.ok ()) with current := some n }
  | none => st

/-- a listener cannot be opened -/
def listenFailed (n : Nat) (message : String) (st : State σ) : State σ :=
  match st.listeners[n]?.bind Listener.opener? with
  | some call => (st.move n .closed).settle call (.error message)
  | none => st

/-- a listener has closed, which it can once all its requests are answered -/
def closed (courier : Courier σ) (n : Nat) (st : State σ) : State σ :=
  match (st.listeners[n]?.filter (·.handling = 0)).bind Listener.closer? with
  | some closer =>
    let st := (st.move n .closed).log courier (Log.call component .info "Mailer API stopped" [])
    match closer with
    | .stop call => st.settle call (.ok ())
    | .shutdown _ => st.exit courier 0
  | none => st

/-- a listener cannot be closed, and stays as it was -/
def closeFailed (courier : Courier σ) (n : Nat) (message : String) (st : State σ) : State σ :=
  match st.listeners[n]?.bind Listener.closer? with
  | some (.stop call) => (st.move n .serving).settle call (.error message)
  | some (.shutdown _) =>
    ((st.move n .serving).log courier (Log.failure component "Error during graceful shutdown" message [])).exit courier 0
  | none => st

/-- time passes; a shutdown that is due ends the process -/
def advance (courier : Courier σ) (ms : Int) (st : State σ) : State σ :=
  let st := { st with surroundings := courier.update (·.advance ms) st.surroundings }
  if st.listeners.any (Listener.isOverdue (st.now courier)) then st.exit courier 1 else st

/-! ## Runs -/

/-- what an event does -/
def step (courier : Courier σ) (s : Setup) (st : State σ) : Event → State σ
  | .start => st.start courier s
  | .stop => st.stop
  | .install => { st with handlers := st.handlers + 1 }
  | .signal name => st.signal courier name
  | .listening n => st.listening courier s n
  | .listenFailed n message => st.listenFailed n message
  | .accepted n => st.onListener n .accept
  | .answered n => st.onListener n .answered
  | .closed n => st.closed courier n
  | .closeFailed n message => st.closeFailed courier n message
  | .advance ms => st.advance courier ms

/-- what events do one after another -/
def run (courier : Courier σ) (s : Setup) (st : State σ) (events : List Event) : State σ :=
  events.foldl (step courier s) st

/-- the current listener answers a request; without one nobody does -/
def request (courier : Courier σ) (s : Setup) (r : Http.Request) (st : State σ) : Option Http.Response × State σ :=
  match st.current with
  | none => (none, st)
  | some n =>
    let st := st.step courier s (.accepted n)
    let limiter := (st.listeners[n]?.map (·.limiter)).getD (s.app.limiter (st.now courier))
    let (response, limiter, surroundings) := s.app.answer courier r limiter st.surroundings
    let st := { st with surroundings }.onListener n fun l => { l with limiter }
    (some response, st.step courier s (.answered n))

end State

end EnquiryMail.Server
