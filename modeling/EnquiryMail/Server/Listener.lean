/-
A listener: it opens, serves, closes and is closed. While it opens a start waits for it, and while it closes a stop or
a shutdown does; it has closed only when the requests it is handling are answered. Clients are counted per listener.
-/
import EnquiryMail.Http.Limiter

namespace EnquiryMail.Server

/-- who waits for a listener to close -/
inductive Closer
  | stop (call : Nat)
  /-- a shutdown, which ends the process at the latest when it is due -/
  | shutdown (due : Time.Instant)
  deriving DecidableEq, Repr

/-- how far a listener is -/
inductive Phase
  | opening (call : Nat)
  | serving
  | closing (closer : Closer)
  | closed
  deriving DecidableEq, Repr

/-- a listener -/
structure Listener where
  phase : Phase
  /-- requests that are not answered yet -/
  handling : Nat
  limiter : Http.Limiter
  deriving DecidableEq

namespace Listener

/-- a listener that a start has asked for, with its limit on clients -/
def asked (call : Nat) (limiter : Http.Limiter) : Listener := ⟨.opening call, 0, limiter⟩

/-- it listens, or has listened and has not finished closing -/
def isOpen (l : Listener) : Bool :=
  match l.phase with
  | .serving | .closing _ => true
  | .opening _ | .closed => false

/-- the start that waits for it -/
def opener? (l : Listener) : Option Nat :=
  match l.phase with
  | .opening call => some call
  | _ => none

/-- who waits for it to close -/
def closer? (l : Listener) : Option Closer :=
  match l.phase with
  | .closing closer => some closer
  | _ => none

/-- a request comes; only one that serves takes it -/
def accept (l : Listener) : Listener := if l.phase = .serving then { l with handling := l.handling + 1 } else l

/-- a request is answered -/
def answered (l : Listener) : Listener := { l with handling := l.handling - 1 }

/-- the shutdown that waits for it was due by now -/
def isOverdue (now : Time.Instant) (l : Listener) : Bool :=
  match l.closer? with
  | some (.shutdown due) => due ≤ now
  | _ => false

end Listener

end EnquiryMail.Server
