/-
A host that opens and closes listeners as soon as it is asked to. It can be told to fail at the next opening or
closing, or never to close a listener again.
-/
import EnquiryMail.Server.Life

namespace EnquiryMail.Server

open Enquiry (Courier)

/-- what a host is told to do -/
structure Host where
  /-- the next opening fails so -/
  listenError : Option String
  /-- the next closing fails so -/
  closeError : Option String
  /-- closing never comes to an end -/
  hangs : Bool
  deriving Inhabited

namespace Host

variable {σ : Type}

/-- does what it is told to -/
def obedient : Host := ⟨none, none, false⟩

/-- what a host does with a listener, and what it is told to do from then on -/
def reaction (h : Host) (n : Nat) (l : Listener) : Option Event × Host :=
  match l.phase with
  | .opening _ =>
    match h.listenError with
    | some message => (some (.listenFailed n message), { h with listenError := none })
    | none => (some (.listening n), h)
  | .closing _ =>
    if h.hangs then (none, h)
    else
      match h.closeError with
      | some message => (some (.closeFailed n message), { h with closeError := none })
      | none => (some (.closed n), h)
  | .serving | .closed => (none, h)

/-- looks after listeners, which are given with their numbers -/
def look (courier : Courier σ) (s : Setup) : List (Listener × Nat) → Host → State σ → Host × State σ
  | [], h, st => (h, st)
  | (l, n) :: rest, h, st =>
    let (event, h) := h.reaction n l
    look courier s rest h (event.toList.foldl (State.step courier s) st)

/-- looks after all listeners -/
def react (courier : Courier σ) (s : Setup) (h : Host) (st : State σ) : Host × State σ :=
  look courier s st.listeners.zipIdx h st

end Host

end EnquiryMail.Server
