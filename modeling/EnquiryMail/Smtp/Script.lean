/-
Mail sessions as programs. A session asks for things one at a time (open a channel, read a reply, write a line, …)
and goes on with the answer; what answers is a handler, so the same session runs over a scripted channel and over a
simulated network. A step of a session either gives a value or ends the session with a failure.

`run_bind`: running a composed session is running its parts in order.
-/
import EnquiryMail.Log.Entry
import EnquiryMail.Smtp.Failure
import EnquiryMail.Smtp.Reply

namespace EnquiryMail.Smtp

/-- what asking for a channel gives -/
inductive Opening
  | ready
  | absent
  | failed (message : String)
  deriving DecidableEq, Repr

/-- what a session asks for -/
inductive Request
  | openChannel
  | read
  | writeLine (line : String) (secret : Bool)
  | writeRaw (data : String)
  | startTls
  | isSecure
  | close
  | log (c : Log.Call)
  | clock
  | freshId

/-- the type of the answer to a request; what can fail answers with a value or with the text of an error -/
def Request.Answer : Request → Type
  | openChannel => Opening
  | read => Except String Reply
  | writeLine _ _ => Except String Unit
  | writeRaw _ => Except String Unit
  | startTls => Except String Unit
  | isSecure => Bool
  | close => Unit
  | log _ => Unit
  | clock => Time.Instant
  | freshId => String

/-- a session that gives a value -/
inductive Script (α : Type) : Type
  | done (a : α)
  | ask (r : Request) (next : r.Answer → Script α)

namespace Script

/-- goes on with the value of a session -/
def bind {α β : Type} : Script α → (α → Script β) → Script β
  | done a, f => f a
  | ask r next, f => ask r fun x => (next x).bind f

instance : Monad Script where
  pure := done
  bind := bind

/-- asks for one thing -/
def request (r : Request) : Script r.Answer := ask r done

/-- a handler answers a request and goes over to its next state -/
abbrev Handler (σ : Type) := (r : Request) → σ → r.Answer × σ

/-- runs a session -/
def run {σ α : Type} (handle : Handler σ) : Script α → σ → α × σ
  | done a, s => (a, s)
  | ask r next, s =>
    let (x, s') := handle r s
    run handle (next x) s'

theorem run_bind {σ α β : Type} (handle : Handler σ) (m : Script α) (f : α → Script β) (s : σ) :
    run handle (m.bind f) s = run handle (f (run handle m s).1) (run handle m s).2 := by
  induction m generalizing s with
  | done a => rfl
  | ask r next ih => exact ih _ _

end Script

/-- a step of a session: it may end the session with a failure -/
abbrev Step (α : Type) := ExceptT Failure Script α

namespace Step

/-- ends the session -/
def fail {α : Type} (f : Failure) : Step α := ExceptT.mk (Script.done (.error f))

/-- asks for something that cannot fail -/
def ask (r : Request) : Step r.Answer := ExceptT.lift (Script.request r)

/-- goes on with the value of an answer; an error of the channel is a transport failure -/
def orTransport {α : Type} : Except String α → Step α
  | .ok a => ExceptT.mk (Script.done (.ok a))
  | .error m => fail (Failure.of .transport m)

end Step

end EnquiryMail.Smtp
