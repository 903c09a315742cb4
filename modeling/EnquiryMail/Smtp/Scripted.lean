/-
A channel that plays a script: what opening it gives, the outcome of each read in turn, whether the upgrade works and
whether it encrypts, and which write fails. It takes down what was done over it, in order.
-/
import EnquiryMail.Smtp.Script
import EnquiryMail.World

namespace EnquiryMail.Smtp

/-- what is done over a scripted channel -/
inductive Act
  | opened
  | line (text : String)
  | secret (text : String)
  | raw (text : String)
  | startTls
  | closed
  deriving DecidableEq, Repr

/-- a scripted channel -/
structure Scripted where
  opening : Opening
  replies : List (Except String (List String))
  tlsError : Option String
  staysPlain : Bool
  /-- the number of the write that fails, from 1, and the error -/
  writeError : Option (Int × String)
  writes : Nat
  secure : Bool
  /-- newest first -/
  acts : List Act
  world : World

namespace Scripted

/-- takes down an act -/
def record (c : Scripted) (a : Act) : Scripted := { c with acts := a :: c.acts }

/-- the next write: an error, or the act taken down -/
def write (c : Scripted) (a : Act) : Except String Unit × Scripted :=
  let n := c.writes + 1
  let c := { c with writes := n }
  match c.writeError with
  | some (k, m) => if k = n then (.error m, c) else (.ok (), c.record a)
  | none => (.ok (), c.record a)

/-- answers a session -/
def handle : Script.Handler Scripted
  | .openChannel, c => (c.opening, c.record .opened)
  | .read, c =>
    match c.replies with
    | [] => (.error "no more replies", c)
    | .ok lines :: rest => (.ok (Reply.ofLines lines), { c with replies := rest })
    | .error m :: rest => (.error m, { c with replies := rest })
  | .writeLine text secret, c => c.write (if secret then .secret text else .line text)
  | .writeRaw text, c => c.write (.raw text)
  | .startTls, c =>
    let c := c.record .startTls
    match c.tlsError with
    | some m => (.error m, c)
    | none => (.ok (), { c with secure := !c.staysPlain })
  | .isSecure, c => (c.secure, c)
  | .close, c => ((), c.record .closed)
  | .log l, c => ((), { c with world := c.world.log l })
  | .clock, c => (c.world.now, c)
  | .freshId, c =>
    let (id, w) := c.world.fresh
    (id, { c with world := w })

end Scripted

end EnquiryMail.Smtp
