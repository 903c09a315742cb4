/-
The surroundings of a run: clock, local zone, environment, files, the count of identifiers made, and the log calls
made so far with their times. The clock moves only when something says so.

`log_now`: logging takes no time.
-/
import EnquiryMail.Environment
import EnquiryMail.Files
import EnquiryMail.Identifier
import EnquiryMail.Log.Entry

namespace EnquiryMail

/-- the surroundings of a run -/
structure World where
  now : Time.Instant
  /-- minutes east of the zero meridian -/
  offset : Int
  env : Environment
  files : Files
  directory : Path
  /-- identifiers made so far -/
  made : Nat
  /-- log calls, newest first -/
  calls : List Log.Timed
  deriving Inhabited

namespace World

/-- takes down a log call -/
def log (w : World) (c : Log.Call) : World := { w with calls := ⟨w.now, c⟩ :: w.calls }

/-- makes an identifier -/
def fresh (w : World) : String × World := (identifier (w.made + 1), { w with made := w.made + 1 })

/-- time passes -/
def advance (w : World) (ms : Int) : World := { w with now := w.now + ms }

theorem log_now (w : World) (c : Log.Call) : (w.log c).now = w.now := rfl

end World

end EnquiryMail
