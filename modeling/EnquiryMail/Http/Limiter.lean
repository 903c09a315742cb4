/-
A limit on how often a client may do something: hits are counted in a window that begins with the first hit while
no window is open and has a fixed length. A hit that turns out not to count is taken back. Clients are swept at fixed
distances of time, and one that was not seen since the sweep before the last is forgotten.

`takeBack_hit`: a hit that is taken back leaves the count as it was while the window is open.
-/
import EnquiryMail.Http.Message
import EnquiryMail.Number.Shortest
import EnquiryMail.Time.Civil
import EnquiryMail.Time.Delay

namespace EnquiryMail.Http

/-- the hits of a client in its window; a window without end never closes -/
structure Window where
  hits : Nat
  ends : Option Time.Instant
  deriving DecidableEq, Repr

namespace Window

/-- the window has closed -/
def isOver (w : Window) (now : Time.Instant) : Bool := w.ends.any fun t => t ≤ now

/-- an empty window that opens now -/
def opened (now : Time.Instant) (length : Number) : Window :=
  ⟨0, Time.instant? (Number.add (Number.ofInt now) length)⟩

/-- one hit, in a new window if this one is over -/
def hit (w : Window) (now : Time.Instant) (length : Number) : Window :=
  let w := if w.isOver now then opened now length else w
  { w with hits := w.hits + 1 }

/-- seconds until the window closes, begun ones counted -/
def secondsLeft (w : Window) (now : Time.Instant) : Number :=
  match w.ends with
  | some t => Number.max 0 ((Number.ofInt (t - now)).scale (1 / 1000)).ceil
  | none => .nan

end Window

/-- a client that is remembered -/
structure Entry where
  window : Window
  /-- sweeps up to when it was last seen -/
  seen : Nat
  deriving DecidableEq, Repr

/-- the clients of a limit -/
structure Limiter where
  /-- the length of a window in milliseconds -/
  length : Number
  /-- when the sweeps began -/
  began : Time.Instant
  clients : List (String × Entry)
  deriving DecidableEq

namespace Limiter

/-- no client known, windows of a length, sweeps from now on -/
def opened (length : Number) (now : Time.Instant) : Limiter := ⟨length, now, []⟩

/-- sweeps up to now, one after each length of a window that an alarm can be set for -/
def sweeps (l : Limiter) (now : Time.Instant) : Nat := (now - l.began).toNat / Time.delayOf l.length

/-- the window of a client that is remembered -/
def find? (l : Limiter) (client : String) (now : Time.Instant) : Option Window :=
  ((l.clients.lookup client).filter fun e => l.sweeps now < e.seen + 2).map (·.window)

/-- gives a client that is seen now a window -/
def put (l : Limiter) (client : String) (now : Time.Instant) (w : Window) : Limiter :=
  { l with clients := (client, ⟨w, l.sweeps now⟩) :: l.clients.filter fun e => e.1 ≠ client }

/-- counts a hit of a client -/
def hit (l : Limiter) (client : String) (now : Time.Instant) : Window × Limiter :=
  let w := ((l.find? client now).getD (Window.opened now l.length)).hit now l.length
  (w, l.put client now w)

/-- takes a hit of a client back -/
def takeBack (l : Limiter) (client : String) (now : Time.Instant) : Limiter :=
  match l.find? client now with
  | some w => l.put client now { w with hits := w.hits - 1 }
  | none => l

/-- what a client is told about its window -/
def fields (limit length : Number) (w : Window) (now : Time.Instant) : Headers :=
  let left := w.secondsLeft now
  [("ratelimit-policy", limit.toText ++ ";w=" ++ ((length.scale (1 / 1000)).ceil).toText),
    ("ratelimit-limit", limit.toText),
    ("ratelimit-remaining", (Number.max (limit.sub (Number.ofInt w.hits)) 0).toText)] ++
  (if left.holds then [("ratelimit-reset", left.toText)] else [])

/-- the hits of a window are more than a limit -/
def isExceeded (limit : Number) (w : Window) : Bool := limit.lt (Number.ofInt w.hits)

theorem sweeps_put (l : Limiter) (client : String) (now : Time.Instant) (w : Window) :
    (l.put client now w).sweeps now = l.sweeps now := rfl

theorem find?_put (l : Limiter) (client : String) (now : Time.Instant) (w : Window) :
    (l.put client now w).find? client now = some w := by
  simp only [find?, sweeps_put]
  simp [put, Option.filter]

theorem takeBack_hit (l : Limiter) (client : String) (now : Time.Instant) (w : Window)
    (h : l.find? client now = some w) (hopen : w.isOver now = false) :
    ((l.hit client now).2.takeBack client now).find? client now = some w := by
  simp [hit, takeBack, find?_put, h, Window.hit, hopen]

end Limiter

end EnquiryMail.Http
