/-
A connection does not look at the credentials. Whatever it does, it does the same with its user name and its password
blotted out: the effects are the same, and the connection behind them is the one with both blotted out.

- `Blind`: a transition that does not look at the credentials; `Blind.andThen` puts transitions together.
- `blind_meets`, `blind_read`, `blind_startTls`, `blind_close`: no transition does.
-/
import EnquiryMail.Proofs.Connection.Holdings
import EnquiryMail.Proofs.Session.Parallel

namespace EnquiryMail.Smtp

open Text.Utf8 (Bytes)

/-- settings without their credentials -/
def Settings.masked (s : Settings) : Settings := s.signedAs "" ""

namespace Connection

/-- a connection without the credentials -/
def masked (c : Connection) : Connection := { c with settings := c.settings.masked }

/-- a transition that does not look at the credentials -/
def Blind (f : Connection → Outcome) : Prop := ∀ c, f c.masked = ((f c).1.masked, (f c).2)

variable {f g : Connection → Outcome}

theorem Blind.andThen (hf : Blind f) (hg : Blind g) : Blind fun c => andThen (f c) g := by
  intro c
  simp only [Connection.andThen, hf c, hg (f c).1]

/-- what is alike but for the credentials does alike -/
theorem Blind.alike (hf : Blind f) {c c' : Connection} (h : c.masked = c'.masked) :
    (f c).1.masked = (f c').1.masked ∧ (f c).2 = (f c').2 := by
  have hboth : ((f c).1.masked, (f c).2) = ((f c').1.masked, (f c').2) := by rw [← hf c, ← hf c', h]
  exact Prod.mk.inj hboth

/-! ## Transitions -/

variable (now : Int)

theorem blind_still : Blind fun c => (c, []) := fun _ => rfl

theorem blind_pushLine (line : String) : Blind (pushLine now line) := by
  intro c
  simp only [pushLine, masked]
  split
  · rfl
  · split <;> rfl

theorem blind_feedByte (b : UInt8) : Blind fun c => feedByte now c b := by
  intro c
  simp only [feedByte]
  split
  · exact blind_pushLine now _ { c with buffer := [] }
  · rfl

theorem blind_feed (bytes : Bytes) : Blind (feed now bytes) := by
  induction bytes with
  | nil => exact blind_still
  | cons b bytes ih =>
    have hcons : feed now (b :: bytes) = fun c => Connection.andThen (feedByte now c b) (feed now bytes) :=
      funext fun c => feed_cons now b bytes c
    rw [hcons]
    exact (blind_feedByte now b).andThen ih

theorem blind_pushLines (lines : List String) : Blind (pushLines now lines) := by
  induction lines with
  | nil => exact blind_still
  | cons line lines ih =>
    have hcons : pushLines now (line :: lines) =
        fun c => Connection.andThen (pushLine now line c) (pushLines now lines) :=
      funext fun c => pushLines_cons now line lines c
    rw [hcons]
    exact (blind_pushLine now line).andThen ih

theorem blind_reject (error : String) : Blind (reject error) := by
  intro c
  simp only [reject, masked]
  split <;> rfl

theorem blind_finish (error : String) : Blind (finish now error) := by
  intro c
  cases hended : c.ended with
  | some e =>
    have hend : c.ended ≠ none := by simp [hended]
    rw [finish_ended now error hend, finish_ended (c := c.masked) now error hend]
  | none =>
    rw [finish_eq now error hended, finish_eq (c := c.masked) now error hended]
    exact ((blind_pushLines now _).andThen (blind_reject error)) { c with buffer := [] }

theorem blind_read (id : Nat) : Blind (read now id) := by
  intro c
  simp only [read, masked]
  split
  · rfl
  · split <;> rfl

theorem blind_startTls (id : Nat) (anchor : Except String (Option String)) : Blind (startTls id anchor) := by
  intro c
  simp only [startTls]
  split <;> rfl

theorem blind_shaken (id : Nat) : Blind (shaken id) := by
  intro c
  have hfind : c.masked.upgrade? id = c.upgrade? id := rfl
  simp only [shaken, hfind]
  split
  · rfl
  · split <;> rfl

theorem blind_abandon (id : Nat) (error : String) : Blind (abandon id error) := by
  intro c
  have hfind : c.masked.upgrade? id = c.upgrade? id := rfl
  simp only [abandon, hfind]
  split <;> rfl

theorem blind_shakeFailed (id : Nat) (error : String) : Blind (shakeFailed now id error) := by
  intro c
  have hfind : c.masked.upgrade? id = c.upgrade? id := rfl
  simp only [shakeFailed, hfind]
  split
  · have htold : Blind fun c => (c, [Effect.disarm (.handshake id)]) := fun _ => rfl
    exact (htold.andThen (blind_abandon id error)) c
  · have hheard : c.masked.socket = c.socket := rfl
    rw [hheard]
    split
    · exact blind_finish now error c
    · rfl
  · rfl

theorem blind_alarm (a : Alarm) : Blind (alarm a) := by
  intro c
  cases a with
  | connect => rfl
  | handshake id => exact blind_abandon id _ c
  | read id => rfl

theorem blind_arrive (bytes : Bytes) : Blind (arrive now bytes) := by
  intro c
  have hsocket : c.masked.socket = c.socket := rfl
  simp only [arrive, hsocket]
  split
  · exact blind_feed now bytes c
  · rfl

theorem blind_hangUp (error : Option String) : Blind (hangUp now error) := by
  intro c
  have hsocket : c.masked.socket = c.socket := rfl
  simp only [hangUp, hsocket]
  split
  · exact blind_finish now _ { c with socket := { c.socket with live := false } }
  · rfl

theorem blind_close : Blind (close now) := by
  intro c
  have hshut : Blind fun c => ({ c with socket := { c.socket with live := false, heard := false } },
      if c.socket.live then [Effect.destroyed c.socket.layer] else []) := fun _ => rfl
  exact (hshut.andThen (blind_finish now _)) c

theorem blind_receive (layer : Layer) (packets : List Bytes) (ending : Option Net.Ending) :
    Blind (Net.Network.receive now layer packets ending) := by
  intro c
  have hsocket : c.masked.socket = c.socket := rfl
  simp only [Net.Network.receive, hsocket]
  split
  · refine ((blind_arrive now packets.flatten).andThen ?_) c
    rcases ending with _ | _ | m
    · exact blind_still
    · exact blind_hangUp now none
    · exact blind_hangUp now (some m)
  · rfl

/-- **Nothing that a connection meets with** makes it look at the credentials. -/
theorem blind_meets (x : Net.Coming) : Blind (meets now x) := by
  cases x with
  | alarm a => exact blind_alarm a
  | delivery layer packets ending => exact blind_receive now layer packets ending
  | shaken => exact blind_shaken 0
  | shakeFailed m => exact blind_shakeFailed now 0 m
  | accepted => exact blind_still
  | refused m => exact blind_still

end Connection

end EnquiryMail.Smtp
