/-
Whose turn it is in a session. The relay speaks first; then every write of the session is followed by one read, and
nothing is asked of the channel any more once something has failed.

- `alternation_serves`: no session makes a use of its channel out of turn, whatever is answered.
- `InTurn`: a session all of whose runs keep to their turns and wait a bounded number of times; `inTurn_sendMail` and
  `inTurn_verifyRelay`: deliveries and tries are such sessions.
- `concludes_sendMail`, `concludes_verifyRelay`: behind a session the channel is not open.
-/
import EnquiryMail.Proofs.Session.Protocol

namespace EnquiryMail.Smtp

open Mail (Message)
open Script (Runs)

/-- whose turn it is; the mark says whether the channel has been upgraded -/
inductive Turn
  | unopened
  /-- the relay owes a reply -/
  | due (upgraded : Bool)
  /-- the session may write -/
  | free (upgraded : Bool)
  /-- something has failed -/
  | broken
  | closed

namespace Turn

/-- an answer leads on, or breaks the session off -/
def onward {α : Type} (ψ : Turn) : Except String α → Turn
  | .ok _ => ψ
  | .error _ => .broken

/-- the turn behind a request and its answer; none when the request is out of turn -/
def after : Turn → Exchange → Option Turn
  | φ, ⟨.log _, _⟩ => some φ
  | φ, ⟨.clock, _⟩ => some φ
  | φ, ⟨.freshId, _⟩ => some φ
  | .unopened, ⟨.openChannel, (x : Opening)⟩ => some (if x = .ready then .due false else .closed)
  | .due upgraded, ⟨.read, x⟩ => some (onward (.free upgraded) x)
  | .free upgraded, ⟨.writeLine _ _, x⟩ => some (onward (.due upgraded) x)
  | .free upgraded, ⟨.writeRaw _, x⟩ => some (onward (.due upgraded) x)
  | .free false, ⟨.startTls, x⟩ => some (onward (.free true) x)
  | .free upgraded, ⟨.isSecure, _⟩ => some (.free upgraded)
  | .due _, ⟨.close, _⟩ => some .closed
  | .free _, ⟨.close, _⟩ => some .closed
  | .broken, ⟨.close, _⟩ => some .closed
  | _, _ => none

/-- the channel is open -/
def isOpen : Turn → Bool
  | .due _ | .free _ | .broken => true
  | _ => false

theorem after_of_not_channel (φ : Turn) (e : Exchange) (h : e.request.ofChannel = false) : after φ e = some φ := by
  obtain ⟨r, x⟩ := e
  cases r <;> first | rfl | cases h

/-- the protocol in which writes and reads alternate -/
def alternation : Protocol Turn := ⟨after, isOpen, after_of_not_channel⟩

variable {upgraded : Bool} {χ : Turn}

theorem reaches_line {line : String} {secret : Bool} {plan : List Stage}
    (h : alternation.Reaches (.due upgraded) plan χ) :
    alternation.Reaches (.free upgraded) (.line line secret :: plan) χ := by
  refine Protocol.reaches_cons ?_ ?_ h
  · rintro (m | u) f - <;> exact ⟨_, rfl, rfl⟩
  · rintro (m | u) hx
    · cases hx
    · rfl

theorem reaches_raw {text : String} {plan : List Stage} (h : alternation.Reaches (.due upgraded) plan χ) :
    alternation.Reaches (.free upgraded) (.raw text :: plan) χ := by
  refine Protocol.reaches_cons ?_ ?_ h
  · rintro (m | u) f - <;> exact ⟨_, rfl, rfl⟩
  · rintro (m | u) hx
    · cases hx
    · rfl

theorem reaches_anyReply {plan : List Stage} (h : alternation.Reaches (.free upgraded) plan χ) :
    alternation.Reaches (.due upgraded) (.anyReply :: plan) χ := by
  refine Protocol.reaches_cons ?_ ?_ h
  · rintro (m | r) f - <;> exact ⟨_, rfl, rfl⟩
  · rintro (m | r) hx
    · cases hx
    · rfl

theorem reaches_reply {code : String} {kind : FailureKind} {plan : List Stage}
    (h : alternation.Reaches (.free upgraded) plan χ) :
    alternation.Reaches (.due upgraded) (.reply code kind :: plan) χ := by
  refine Protocol.reaches_cons ?_ ?_ h
  · rintro (m | r) f - <;> exact ⟨_, rfl, rfl⟩
  · rintro (m | r) hx
    · cases hx
    · rfl

theorem reaches_upgrade {plan : List Stage} (h : alternation.Reaches (.free true) plan χ) :
    alternation.Reaches (.free false) (.upgrade :: .encrypted :: plan) χ := by
  have hencrypted : alternation.Reaches (.free true) (.encrypted :: plan) χ :=
    Protocol.reaches_cons (fun x f _ => ⟨_, rfl, rfl⟩) (fun x _ => rfl) h
  refine Protocol.reaches_cons ?_ ?_ hencrypted
  · rintro (m | u) f - <;> exact ⟨_, rfl, rfl⟩
  · rintro (m | u) hx
    · cases hx
    · rfl

/-- a command with any reply, and one with a certain reply -/
theorem reaches_command {line : String} {secret : Bool} {plan : List Stage}
    (h : alternation.Reaches (.free upgraded) plan χ) :
    alternation.Reaches (.free upgraded) (.line line secret :: .anyReply :: plan) χ :=
  reaches_line (reaches_anyReply h)

theorem reaches_expected {line code : String} {secret : Bool} {kind : FailureKind} {plan : List Stage}
    (h : alternation.Reaches (.free upgraded) plan χ) :
    alternation.Reaches (.free upgraded) (.line line secret :: .reply code kind :: plan) χ :=
  reaches_line (reaches_reply h)

theorem reaches_handshake (s : Settings) {more : List Stage} (hmore : alternation.Reaches (.free true) more χ) :
    alternation.Reaches (.due false) (Plan.handshake s ++ more) χ :=
  reaches_reply <| reaches_command <| reaches_expected <| reaches_upgrade <| reaches_command <| reaches_expected <|
    reaches_expected <| reaches_expected hmore

/-- **Sessions keep to their turns.** -/
theorem alternation_serves (s : Settings) : alternation.Serves s .unopened (.due false) (.free true) where
  opens x := ⟨_, rfl, fun hx => if_pos hx⟩
  delivers m composed := by
    rw [Plan.delivery_handshake]
    refine reaches_handshake s (reaches_expected (reaches_expected ?_))
    cases composed with
    | none => exact Protocol.reaches_nil rfl
    | some c => exact reaches_expected (reaches_raw (reaches_reply (Protocol.reaches_nil rfl)))
  signsIn := by
    have h : alternation.Reaches (.due false) (Plan.handshake s ++ []) (.free true) :=
      reaches_handshake s (Protocol.reaches_nil rfl)
    rwa [List.append_nil] at h
  leaves vs h := by
    cases h with
    | unwritten m => exact ⟨.broken, rfl, rfl⟩
    | answered x => cases x <;> exact ⟨_, rfl, rfl⟩
  closes φ h := by cases φ <;> first | rfl | cases h

end Turn

/-! ## Sessions that wait a bounded number of times -/

/-- a request that time passes over -/
def Request.waits : Request → Bool
  | .openChannel | .read => true
  | _ => false

/-- the number of times that a transcript waits -/
def waited (tr : List Exchange) : Nat := (tr.map Exchange.request).countP Request.waits

theorem waited_cons (e : Exchange) (tr : List Exchange) :
    waited (e :: tr) = waited tr + if e.request.waits then 1 else 0 := List.countP_cons ..

/-- a session that keeps to its turns from one on, and waits a number of times at most -/
structure InTurn {α : Type} (φ : Turn) (left : Nat) (p : Script α) : Prop where
  obeys : Turn.alternation.Obeys φ p
  waits : ∀ tr a, Runs p tr a → waited tr ≤ left

/-- no session waits more often -/
def mostWaits : Nat := 13

theorem waited_uses (tr : List Exchange) : waited (uses tr) = waited tr := by
  induction tr with
  | nil => rfl
  | cons e tr ih =>
    cases h : e.request.ofChannel with
    | true => rw [uses_cons_of_channel tr h, waited_cons, waited_cons, ih]
    | false =>
      have hwaits : e.request.waits = false := by
        obtain ⟨r, x⟩ := e
        cases r <;> first | rfl | cases h
      rw [uses_cons_of_not_channel tr h, waited_cons, hwaits, ih]
      rfl

theorem waited_sendMail {s : Settings} {m : Message} {offset : Int} {dating : Session.Dating} {tr : List Exchange}
    {out : Except Failure Receipt} (h : Runs (sendMail s m offset dating) tr out) : waited tr ≤ mostWaits := by
  rw [← waited_uses]
  rcases runs_sendMail h with ⟨f, -, huses, -⟩ | ⟨-, hover⟩
  · rw [huses]; exact Nat.zero_le _
  · refine (hover.requests fun _ _ => Delivered.requests).countP_le.trans ?_
    cases composed? s m offset dating tr with
    | none => exact Nat.le_of_ble_eq_true rfl
    | some c => exact Nat.le_of_ble_eq_true rfl

theorem waited_verifyRelay {s : Settings} {tr : List Exchange} {out : Except Failure Acceptance}
    (h : Runs (verifyRelay s) tr out) : waited tr ≤ mostWaits := by
  rw [← waited_uses]
  rcases runs_verifyRelay h with ⟨f, -, huses, -⟩ | ⟨-, hover⟩
  · rw [huses]; exact Nat.zero_le _
  · exact (hover.requests fun _ _ => SignedIn.requests).countP_le.trans (Nat.le_of_ble_eq_true rfl)

theorem inTurn_sendMail (s : Settings) (m : Message) (offset : Int) (dating : Session.Dating) :
    InTurn .unopened mostWaits (sendMail s m offset dating) :=
  ⟨(Turn.alternation_serves s).obeys_sendMail m offset dating, fun _ _ => waited_sendMail⟩

theorem inTurn_verifyRelay (s : Settings) : InTurn .unopened mostWaits (verifyRelay s) :=
  ⟨(Turn.alternation_serves s).obeys_verifyRelay, fun _ _ => waited_verifyRelay⟩

/-- behind an answer a session is in the turn that it leads to, and may wait once less if it has waited -/
theorem InTurn.after {α : Type} {φ : Turn} {left : Nat} {r : Request} {next : r.Answer → Script α}
    (h : InTurn φ left (.ask r next)) (x : r.Answer) :
    ∃ ψ, Turn.after φ ⟨r, x⟩ = some ψ ∧ (r.waits = true → 1 ≤ left) ∧
      InTurn ψ (left - if r.waits then 1 else 0) (next x) := by
  obtain ⟨ψ, hafter, hobeys⟩ := h.obeys.after x
  have hwaits : ∀ tr a, Runs (next x) tr a → waited tr + (if r.waits then 1 else 0) ≤ left :=
    fun tr a hr => waited_cons ⟨r, x⟩ tr ▸ h.waits _ a (.ask x hr)
  refine ⟨ψ, hafter, fun hr => ?_, hobeys, fun tr a hrun => Nat.le_sub_of_add_le (hwaits tr a hrun)⟩
  obtain ⟨tr, a, hrun⟩ := Script.exists_runs (next x)
  have hleft := hwaits tr a hrun
  rw [if_pos hr] at hleft
  omega

/-! ## Sessions that close what they have opened -/

/-- a session behind which the channel is not open, whatever is answered -/
def Concludes {α : Type} (φ : Turn) (p : Script α) : Prop :=
  ∀ tr a, Runs p tr a → ∃ ψ, Turn.alternation.follow φ tr = some ψ ∧ ψ.isOpen = false

/-- behind an answer what is left of a session concludes from the turn that the answer leads to -/
theorem Concludes.after {α : Type} {φ : Turn} {r : Request} {next : r.Answer → Script α}
    (h : Concludes φ (.ask r next)) (x : r.Answer) : ∃ ψ, Turn.after φ ⟨r, x⟩ = some ψ ∧ Concludes ψ (next x) := by
  have hobeys : Turn.alternation.Obeys φ (.ask r next) := fun tr a hr => by
    obtain ⟨ψ, hfollow, -⟩ := h tr a hr
    exact Option.isSome_of_eq_some hfollow
  obtain ⟨ψ, hafter, -⟩ := hobeys.after x
  refine ⟨ψ, hafter, fun tr a hr => ?_⟩
  obtain ⟨χ, hfollow, hclosed⟩ := h _ a (.ask x hr)
  rw [Protocol.follow_cons, show Turn.alternation.after φ ⟨r, x⟩ = some ψ from hafter] at hfollow
  exact ⟨χ, hfollow, hclosed⟩

theorem Turn.follow_overChannel {α : Type} {During : List Exchange → Except Failure α → Prop}
    (hduring : ∀ us out, During us out → ∃ χ, alternation.follow (.due false) us = some χ ∧ χ.isOpen = true)
    {us : List Exchange} {out : Except Failure α} (h : OverChannel During us out) :
    alternation.follow .unopened us = some .closed := by
  cases h with
  | refused m => rfl
  | absent => rfl
  | closed h =>
    obtain ⟨χ, hfollow, hopen⟩ := hduring _ _ h
    have hclose : alternation.follow χ [⟨.close, ()⟩] = some .closed := by
      cases χ <;> first | rfl | cases hopen
    rw [List.cons_append, Protocol.follow_cons]
    show alternation.follow (.due false) _ = _
    rw [Protocol.follow_append, hfollow]
    exact hclose

theorem concludes_sendMail (s : Settings) (m : Message) (offset : Int) (dating : Session.Dating) :
    Concludes .unopened (sendMail s m offset dating) := by
  intro tr out h
  rw [← Protocol.follow_uses]
  rcases runs_sendMail h with ⟨f, -, huses, -⟩ | ⟨-, hover⟩
  · rw [huses]
    exact ⟨.unopened, rfl, rfl⟩
  · have hserves := Turn.alternation_serves s
    exact ⟨.closed, Turn.follow_overChannel (fun _ _ => hserves.follow_delivered) hover, rfl⟩

theorem concludes_verifyRelay (s : Settings) : Concludes .unopened (verifyRelay s) := by
  intro tr out h
  rw [← Protocol.follow_uses]
  rcases runs_verifyRelay h with ⟨f, -, huses, -⟩ | ⟨-, hover⟩
  · rw [huses]
    exact ⟨.unopened, rfl, rfl⟩
  · have hserves := Turn.alternation_serves s
    exact ⟨.closed, Turn.follow_overChannel (fun _ _ => hserves.follow_signedIn) hover, rfl⟩

end EnquiryMail.Smtp
