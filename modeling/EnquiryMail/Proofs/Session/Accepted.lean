/-
What a relay accepts. A payload is accepted by the reply that is read next after it was written, and so is a password,
the second of the two secret lines. A session is successful if and only if that reply has the code of an acceptance:
whatever else is said, before or behind it, does not make a success of a failure or the other way round.

- `nextReply?_last`: the last two stages of a plan are gone through if and only if the reply has their code.
- `sendMail_accepted`: a delivery gives a receipt if and only if the payload was accepted.
- `verifyRelay_accepted`: a try succeeds if and only if the password was accepted.
-/
import EnquiryMail.Proofs.Session.Agreement

namespace EnquiryMail.Smtp

open Mail (Message)
open Script (Runs)

/-- what follows the first exchange whose request has a property -/
def behindFirst (sent : Request → Bool) (us : List Exchange) : List Exchange :=
  (us.dropWhile fun e => !sent e.request).drop 1

/-- the reply that is read next -/
def nextReply? (us : List Exchange) : Option Reply := us.head?.bind Exchange.reply?

/-- the request writes a payload -/
def Request.isPayload : Request → Bool
  | .writeRaw _ => true
  | _ => false

/-- the request writes a secret line: the username or the password -/
def Request.isSecret : Request → Bool
  | .writeLine _ secret => secret
  | _ => false

/-- the reply to the payload -/
def payloadReply? (us : List Exchange) : Option Reply := nextReply? (behindFirst Request.isPayload us)

/-- the reply to the password, which is the second secret line -/
def passwordReply? (us : List Exchange) : Option Reply :=
  nextReply? (behindFirst Request.isSecret (behindFirst Request.isSecret us))

section Behind

variable {sent : Request → Bool} {us vs : List Exchange} {o : Option Failure}

theorem behindFirst_append (h : ∀ e ∈ us, sent e.request = false) :
    behindFirst sent (us ++ vs) = behindFirst sent vs := by
  rw [behindFirst, List.dropWhile_append_of_pos]
  · rfl
  · intro e he
    rw [h e he]
    rfl

theorem behindFirst_none (h : ∀ e ∈ us, sent e.request = false) : behindFirst sent us = [] := by
  rw [← List.append_nil us, behindFirst_append h]
  rfl

theorem behindFirst_cons {e : Exchange} (h : sent e.request = true) : behindFirst sent (e :: us) = us := by
  rw [behindFirst, List.dropWhile_cons_of_neg (by simp [h])]
  rfl

/-- what a plan does not ask for is not among the uses that keep to it -/
theorem Keeps.unsent {plan : List Stage} (h : Keeps plan us o)
    (hplan : ∀ stage ∈ plan, sent stage.request = false) : ∀ e ∈ us, sent e.request = false := by
  intro e he
  have hmem := h.requests_prefix.subset (List.mem_map_of_mem (f := Exchange.request) he)
  obtain ⟨stage, hstage, hrequest⟩ := List.mem_map.1 hmem
  rw [← hrequest]
  exact hplan stage hstage

/-- **The last two stages of a plan**, a write and a reply with a code, are gone through if and only if that reply is
read next; behind them comes no reply. -/
theorem nextReply?_last {write : Stage} {code : String} {kind : FailureKind} (hwrite : sent write.request = true)
    (h : Keeps [write, .reply code kind] us o) (hvs : nextReply? vs = none) :
    (nextReply? (behindFirst sent (us ++ vs))).map Reply.code = some code ↔ o = none := by
  cases h with
  | cut hx =>
    rw [List.singleton_append, behindFirst_cons hwrite, hvs]
    simp
  | @next _ _ x us _ hx hrest =>
    rw [List.cons_append, behindFirst_cons hwrite]
    cases hrest with
    | @cut _ _ y f hy =>
      cases y with
      | error m => simp [nextReply?, Exchange.reply?, Stage.reply]
      | ok r =>
        have hcode : r.code ≠ code := by
          intro hcode
          simp [Stage.reply, hcode] at hy
        simp [nextReply?, Exchange.reply?, Stage.reply, hcode]
    | @next _ _ y us' _ hy hend =>
      cases hend
      cases y with
      | error m => cases hy
      | ok r =>
        have hcode : r.code = code := by
          by_contra hcode
          simp [Stage.reply, hcode] at hy
        simp [nextReply?, Exchange.reply?, Stage.reply, hcode]

/-- what comes behind a plan: no reply at once, and nothing is sent that has the property -/
structure Trails (sent : Request → Bool) (vs : List Exchange) : Prop where
  unread : nextReply? vs = none
  unsent : ∀ e ∈ vs, sent e.request = false

/-- what has the property is written last in a plan, if it comes to that -/
theorem nextReply?_kept {opening : List Stage} {write : Stage} {code : String} {kind : FailureKind}
    (hopening : ∀ stage ∈ opening, sent stage.request = false) (hwrite : sent write.request = true)
    (h : Keeps (opening ++ [write, .reply code kind]) us o) (hvs : Trails sent vs) :
    (nextReply? (behindFirst sent (us ++ vs))).map Reply.code = some code ↔ o = none := by
  rcases h.parts with ⟨f, rfl, hcut⟩ | ⟨us₁, us₂, rfl, h₁, h₂⟩
  · rw [behindFirst_append (hcut.unsent hopening), behindFirst_none hvs.unsent]
    simp [nextReply?]
  · rw [List.append_assoc, behindFirst_append (h₁.unsent hopening)]
    exact nextReply?_last hwrite h₂ hvs.unread

theorem trails_close (hclose : sent .close = false) : Trails sent [⟨.close, ()⟩] := by
  refine ⟨rfl, ?_⟩
  intro e he
  obtain rfl := List.mem_singleton.1 he
  exact hclose

theorem Farewell.trails (h : Farewell vs) (hquit : sent (.writeLine "QUIT" false) = false) (hread : sent .read = false)
    (hclose : sent .close = false) : Trails sent (vs ++ [⟨.close, ()⟩]) := by
  cases h with
  | unwritten m => exact ⟨rfl, by simp [hquit, hclose]⟩
  | answered x => exact ⟨rfl, by simp [hquit, hread, hclose]⟩

end Behind

/-! ## Deliveries -/

/-- what a delivery does before the payload is announced -/
def Plan.opening (s : Settings) (m : Message) : List Stage :=
  Plan.handshake s ++ Plan.envelope s.sender m.recipient ++
    [.line "DATA" false, .reply "354" .dataRejected]

theorem Plan.opening_unsent (s : Settings) (m : Message) :
    ∀ stage ∈ Plan.opening s m, stage.request.isPayload = false := by
  simp [Plan.opening, Plan.handshake, Plan.envelope, Stage.line, Stage.reply, Stage.anyReply, Stage.upgrade,
    Stage.encrypted, Request.isPayload]

theorem Plan.delivery_some (s : Settings) (m : Message) (id payload : String) :
    Plan.delivery s m (some (id, payload)) = Plan.opening s m ++ [.raw payload, .reply "250" .messageRejected] := by
  simp [Plan.delivery, Plan.addressed, Plan.opening, Plan.transfer]

theorem delivered_accepted {s : Settings} {m : Message} {dating : Session.Dating} {composed : Option (String × String)}
    {us : List Exchange} {out : Except Failure Receipt} (h : Delivered s m dating composed us out) :
    (payloadReply? (us ++ [⟨.close, ()⟩])).map Reply.code = some "250" ↔ out.isOk = true := by
  have hclose : Trails Request.isPayload [⟨.close, ()⟩] := trails_close rfl
  -- a delivery that has composed nothing has no payload to write
  have hnone : ∀ {us o}, Keeps (Plan.delivery s m none) us o →
      (payloadReply? (us ++ [⟨.close, ()⟩])).map Reply.code ≠ some "250" := by
    intro us o hkeeps
    have hunsent : ∀ stage ∈ Plan.delivery s m none, stage.request.isPayload = false := by
      simp [Plan.delivery, Plan.addressed, Plan.handshake, Plan.envelope, Stage.line, Stage.reply, Stage.anyReply,
        Stage.upgrade, Stage.encrypted, Request.isPayload]
    rw [payloadReply?, behindFirst_append (hkeeps.unsent hunsent), behindFirst_none hclose.unsent]
    simp [nextReply?]
  rcases h.keeps with ⟨f, hkeeps, rfl⟩ | ⟨hkeeps, rfl, rfl⟩ | ⟨ws, vs, id, payload, r, rfl, hkeeps, rfl, -, hleft, rfl⟩
  · refine iff_of_false ?_ Bool.false_ne_true
    rcases composed with _ | ⟨id, payload⟩
    · exact hnone hkeeps
    · rw [Plan.delivery_some] at hkeeps
      rw [payloadReply?, nextReply?_kept (Plan.opening_unsent s m) rfl hkeeps hclose]
      exact Option.some_ne_none f
  · exact iff_of_false (hnone hkeeps) Bool.false_ne_true
  · rw [Plan.delivery_some] at hkeeps
    rw [List.append_assoc, payloadReply?,
      nextReply?_kept (Plan.opening_unsent s m) rfl hkeeps (hleft.trails rfl rfl rfl)]
    exact iff_of_true rfl rfl

/-- **A delivery gives a receipt if and only if the payload was accepted.** -/
theorem sendMail_accepted {s : Settings} {m : Message} {offset : Int} {dating : Session.Dating} {tr : List Exchange}
    {out : Except Failure Receipt} (h : Runs (sendMail s m offset dating) tr out) :
    (payloadReply? (uses tr)).map Reply.code = some "250" ↔ out.isOk = true := by
  rcases runs_sendMail h with ⟨f, -, huses, rfl⟩ | ⟨-, hover⟩
  · rw [huses]
    simp [payloadReply?, behindFirst, nextReply?, Except.isOk, Except.toBool]
  generalize uses tr = us at hover
  cases hover with
  | refused message => simp [payloadReply?, behindFirst, nextReply?, Request.isPayload, Except.isOk, Except.toBool]
  | absent => simp [payloadReply?, behindFirst, nextReply?, Request.isPayload, Except.isOk, Except.toBool]
  | closed hdelivered =>
    rw [List.cons_append, payloadReply?, ← List.singleton_append, behindFirst_append (by simp [Request.isPayload])]
    exact delivered_accepted hdelivered

/-! ## Tries -/

/-- what a handshake does before the username -/
def Plan.login (s : Settings) : List Stage := (Plan.handshake s).take 11

theorem Plan.login_unsent (s : Settings) : ∀ stage ∈ Plan.login s, stage.request.isSecret = false := by
  simp [Plan.login, Plan.handshake, Stage.line, Stage.reply, Stage.anyReply, Stage.upgrade, Stage.encrypted,
    Request.isSecret]

/-- the username comes in front of the password -/
theorem password_kept {s : Settings} {us vs : List Exchange} {o : Option Failure} (h : Keeps (Plan.handshake s) us o)
    (hvs : Trails Request.isSecret vs) :
    (passwordReply? (us ++ vs)).map Reply.code = some "235" ↔ o = none := by
  have hplan : Plan.handshake s = Plan.login s ++ (.line (base64 s.username) true ::
      ([.reply "334" .authUsername] ++ [.line (base64 s.password) true, .reply "235" .authFailed])) := rfl
  rw [hplan] at h
  unfold passwordReply?
  rcases h.parts with ⟨f, rfl, hcut⟩ | ⟨us₁, us₂, rfl, h₁, h₂⟩
  · rw [behindFirst_append (hcut.unsent (Plan.login_unsent s)), behindFirst_none hvs.unsent]
    simp [nextReply?, behindFirst]
  · rw [List.append_assoc, behindFirst_append (h₁.unsent (Plan.login_unsent s))]
    cases h₂ with
    | cut hx =>
      rw [List.singleton_append, behindFirst_cons rfl, behindFirst_none hvs.unsent]
      simp [nextReply?]
    | next hx hrest =>
      rw [List.cons_append, behindFirst_cons rfl]
      exact nextReply?_kept (by simp [Stage.reply, Request.isSecret]) rfl hrest hvs

/-- **A try succeeds if and only if the password was accepted.** -/
theorem verifyRelay_accepted {s : Settings} {tr : List Exchange} {out : Except Failure Acceptance}
    (h : Runs (verifyRelay s) tr out) :
    (passwordReply? (uses tr)).map Reply.code = some "235" ↔ out.isOk = true := by
  rcases runs_verifyRelay h with ⟨f, -, huses, rfl⟩ | ⟨-, hover⟩
  · rw [huses]
    simp [passwordReply?, behindFirst, nextReply?, Except.isOk, Except.toBool]
  generalize uses tr = us at hover
  cases hover with
  | refused message => simp [passwordReply?, behindFirst, nextReply?, Request.isSecret, Except.isOk, Except.toBool]
  | absent => simp [passwordReply?, behindFirst, nextReply?, Request.isSecret, Except.isOk, Except.toBool]
  | closed hsigned =>
    rw [List.cons_append, passwordReply?, ← List.singleton_append, behindFirst_append (by simp [Request.isSecret])]
    cases hsigned with
    | @cut _ f hkeeps =>
      refine iff_of_false ?_ Bool.false_ne_true
      intro haccepted
      exact Option.some_ne_none f ((password_kept hkeeps (trails_close rfl)).1 haccepted)
    | accepted hkeeps ha hleft =>
      rw [List.append_assoc]
      exact iff_of_true ((password_kept hkeeps (hleft.trails rfl rfl rfl)).2 rfl) rfl

end EnquiryMail.Smtp
