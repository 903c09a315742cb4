/-
What a session does over a channel, whatever the channel answers. The uses of the channel are those of the plan, in
order, up to the first answer that deviates; then the channel is closed, once, if there was one. The result is decided
by that answer alone, and by the last reply when none deviates.

- `runs_sendMail`, `runs_verifyRelay`: sending a message, and signing in and leaving, for all answers that may come.
- `Delivered.keeps`: however a delivery ends, it has kept to its plan.
- `OverChannel.requests`: what may be asked of the channel at all.
- `delivery_conforms`: sending a valid message over any channel with valid settings.
-/
import EnquiryMail.Proofs.Session.Plan
import EnquiryMail.Smtp.Scripted

namespace EnquiryMail.Smtp

open Mail (Message)
open Script (Runs transcript)

/-! ## Results -/

/-- how a session says goodbye: the line is not written, or it is and something is read -/
inductive Farewell : List Exchange → Prop
  | unwritten (m : String) : Farewell [⟨.writeLine "QUIT" false, .error m⟩]
  | answered (x : Except String Reply) : Farewell [⟨.writeLine "QUIT" false, .ok ()⟩, ⟨.read, x⟩]

/-- the id and the payload that a delivery has composed, if it came to that and had an instant: its first taking is
the time at its start, then come the identifier and, unless the date is fixed, the time again. The header names that
time, or the instant that is fixed -/
def composed? (s : Settings) (m : Message) (offset : Int) (dating : Session.Dating) (tr : List Exchange) :
    Option (String × String) :=
  let message (uuid : String) (t : Time.Instant) : String × String :=
    let id := Mail.messageId uuid s.idDomain
    (id, Mail.payload ⟨Time.headerDate offset t, Mail.fromField s.senderName s.sender, id⟩ m)
  match dating, takings tr with
  | .clock, _ :: ⟨.freshId, uuid⟩ :: ⟨.clock, t⟩ :: _ => some (message uuid t)
  | .fixed (some t), _ :: ⟨.freshId, uuid⟩ :: _ => some (message uuid t)
  | _, _ => none

/-- the plan of a delivery up to the accepted recipient -/
def Plan.addressed (s : Settings) (m : Message) : List Stage :=
  Plan.handshake s ++ Plan.envelope s.sender m.recipient

/-- the plan of a delivery, up to what could be composed -/
def Plan.delivery (s : Settings) (m : Message) (composed : Option (String × String)) : List Stage :=
  Plan.addressed s m ++ composed.elim [] fun c => Plan.transfer c.2

/-- a delivery over an open channel: what it does, and its result. Once sender and recipient are accepted there is a
payload, and it is transferred; only a date that is fixed and is no instant ends the delivery there -/
inductive Delivered (s : Settings) (m : Message) (dating : Session.Dating) (composed : Option (String × String)) :
    List Exchange → Except Failure Receipt → Prop
  /-- the first answer that deviates ends it, before anything is to be composed -/
  | refused {us : List Exchange} {f : Failure} (h : Keeps (Plan.addressed s m) us (some f)) :
      Delivered s m dating composed us (.error f)
  /-- sender and recipient are accepted, but the date is fixed and is no instant -/
  | undated {us : List Exchange} (hd : dating = .fixed none) (hc : composed = none)
      (h : Keeps (Plan.addressed s m) us none) :
      Delivered s m dating composed us (.error (Stage.failure .transport "Invalid time value" none))
  /-- the first answer that deviates ends it, behind the composition -/
  | cut {us : List Exchange} {f : Failure} {id payload : String} (hc : composed = some (id, payload))
      (h : Keeps (Plan.addressed s m ++ Plan.transfer payload) us (some f)) :
      Delivered s m dating composed us (.error f)
  /-- nothing deviates -/
  | accepted {us vs : List Exchange} {id payload : String} {r : Reply} (hc : composed = some (id, payload))
      (h : Keeps (Plan.addressed s m ++ Plan.transfer payload) us none) (hr : (replies us).getLast? = some r)
      (hv : Farewell vs) : Delivered s m dating composed (us ++ vs) (.ok ⟨id, r.text⟩)

/-- signing in over an open channel and leaving: what is done, and the result -/
inductive SignedIn (s : Settings) : List Exchange → Except Failure Acceptance → Prop
  | cut {us : List Exchange} {f : Failure} (h : Keeps (Plan.handshake s) us (some f)) : SignedIn s us (.error f)
  | accepted {us vs : List Exchange} {a : Acceptance} (h : Keeps (Plan.handshake s) us none)
      (ha : acceptanceOf (replies us) a) (hv : Farewell vs) : SignedIn s (us ++ vs) (.ok a)

/-- a session over a channel of its own -/
inductive OverChannel {α : Type} (During : List Exchange → Except Failure α → Prop) :
    List Exchange → Except Failure α → Prop
  | refused (m : String) :
      OverChannel During [⟨.openChannel, .failed m⟩] (.error (Stage.failure .connection m none))
  | absent :
      OverChannel During [⟨.openChannel, .absent⟩] (.error (Stage.failure .transport "Connection is not open" none))
  | closed {us : List Exchange} {out : Except Failure α} (h : During us out) :
      OverChannel During (⟨.openChannel, .ready⟩ :: us ++ [⟨.close, ()⟩]) out

/-! ## Parts -/

theorem runs_exchange {line : String} {secret : Bool} {tr : List Exchange} {x : Except String Reply}
    (h : Runs (Session.exchange line secret) tr x) :
    (∃ m, tr = [⟨.writeLine line secret, .error m⟩] ∧ x = .error m) ∨
      tr = [⟨.writeLine line secret, .ok ()⟩, ⟨.read, x⟩] := by
  cases h with
  | ask y h =>
    cases y with
    | error m =>
      obtain ⟨rfl, rfl⟩ := Script.runs_done.1 h
      exact .inl ⟨m, rfl, rfl⟩
    | ok u =>
      obtain rfl := Script.runs_request.1 h
      exact .inr rfl

theorem runs_note {level : Log.Level} {message : String} {fields : Json.Fields} {tr : List Exchange}
    {out : Except Failure Unit} (h : Runs (Session.note level message fields).run tr out) :
    out = .ok () ∧ takings tr = [] ∧ uses tr = [] := by
  obtain ⟨x, rfl, rfl⟩ := Step.runs_ask.1 h
  exact ⟨rfl, rfl, rfl⟩

theorem runs_quit {tr : List Exchange} {out : Except Failure Unit} (h : Runs Session.quit.run tr out) :
    out = .ok () ∧ takings tr = [] ∧ Farewell (uses tr) := by
  rcases Step.runs_bind.1 h with ⟨f, hf, rfl⟩ | ⟨t₁, a, t₂, rfl, h₁, h₂⟩
  · obtain ⟨x, -, h⟩ := Step.runs_lift.1 hf
    cases h
  obtain ⟨x, hx, hax⟩ := Step.runs_lift.1 h₁
  cases hax
  have hrest : out = .ok () ∧ takings t₂ = [] ∧ uses t₂ = [] := by
    cases a with
    | ok r =>
      obtain ⟨rfl, rfl⟩ := Step.runs_pure.1 h₂
      exact ⟨rfl, rfl, rfl⟩
    | error m => exact runs_note h₂
  obtain ⟨rfl, htaken, huses⟩ := hrest
  rw [takings_append, uses_append, htaken, huses, List.append_nil, List.append_nil]
  rcases runs_exchange hx with ⟨m, rfl, -⟩ | rfl
  · exact ⟨rfl, rfl, .unwritten m⟩
  · exact ⟨rfl, rfl, .answered a⟩

/-- a step that keeps to a plan, and then the goodbye -/
theorem runs_leaving {α β : Type} {p : Step α} {plan : List Stage} {V : List Reply → α → Prop} (hp : Follows p plan V)
    {g : α → β} {tr : List Exchange} {out : Except Failure β}
    (h : Runs (p >>= fun a => Session.quit >>= fun _ => pure (g a)).run tr out) :
    takings tr = [] ∧ ((∃ f, out = .error f ∧ Keeps plan (uses tr) (some f)) ∨
      ∃ us vs a, uses tr = us ++ vs ∧ Keeps plan us none ∧ V (replies us) a ∧ Farewell vs ∧ out = .ok (g a)) := by
  rcases Step.runs_bind.1 h with ⟨f, hf, rfl⟩ | ⟨t₁, a, t₂, rfl, h₁, h₂⟩
  · obtain ⟨htaken, hkeeps⟩ := hp tr _ hf
    exact ⟨htaken, .inl ⟨f, rfl, hkeeps⟩⟩
  obtain ⟨htaken, hkeeps, hV⟩ := hp t₁ _ h₁
  rcases Step.runs_bind.1 h₂ with ⟨f, hf, rfl⟩ | ⟨t₃, u, t₄, rfl, h₃, h₄⟩
  · cases (runs_quit hf).1
  obtain ⟨-, htaken', hleft⟩ := runs_quit h₃
  obtain ⟨rfl, rfl⟩ := Step.runs_pure.1 h₄
  rw [List.append_nil, takings_append, uses_append, htaken, htaken']
  exact ⟨rfl, .inr ⟨uses t₁, uses t₃, a, rfl, hkeeps, replies_uses t₁ ▸ hV, hleft, rfl⟩⟩

/-- composing uses the channel for nothing, and gives what can be composed of its takings; it fails only for a date
that is fixed and is no instant, and then there is nothing to compose -/
theorem runs_compose {s : Settings} {m : Message} {offset : Int} {dating : Session.Dating} {tr : List Exchange}
    {out : Except Failure (String × String)} (h : Runs (Session.compose s m offset dating).run tr out)
    (started : Time.Instant) (more : List Exchange) :
    uses tr = [] ∧
      ((∃ c, out = .ok c ∧ composed? s m offset dating (⟨.clock, started⟩ :: (tr ++ more)) = some c) ∨
        out = .error (Stage.failure .transport "Invalid time value" none) ∧ dating = .fixed none ∧
          composed? s m offset dating (⟨.clock, started⟩ :: (tr ++ more)) = none) := by
  rcases Step.runs_bind.1 h with ⟨f, hf, rfl⟩ | ⟨t₁, uuid, t₂, rfl, h₁, h₂⟩
  · obtain ⟨x, -, h⟩ := Step.runs_ask.1 hf
    cases h
  obtain ⟨x, rfl, hx⟩ := Step.runs_ask.1 h₁
  cases hx
  rcases dating with _ | _ | t
  · rcases Step.runs_bind.1 h₂ with ⟨f, hf, rfl⟩ | ⟨t₃, t, t₄, rfl, h₃, h₄⟩
    · obtain ⟨x, -, h⟩ := Step.runs_ask.1 hf
      cases h
    obtain ⟨x, rfl, hx⟩ := Step.runs_ask.1 h₃
    cases hx
    obtain ⟨rfl, rfl⟩ := Step.runs_pure.1 h₄
    exact ⟨rfl, .inl ⟨_, rfl, rfl⟩⟩
  · obtain ⟨rfl, rfl⟩ := Script.runs_done.1 h₂
    exact ⟨rfl, .inr ⟨rfl, rfl, rfl⟩⟩
  · obtain ⟨rfl, rfl⟩ := Script.runs_done.1 h₂
    exact ⟨rfl, .inl ⟨_, rfl, rfl⟩⟩

/-- uses of the channel before the composition do not matter to it -/
theorem composed?_skip (s : Settings) (m : Message) (offset : Int) (dating : Session.Dating)
    (started : Time.Instant) {t₁ : List Exchange} (h : takings t₁ = []) (t₂ : List Exchange) :
    composed? s m offset dating (⟨.clock, started⟩ :: (t₁ ++ t₂)) =
      composed? s m offset dating (⟨.clock, started⟩ :: t₂) := by
  have htaken : takings (⟨.clock, started⟩ :: (t₁ ++ t₂)) = takings (⟨.clock, started⟩ :: t₂) := by
    show _ :: takings (t₁ ++ t₂) = _ :: takings t₂
    rw [takings_append, h, List.nil_append]
  simp only [composed?, htaken]

/-- a delivery behind the accepted recipient -/
theorem runs_addressed {s : Settings} {m : Message} {offset : Int} {dating : Session.Dating} {us tr : List Exchange}
    {out : Except Failure Receipt} (hus : Keeps (Plan.addressed s m) us none)
    (h : Runs (Session.compose s m offset dating >>= fun c => Session.transfer c.2 >>= fun reply =>
      Session.quit >>= fun _ => pure ⟨c.1, reply.text⟩ : Step Receipt).run tr out)
    (started : Time.Instant) (more : List Exchange) :
    Delivered s m dating (composed? s m offset dating (⟨.clock, started⟩ :: (tr ++ more))) (us ++ uses tr) out := by
  rcases Step.runs_bind.1 h with ⟨f, hf, rfl⟩ | ⟨t₁, c, t₂, rfl, h₁, h₂⟩
  · obtain ⟨huses, ⟨c, hc, -⟩ | ⟨hfail, hdating, hnone⟩⟩ := runs_compose hf started more
    · cases hc
    · cases hfail
      rw [huses, List.append_nil]
      exact .undated hdating hnone hus
  obtain ⟨huses, hcomposed⟩ := runs_compose h₁ started (t₂ ++ more)
  have hsome : composed? s m offset dating (⟨.clock, started⟩ :: (t₁ ++ t₂ ++ more)) = some c := by
    rcases hcomposed with ⟨c', hc, hsome⟩ | ⟨hfail, -, -⟩
    · cases hc
      rwa [List.append_assoc]
    · cases hfail
  rw [uses_append, huses, List.nil_append]
  obtain ⟨-, ⟨f, rfl, hkeeps⟩ | ⟨ws, vs, r, hws, hkeeps, ⟨go, hrs⟩, hleft, rfl⟩⟩ :=
    runs_leaving (follows_transfer c.2) h₂
  · exact .cut hsome (hus.append hkeeps)
  · have hlast : (replies (us ++ ws)).getLast? = some r := by
      rw [replies_append, hrs]
      simp
    rw [hws, ← List.append_assoc]
    exact .accepted hsome (hus.append hkeeps) hlast hleft

theorem runs_delivery {s : Settings} {m : Message} {offset : Int} {dating : Session.Dating} {tr : List Exchange}
    {out : Except Failure Receipt} (h : Runs (Session.delivery s m offset dating).run tr out)
    (started : Time.Instant) (more : List Exchange) :
    Delivered s m dating (composed? s m offset dating (⟨.clock, started⟩ :: (tr ++ more))) (uses tr) out := by
  rcases Step.runs_bind.1 h with ⟨f, hf, rfl⟩ | ⟨t₁, a, t₂, rfl, h₁, h₂⟩
  · obtain ⟨-, hkeeps⟩ := follows_handshake s tr _ hf
    exact .refused (hkeeps.append_of_cut _)
  obtain ⟨htaken₁, hplan₁, -⟩ := follows_handshake s t₁ _ h₁
  rcases Step.runs_bind.1 h₂ with ⟨f, hf, rfl⟩ | ⟨t₃, u, t₄, rfl, h₃, h₄⟩
  · obtain ⟨-, hkeeps⟩ := follows_envelope s.sender m.recipient t₂ _ hf
    rw [uses_append]
    exact .refused (hplan₁.append hkeeps)
  obtain ⟨htaken₃, hplan₃, -⟩ := follows_envelope s.sender m.recipient t₃ _ h₃
  have hskip : composed? s m offset dating (⟨.clock, started⟩ :: (t₁ ++ (t₃ ++ t₄) ++ more)) =
      composed? s m offset dating (⟨.clock, started⟩ :: (t₄ ++ more)) := by
    rw [List.append_assoc, composed?_skip s m offset dating started htaken₁, List.append_assoc,
      composed?_skip s m offset dating started htaken₃]
  rw [hskip, uses_append, uses_append, ← List.append_assoc]
  exact runs_addressed (hplan₁.append hplan₃) h₄ started more

/-! ## Whole sessions -/

/-- reporting a result is no use of the channel -/
theorem runs_overChannel {α : Type} {step : Step α} {report : Except Failure α → Script Unit}
    (hreport : ∀ out tr u, Runs (report out) tr u → uses tr = []) {tr : List Exchange} {out : Except Failure α}
    (h : Runs (Session.overChannel step report) tr out) :
    OverChannel (fun us o => ∃ t more, Runs step.run t o ∧ us = uses t ∧ tr = ⟨.openChannel, .ready⟩ :: (t ++ more))
      (uses tr) out := by
  obtain ⟨x, t₁, rfl, h₁⟩ := Script.runs_ask.1 h
  cases x with
  | failed m =>
    let r : Except Failure α := .error (Failure.of .connection m)
    replace h₁ : Runs ((report r).bind fun _ => Script.done r) t₁ out := h₁
    obtain ⟨t₂, u, t₃, rfl, h₂, h₃⟩ := Script.runs_bind.1 h₁
    obtain ⟨rfl, rfl⟩ := Script.runs_done.1 h₃
    have huses : uses (⟨.openChannel, .failed m⟩ :: (t₂ ++ [])) = [⟨.openChannel, .failed m⟩] := by
      rw [List.append_nil, uses_cons_of_channel _ rfl, hreport _ _ _ h₂]
    rw [huses]
    exact .refused m
  | absent =>
    let r : Except Failure α := .error (Failure.of .transport "Connection is not open")
    replace h₁ : Runs ((report r).bind fun _ => Script.done r) t₁ out := h₁
    obtain ⟨t₂, u, t₃, rfl, h₂, h₃⟩ := Script.runs_bind.1 h₁
    obtain ⟨rfl, rfl⟩ := Script.runs_done.1 h₃
    have huses : uses (⟨.openChannel, .absent⟩ :: (t₂ ++ [])) = [⟨.openChannel, .absent⟩] := by
      rw [List.append_nil, uses_cons_of_channel _ rfl, hreport _ _ _ h₂]
    rw [huses]
    exact .absent
  | ready =>
    replace h₁ : Runs (step.run.bind fun r => (report r).bind fun _ => (Script.request .close).bind fun _ =>
      Script.done r) t₁ out := h₁
    obtain ⟨t₂, o, t₃, rfl, h₂, h₃⟩ := Script.runs_bind.1 h₁
    obtain ⟨t₄, u, t₅, rfl, h₄, h₅⟩ := Script.runs_bind.1 h₃
    obtain ⟨v, t₆, rfl, h₆⟩ := Script.runs_ask.1 h₅
    obtain ⟨rfl, rfl⟩ := Script.runs_done.1 h₆
    have huses : uses (⟨.openChannel, .ready⟩ :: (t₂ ++ (t₄ ++ [⟨.close, v⟩]))) =
        ⟨.openChannel, .ready⟩ :: uses t₂ ++ [⟨.close, ()⟩] := by
      rw [uses_cons_of_channel _ rfl, uses_append, uses_append, hreport _ _ _ h₄]
      rfl
    rw [huses]
    exact .closed ⟨t₂, _, h₂, rfl, rfl⟩

theorem OverChannel.mono {α : Type} {P Q : List Exchange → Except Failure α → Prop}
    (h : ∀ us out, P us out → Q us out) {us : List Exchange} {out : Except Failure α} (hP : OverChannel P us out) :
    OverChannel Q us out := by
  cases hP with
  | refused m => exact .refused m
  | absent => exact .absent
  | closed hp => exact .closed (h _ _ hp)

/-- sending a message: refused before anything is asked for, or a session over a channel -/
theorem runs_sendMail {s : Settings} {m : Message} {offset : Int} {dating : Session.Dating} {tr : List Exchange}
    {out : Except Failure Receipt} (h : Runs (sendMail s m offset dating) tr out) :
    (∃ f, (preflight s).or (refusal m) = some f ∧ uses tr = [] ∧ out = .error f) ∨
      (preflight s).or (refusal m) = none ∧
        OverChannel (Delivered s m dating (composed? s m offset dating tr)) (uses tr) out := by
  unfold sendMail at h
  cases hf : (preflight s).or (refusal m) with
  | some f =>
    rw [hf] at h
    obtain ⟨x, t, rfl, h₁⟩ := Script.runs_ask.1 h
    obtain ⟨rfl, rfl⟩ := Script.runs_done.1 h₁
    exact .inl ⟨f, rfl, rfl, rfl⟩
  | none =>
    rw [hf] at h
    obtain ⟨t₀, started, t, rfl, h₀, h₁⟩ := Script.runs_bind.1 h
    obtain rfl := Script.runs_request.1 h₀
    refine .inr ⟨rfl, ?_⟩
    rw [List.singleton_append, uses_cons_of_not_channel t rfl]
    refine OverChannel.mono ?_ (runs_overChannel ?_ h₁)
    · rintro us o ⟨t', more, hrun, rfl, rfl⟩
      have hopen : takings [⟨.openChannel, .ready⟩] = [] := rfl
      have hskip := composed?_skip s m offset dating started hopen (t' ++ more)
      rw [List.singleton_append] at hskip
      rw [hskip]
      exact runs_delivery hrun started more
    · rintro (f | r) t' u hr
      · obtain ⟨x, t'', rfl, hr'⟩ := Script.runs_ask.1 hr
        obtain ⟨rfl, -⟩ := Script.runs_done.1 hr'
        rfl
      · obtain ⟨x, t'', rfl, hr'⟩ := Script.runs_ask.1 hr
        obtain ⟨y, t₃, rfl, hr''⟩ := Script.runs_ask.1 hr'
        obtain ⟨rfl, -⟩ := Script.runs_done.1 hr''
        rfl

theorem runs_signIn {s : Settings} {tr : List Exchange} {out : Except Failure Acceptance}
    (h : Runs (Session.signIn s).run tr out) : SignedIn s (uses tr) out := by
  obtain ⟨-, ⟨f, rfl, hkeeps⟩ | ⟨us, vs, a, hus, hkeeps, ha, hleft, rfl⟩⟩ :=
    runs_leaving (follows_handshake s) (g := id) h
  · exact .cut hkeeps
  · rw [hus]
    exact .accepted hkeeps ha hleft

/-- trying a relay out: refused before anything is asked for, or a session over a channel -/
theorem runs_verifyRelay {s : Settings} {tr : List Exchange} {out : Except Failure Acceptance}
    (h : Runs (verifyRelay s) tr out) :
    (∃ f, preflight s = some f ∧ uses tr = [] ∧ out = .error f) ∨
      preflight s = none ∧ OverChannel (SignedIn s) (uses tr) out := by
  unfold verifyRelay at h
  cases hf : preflight s with
  | some f =>
    rw [hf] at h
    obtain ⟨rfl, rfl⟩ := Script.runs_done.1 h
    exact .inl ⟨f, rfl, rfl, rfl⟩
  | none =>
    rw [hf] at h
    refine .inr ⟨rfl, OverChannel.mono ?_ (runs_overChannel ?_ h)⟩
    · rintro us o ⟨t, more, hrun, rfl, -⟩
      exact runs_signIn hrun
    · rintro (f | r) t u hr
      · obtain ⟨x, t', rfl, hr'⟩ := Script.runs_ask.1 hr
        obtain ⟨rfl, -⟩ := Script.runs_done.1 hr'
        rfl
      · obtain ⟨x, t', rfl, hr'⟩ := Script.runs_ask.1 hr
        obtain ⟨rfl, -⟩ := Script.runs_done.1 hr'
        rfl

/-! ## What may be asked -/

/-- the requests of a plan that is gone through, and of the goodbye -/
def Plan.requests (plan : List Stage) : List Request := plan.map Stage.request ++ [.writeLine "QUIT" false, .read]

theorem Keeps.requests {plan : List Stage} {us : List Exchange} {o : Option Failure} (h : Keeps plan us o) :
    (us.map Exchange.request).Sublist (Plan.requests plan) :=
  h.requests_prefix.sublist.trans (List.sublist_append_left _ _)

theorem Keeps.requests_left {plan : List Stage} {us vs : List Exchange} {o : Option Failure} (h : Keeps plan us o)
    (hv : Farewell vs) : ((us ++ vs).map Exchange.request).Sublist (Plan.requests plan) := by
  rw [List.map_append]
  refine h.requests_prefix.sublist.append ?_
  cases hv with
  | unwritten m => exact (List.prefix_append [_] [_]).sublist
  | answered x => exact List.Sublist.refl _

/-- the plan of a delivery begins with the handshake -/
theorem Plan.delivery_handshake (s : Settings) (m : Message) (composed : Option (String × String)) :
    Plan.delivery s m composed =
      Plan.handshake s ++ (Plan.envelope s.sender m.recipient ++ composed.elim [] fun c => Plan.transfer c.2) :=
  List.append_assoc ..

/-- however it ends, a delivery has kept to its plan: with a failure, or up to where something is to be composed and
cannot be, or through, with a goodbye behind it -/
theorem Delivered.keeps {s : Settings} {m : Message} {dating : Session.Dating} {composed : Option (String × String)}
    {us : List Exchange} {out : Except Failure Receipt} (h : Delivered s m dating composed us out) :
    (∃ f, Keeps (Plan.delivery s m composed) us (some f) ∧ out = .error f) ∨
      Keeps (Plan.delivery s m composed) us none ∧ composed = none ∧
        out = .error (Stage.failure .transport "Invalid time value" none) ∨
      ∃ ws vs id payload r, us = ws ++ vs ∧ Keeps (Plan.delivery s m composed) ws none ∧
        composed = some (id, payload) ∧ (replies ws).getLast? = some r ∧ Farewell vs ∧ out = .ok ⟨id, r.text⟩ := by
  cases h with
  | refused hk => exact .inl ⟨_, hk.append_of_cut _, rfl⟩
  | undated hd hc hk =>
    subst hc
    have hplan : Plan.delivery s m none = Plan.addressed s m := List.append_nil _
    exact .inr (.inl ⟨hplan ▸ hk, rfl, rfl⟩)
  | cut hc hk =>
    subst hc
    exact .inl ⟨_, hk, rfl⟩
  | accepted hc hk hr hv =>
    subst hc
    exact .inr (.inr ⟨_, _, _, _, _, rfl, hk, rfl, hr, hv, rfl⟩)

theorem Delivered.requests {s : Settings} {m : Message} {dating : Session.Dating}
    {composed : Option (String × String)} {us : List Exchange} {out : Except Failure Receipt}
    (h : Delivered s m dating composed us out) :
    (us.map Exchange.request).Sublist (Plan.requests (Plan.delivery s m composed)) := by
  rcases h.keeps with ⟨f, hk, -⟩ | ⟨hk, -⟩ | ⟨ws, vs, id, payload, r, rfl, hk, -, -, hv, -⟩
  · exact hk.requests
  · exact hk.requests
  · exact hk.requests_left hv

theorem SignedIn.requests {s : Settings} {us : List Exchange} {out : Except Failure Acceptance}
    (h : SignedIn s us out) : (us.map Exchange.request).Sublist (Plan.requests (Plan.handshake s)) := by
  cases h with
  | cut hk => exact hk.requests
  | accepted hk ha hv => exact hk.requests_left hv

/-- a session over a channel asks for the channel, for what it asks during it, and to close it -/
theorem OverChannel.requests {α : Type} {During : List Exchange → Except Failure α → Prop} {rs : List Request}
    (hduring : ∀ us out, During us out → (us.map Exchange.request).Sublist rs) {us : List Exchange}
    {out : Except Failure α} (h : OverChannel During us out) :
    (us.map Exchange.request).Sublist (.openChannel :: (rs ++ [.close])) := by
  cases h with
  | refused m => exact (List.nil_sublist _).cons_cons _
  | absent => exact (List.nil_sublist _).cons_cons _
  | closed h =>
    rw [List.cons_append, List.map_cons, List.map_append]
    exact ((hduring _ _ h).append (List.Sublist.refl _)).cons_cons _

/-! ## Valid deliveries -/

theorem preflight_eq_none {s : Settings} (h : s.problems = []) : preflight s = none := by
  rw [preflight, h]; rfl

theorem refusal_eq_none {m : Message} (h : m.problems = []) : refusal m = none := by
  rw [refusal, h]; rfl

/-- **A delivery conforms to its plan over every channel.** Whatever the channel answers, its uses are those of the
plan up to the first answer that deviates, then one close if there was a channel; and the result is the failure that
this answer means, or the receipt with the last reply. -/
theorem delivery_conforms {σ : Type} (handle : Script.Handler σ) (st : σ) (s : Settings) (m : Message) (offset : Int)
    (dating : Session.Dating) (hs : s.problems = []) (hm : m.problems = []) :
    let session := sendMail s m offset dating
    let tr := transcript handle session st
    OverChannel (Delivered s m dating (composed? s m offset dating tr)) (uses tr) (session.run handle st).1 := by
  intro session tr
  rcases runs_sendMail (Script.runs_transcript handle session st) with ⟨f, hf, -⟩ | ⟨-, h⟩
  · rw [preflight_eq_none hs, refusal_eq_none hm] at hf
    cases hf
  · exact h

/-- settings of a relay on the submission port -/
def Settings.submission : Settings :=
  { host := "relay.example", port := .number 587, username := "user", password := "pass", sender := "a@example.org"
    senderName := "", ehloDomain := "example.org", messageIdDomain := "", connectTimeout := .number 10000
    readTimeout := .number 10000, tls := ⟨true, none, none⟩ }

/-- a message whose body has a line with a dot only -/
def dottedMessage : Message := ⟨"b@example.net", "Hello", "One\n.\nTwo", "c@example.com"⟩

/-- a channel over which the relay does not know the recipient -/
def Scripted.unknownRecipient : Scripted :=
  { opening := .ready
    replies := [.ok ["220 ready"], .ok ["250-relay", "250 STARTTLS"], .ok ["220 go"],
      .ok ["250-relay", "250 AUTH LOGIN"], .ok ["334 VXNlcm5hbWU6"], .ok ["334 UGFzc3dvcmQ6"], .ok ["235 welcome"],
      .ok ["250 sender"], .ok ["550 no such user"]]
    tlsError := none, staysPlain := false, writeError := none, writes := 0, secure := false, acts := []
    world := ⟨0, 0, [], [], [], 0, []⟩ }

set_option maxRecDepth 20000 in
/-- the relay refuses the recipient of a valid message, and the delivery ends there -/
theorem delivery_conforms_unknownRecipient :
    Settings.submission.problems = [] ∧ dottedMessage.problems = [] ∧
      (let session := sendMail Settings.submission dottedMessage 0 (.fixed (some 0))
      let tr := transcript Scripted.handle session Scripted.unknownRecipient
      OverChannel (Delivered Settings.submission dottedMessage (.fixed (some 0))
        (composed? Settings.submission dottedMessage 0 (.fixed (some 0)) tr)) (uses tr)
        (session.run Scripted.handle Scripted.unknownRecipient).1 ∧
      (session.run Scripted.handle Scripted.unknownRecipient).1 =
        .error (Failure.ofReply .recipientRejected "550 no such user")) :=
  ⟨by decide, by decide,
    delivery_conforms Scripted.handle Scripted.unknownRecipient Settings.submission dottedMessage 0 (.fixed (some 0))
      (by decide) (by decide),
    rfl⟩

end EnquiryMail.Smtp
