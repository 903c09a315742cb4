/-
The plan of a session: the uses of the channel in their order, each with the answers that deviate from it and the
failure that such an answer means. A plan is kept up to its end or up to the first answer that deviates (`Keeps`).

- `follows_handshake`, `follows_envelope`, `follows_transfer`: the three parts of a session keep to their plans,
  whatever is answered, and give the values that the replies read say.
- `Keeps.requests_prefix`: what is asked of the channel is a prefix of the plan.
-/
import EnquiryMail.Proofs.Session.Transcript
import EnquiryMail.Smtp.Session

namespace EnquiryMail.Smtp

/-! ## Plans -/

/-- one use of the channel, and the failure that an answer to it means, if it means one -/
structure Stage where
  request : Request
  verdict : request.Answer → Option Failure

namespace Stage

/-- the failure of a kind: what went wrong behind the words for its kind, and the text of the reply if one caused it -/
def failure (kind : FailureKind) (detail : String) (response : Option String) : Failure :=
  { kind, message := kind.opening ++ ": " ++ detail, response }

/-- an error of the channel is a transport failure -/
def broken? {α : Type} : Except String α → Option Failure
  | .ok _ => none
  | .error m => some (failure .transport m none)

/-- a command line -/
def line (text : String) (secret : Bool) : Stage := ⟨.writeLine text secret, broken?⟩

/-- a text as it is -/
def raw (text : String) : Stage := ⟨.writeRaw text, broken?⟩

/-- a reply with any code -/
def anyReply : Stage := ⟨.read, broken?⟩

/-- a reply with one code; another one means a failure of a kind, with the text of that reply -/
def reply (code : String) (kind : FailureKind) : Stage :=
  ⟨.read, fun
    | .ok r => if r.code = code then none else some (failure kind r.text (some r.text))
    | .error m => some (failure .transport m none)⟩

/-- the upgrade -/
def upgrade : Stage :=
  ⟨.startTls, fun
    | .ok _ => none
    | .error m => some (failure .tls m none)⟩

/-- the channel says that it is encrypted -/
def encrypted : Stage :=
  ⟨.isSecure, fun (secure : Bool) =>
    if secure then none else some (failure .tls "connection is not encrypted after STARTTLS" none)⟩

end Stage

/-- the uses of a channel keep to a plan: with no failure they go through all of it, with one they end behind the
first answer that means it -/
inductive Keeps : List Stage → List Exchange → Option Failure → Prop
  | through : Keeps [] [] none
  | cut {stage : Stage} {rest : List Stage} {x : stage.request.Answer} {f : Failure} (h : stage.verdict x = some f) :
      Keeps (stage :: rest) [⟨stage.request, x⟩] (some f)
  | next {stage : Stage} {rest : List Stage} {x : stage.request.Answer} {us : List Exchange} {o : Option Failure}
      (h : stage.verdict x = none) (hrest : Keeps rest us o) : Keeps (stage :: rest) (⟨stage.request, x⟩ :: us) o

namespace Keeps

theorem append_of_cut {plan : List Stage} {us : List Exchange} {f : Failure} (h : Keeps plan us (some f))
    (more : List Stage) : Keeps (plan ++ more) us (some f) := by
  generalize ho : some f = o at h
  induction h with
  | through => cases ho
  | cut hx => cases ho; exact .cut hx
  | next hx _ ih => exact .next hx (ih ho)

theorem append {plan more : List Stage} {us vs : List Exchange} {o : Option Failure} (h : Keeps plan us none)
    (hmore : Keeps more vs o) : Keeps (plan ++ more) (us ++ vs) o := by
  generalize hn : none = n at h
  induction h with
  | through => exact hmore
  | cut => cases hn
  | next hx _ ih => exact .next hx (ih hn)

/-- **What is asked of the channel is a prefix of the plan**, and all of it when nothing deviates. -/
theorem requests_prefix {plan : List Stage} {us : List Exchange} {o : Option Failure} (h : Keeps plan us o) :
    us.map Exchange.request <+: plan.map Stage.request := by
  induction h with
  | through => exact List.prefix_rfl
  | cut => exact List.prefix_iff_eq_append.2 rfl
  | next _ _ ih => exact List.cons_prefix_cons.2 ⟨rfl, ih⟩

theorem requests_all {plan : List Stage} {us : List Exchange} (h : Keeps plan us none) :
    us.map Exchange.request = plan.map Stage.request := by
  generalize ho : none = o at h
  induction h with
  | through => rfl
  | cut => cases ho
  | next _ _ ih => rw [List.map_cons, List.map_cons, ih ho]

end Keeps

namespace Plan

/-- greeting to password -/
def handshake (s : Settings) : List Stage :=
  [.reply "220" .greeting,
    .line ("EHLO " ++ s.ehloDomain) false, .anyReply,
    .line "STARTTLS" false, .reply "220" .startTls,
    .upgrade, .encrypted,
    .line ("EHLO " ++ s.ehloDomain) false, .anyReply,
    .line "AUTH LOGIN" false, .reply "334" .authMechanism,
    .line (base64 s.username) true, .reply "334" .authUsername,
    .line (base64 s.password) true, .reply "235" .authFailed]

/-- sender and recipient -/
def envelope (sender recipient : String) : List Stage :=
  [.line ("MAIL FROM:<" ++ sender ++ ">") false, .reply "250" .senderRejected,
    .line ("RCPT TO:<" ++ recipient ++ ">") false, .reply "250" .recipientRejected]

/-- the payload -/
def transfer (payload : String) : List Stage :=
  [.line "DATA" false, .reply "354" .dataRejected, .raw payload, .reply "250" .messageRejected]

end Plan

/-! ## Steps that follow a plan -/

variable {α β : Type}

/-- the uses in a transcript keep to a plan; a value goes with the replies read -/
def Kept (plan : List Stage) (V : List Reply → α → Prop) (tr : List Exchange) : Except Failure α → Prop
  | .ok a => Keeps plan (uses tr) none ∧ V (replies tr) a
  | .error f => Keeps plan (uses tr) (some f)

/-- a step keeps to a plan, whatever is answered, and takes nothing from the surroundings -/
def Follows (p : Step α) (plan : List Stage) (V : List Reply → α → Prop) : Prop :=
  ∀ tr out, Script.Runs p.run tr out → takings tr = [] ∧ Kept plan V tr out

theorem follows_pure {a : α} {V : List Reply → α → Prop} (h : V [] a) : Follows (pure a) [] V := by
  intro tr out hr
  obtain ⟨rfl, rfl⟩ := Step.runs_pure.1 hr
  exact ⟨rfl, .through, h⟩

/-- a log call is no use of the channel -/
theorem follows_noted {c : Prop} [Decidable c] {level : Log.Level} {message : String} {fields : Json.Fields}
    {k : Unit → Step β} {plan : List Stage} {V : List Reply → β → Prop} (hk : Follows (k ()) plan V) :
    Follows (if c then Session.note level message fields >>= k else k ()) plan V := by
  split
  · intro tr out hr
    rcases Step.runs_bind.1 hr with ⟨f, hf, rfl⟩ | ⟨t₁, a, t₂, rfl, h₁, h₂⟩
    · obtain ⟨x, -, h⟩ := Step.runs_ask.1 hf
      cases h
    · obtain ⟨x, rfl, -⟩ := Step.runs_ask.1 h₁
      exact hk t₂ out h₂
  · exact hk

/-- a use of the channel that goes on unless the answer means a failure -/
theorem follows_ask (stage : Stage) (hch : stage.request.ofChannel = true) {k : stage.request.Answer → Step β}
    {plan : List Stage} {V : List Reply → β → Prop} (hcut : ∀ x f, stage.verdict x = some f → k x = Step.fail f)
    (hnext : ∀ x, stage.verdict x = none → Follows (k x) plan fun rs b => V (replies [⟨stage.request, x⟩] ++ rs) b) :
    Follows (Step.ask stage.request >>= k) (stage :: plan) V := by
  intro tr out hr
  rcases Step.runs_bind.1 hr with ⟨f, hf, rfl⟩ | ⟨t₁, a, t₂, rfl, h₁, h₂⟩
  · obtain ⟨x, -, h⟩ := Step.runs_ask.1 hf
    cases h
  obtain ⟨x, rfl, hx⟩ := Step.runs_ask.1 h₁
  cases hx
  cases hv : stage.verdict a with
  | some f =>
    rw [hcut a f hv] at h₂
    obtain ⟨rfl, rfl⟩ := Step.runs_fail.1 h₂
    refine ⟨takings_cons_of_channel [] hch, ?_⟩
    show Keeps _ _ _
    rw [List.append_nil, uses_cons_of_channel [] hch]
    exact .cut hv
  | none =>
    obtain ⟨htaken, hmore⟩ := hnext a hv t₂ out h₂
    refine ⟨(takings_cons_of_channel t₂ hch).trans htaken, ?_⟩
    cases out with
    | ok b =>
      obtain ⟨hkeeps, hV⟩ := hmore
      refine ⟨?_, ?_⟩
      · rw [List.singleton_append, uses_cons_of_channel t₂ hch]; exact .next hv hkeeps
      · rw [replies_append]; exact hV
    | error f =>
      show Keeps _ _ _
      rw [List.singleton_append, uses_cons_of_channel t₂ hch]
      exact .next hv hmore

/-- a written line -/
theorem follows_line {text : String} {secret : Bool} {k : Unit → Step β} {plan : List Stage}
    {V : List Reply → β → Prop} (hk : Follows (k ()) plan V) :
    Follows (Step.ask (.writeLine text secret) >>= fun x => Step.orTransport x >>= k)
      (.line text secret :: plan) V := by
  refine follows_ask (.line text secret) rfl ?_ ?_
  · rintro (m | u) f hf <;> cases hf
    rfl
  · rintro (m | u) hx
    · cases hx
    · exact hk

/-- a reply, whatever its code -/
theorem follows_anyReply {k : Reply → Step β} {plan : List Stage} {V : List Reply → β → Prop}
    (hk : ∀ r, Follows (k r) plan fun rs b => V (r :: rs) b) :
    Follows (Step.ask .read >>= fun x => Step.orTransport x >>= k) (.anyReply :: plan) V := by
  refine follows_ask .anyReply rfl ?_ ?_
  · rintro (m | r) f hf <;> cases hf
    rfl
  · rintro (m | r) hx
    · cases hx
    · exact hk r

/-- a reply with a code -/
theorem follows_reply {code : String} {kind : FailureKind} {k : Reply → Step β} {plan : List Stage}
    {V : List Reply → β → Prop} (hk : ∀ r, Follows (k r) plan fun rs b => V (r :: rs) b) :
    Follows (Step.ask .read >>= fun x => Step.orTransport x >>= fun r => Session.expect r code kind >>= fun _ => k r)
      (.reply code kind :: plan) V := by
  refine follows_ask (.reply code kind) rfl ?_ ?_
  · rintro (m | r) f hf
    · cases hf; rfl
    · simp only [Stage.reply] at hf
      split at hf <;> cases hf
      rename_i hc
      show Session.expect r code kind >>= _ = _
      rw [Session.expect, if_neg hc]
      rfl
  · rintro (m | r) hx
    · cases hx
    · simp only [Stage.reply] at hx
      split at hx <;> cases hx
      rename_i hc
      show Follows (Session.expect r code kind >>= _) _ _
      rw [Session.expect, if_pos hc]
      exact hk r

/-- a command is a line written and a reply read -/
theorem command_bind (text : String) (secret : Bool) (k : Reply → Step β) :
    Session.command text secret >>= k = (Step.ask (.writeLine text secret) >>= fun x =>
      Step.orTransport x >>= fun _ => Step.ask .read >>= fun y => Step.orTransport y >>= k) := by
  show Script.ask _ _ = Script.ask _ _
  congr 1
  funext x
  cases x <;> rfl

theorem follows_command {text : String} {secret : Bool} {k : Reply → Step β} {plan : List Stage}
    {V : List Reply → β → Prop} (hk : ∀ r, Follows (k r) plan fun rs b => V (r :: rs) b) :
    Follows (Session.command text secret >>= k) (.line text secret :: .anyReply :: plan) V := by
  rw [command_bind]
  exact follows_line (follows_anyReply hk)

theorem follows_expected {text code : String} {secret : Bool} {kind : FailureKind} {k : Reply → Step β}
    {plan : List Stage} {V : List Reply → β → Prop} (hk : ∀ r, Follows (k r) plan fun rs b => V (r :: rs) b) :
    Follows (Session.command text secret >>= fun r => Session.expect r code kind >>= fun _ => k r)
      (.line text secret :: .reply code kind :: plan) V := by
  rw [command_bind]
  exact follows_line (follows_reply hk)

/-- the upgrade is asked for and then checked -/
theorem upgrade_bind (k : Unit → Step β) :
    Session.upgrade >>= k = Step.ask .startTls >>= fun
      | .error m => Step.fail (Failure.of .tls m)
      | .ok _ => Step.ask .isSecure >>= fun (secure : Bool) =>
        if secure then k () else Step.fail (Failure.of .tls "connection is not encrypted after STARTTLS") := by
  show Script.ask _ _ = Script.ask _ _
  congr 1
  funext x
  cases x with
  | error m => rfl
  | ok u =>
    show Script.ask _ _ = Script.ask _ _
    congr 1
    funext secure
    cases secure <;> rfl

theorem follows_upgrade {k : Unit → Step β} {plan : List Stage} {V : List Reply → β → Prop}
    (hk : Follows (k ()) plan V) : Follows (Session.upgrade >>= k) (.upgrade :: .encrypted :: plan) V := by
  rw [upgrade_bind]
  refine follows_ask .upgrade rfl ?_ ?_
  · rintro (m | u) f hf <;> cases hf
    rfl
  rintro (m | u) hx
  · cases hx
  refine follows_ask .encrypted rfl ?_ ?_
  · rintro (_ | _) f hf <;> cases hf
    rfl
  · rintro (_ | _) hx
    · cases hx
    · exact hk

/-! ## The parts of a session -/

/-- what the replies of a handshake say about the relay -/
def acceptanceOf (rs : List Reply) (a : Acceptance) : Prop :=
  ∃ greeting plain go offer login username answer, rs = [greeting, plain, go, offer, login, username, answer] ∧
    a = ⟨offer.capabilities, answer.text⟩

theorem follows_handshake (s : Settings) : Follows (Session.handshake s) (Plan.handshake s) acceptanceOf := by
  refine follows_reply fun greeting => ?_
  refine follows_command fun plain => ?_
  refine follows_noted ?_
  refine follows_expected fun go => ?_
  refine follows_upgrade ?_
  refine follows_command fun offer => ?_
  refine follows_noted ?_
  refine follows_expected fun login => ?_
  refine follows_expected fun username => ?_
  refine follows_expected fun answer => ?_
  exact follows_pure ⟨greeting, plain, go, offer, login, username, answer, rfl, rfl⟩

theorem follows_envelope (sender recipient : String) :
    Follows (Session.envelope sender recipient) (Plan.envelope sender recipient) fun rs _ => rs.length = 2 := by
  refine follows_expected fun r => ?_
  have h : Session.command ("RCPT TO:<" ++ recipient ++ ">") false >>= (Session.expect · "250" .recipientRejected) =
      Session.command ("RCPT TO:<" ++ recipient ++ ">") false >>= fun r' =>
        Session.expect r' "250" .recipientRejected >>= pure := by
    simp only [Step.bind_pure]
  rw [h]
  exact follows_expected (k := fun _ => pure ()) fun r' => follows_pure rfl

theorem follows_transfer (payload : String) :
    Follows (Session.transfer payload) (Plan.transfer payload) fun rs r => ∃ go, rs = [go, r] := by
  refine follows_expected fun go => ?_
  refine follows_ask (.raw payload) rfl ?_ ?_
  · rintro (m | u) f hf <;> cases hf
    rfl
  rintro (m | u) hx
  · cases hx
  refine follows_reply fun r => ?_
  exact follows_pure ⟨go, rfl⟩

end EnquiryMail.Smtp
