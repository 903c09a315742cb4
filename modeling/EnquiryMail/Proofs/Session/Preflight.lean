/-
The kinds of failure that are told before a channel is asked for. Settings and messages are looked at first, and that
is the only place where the two kinds about them come from: no answer of a channel means one of them.

- `problems_eq_nil`: when settings have no problem.
- `late_delivery`: the failures that answers to the uses of a delivery mean are of other kinds.
- `sendMail_failsWith`: so a message fails with one of the two kinds exactly when its settings, or else the message, have
  a problem, whatever the channel answers.
-/
import EnquiryMail.Proofs.Mail.Unbroken
import EnquiryMail.Proofs.Session.Conformance

namespace EnquiryMail.Smtp

open Mail (Message Unbroken hasBreak_eq_false)
open Script (Runs)

/-! ## Settings -/

theorem require_eq_nil_iff {ok : Bool} {p : Settings.Problem} : Settings.require ok p = [] ↔ ok = true := by
  cases ok <;> simp [Settings.require]

/-- settings have no problem exactly when every check passes -/
theorem problems_eq_nil {s : Settings} :
    s.problems = [] ↔
      (isBlankText s.host = false ∧ Settings.usablePort s.port = true ∧ Number.lt 0 s.connectTimeout.value = true ∧
        Number.lt 0 s.readTimeout.value = true ∧ s.username ≠ "" ∧ s.password ≠ "") ∧
      isBlankText s.sender = false ∧ ∀ field : Settings.Identity, Unbroken (s.identity field).toList := by
  have hall : ∀ field : Settings.Identity, field ∈ Settings.identities := by
    intro field
    cases field <;> decide
  simp only [Settings.problems, List.append_eq_nil_iff, List.flatMap_eq_nil_iff, require_eq_nil_iff, Bool.not_eq_true',
    bne_iff_ne, hasBreak_eq_false, hall, true_implies]
  tauto

/-! ## Kinds -/

/-- a kind that is told before a channel is asked for -/
def FailureKind.isEarly : FailureKind → Bool
  | .configuration => true
  | .invalidMessage => true
  | _ => false

/-- no answer to a use of the channel means a failure of an early kind -/
def Stage.Late (stage : Stage) : Prop := ∀ x f, stage.verdict x = some f → f.kind.isEarly = false

theorem isEarly_broken? {α : Type} {x : Except String α} {f : Failure} (h : Stage.broken? x = some f) :
    f.kind.isEarly = false := by
  cases x with
  | ok a => cases h
  | error m => cases h; rfl

theorem Stage.late_line (text : String) (secret : Bool) : (Stage.line text secret).Late := fun _ _ => isEarly_broken?

theorem Stage.late_raw (text : String) : (Stage.raw text).Late := fun _ _ => isEarly_broken?

theorem Stage.late_anyReply : Stage.anyReply.Late := fun _ _ => isEarly_broken?

theorem Stage.late_reply (code : String) {kind : FailureKind} (hkind : kind.isEarly = false) :
    (Stage.reply code kind).Late := by
  rintro (m | r) f h
  · cases h
    rfl
  · simp only [Stage.reply] at h
    split at h
    · cases h
    · cases h
      exact hkind

theorem Stage.late_upgrade : Stage.upgrade.Late := by
  rintro (m | u) f h
  · cases h
    rfl
  · cases h

theorem Stage.late_encrypted : Stage.encrypted.Late := by
  rintro (_ | _) f h
  · cases h
    rfl
  · cases h

/-- a failure that cuts a plan short is what an answer to one of its uses means -/
theorem Keeps.verdict {plan : List Stage} {us : List Exchange} {f : Failure} (h : Keeps plan us (some f)) :
    ∃ stage ∈ plan, ∃ x, stage.verdict x = some f := by
  generalize ho : some f = o at h
  induction h with
  | through => cases ho
  | @cut stage rest x g hx =>
    cases ho
    exact ⟨stage, List.mem_cons_self, x, hx⟩
  | next _ _ ih =>
    obtain ⟨stage, hmem, hx⟩ := ih ho
    exact ⟨stage, List.mem_cons_of_mem _ hmem, hx⟩

open Stage (late_line late_raw late_anyReply late_reply late_upgrade late_encrypted)

/-- **No use of the channel in a delivery ends it with an early kind.** -/
theorem late_delivery (s : Settings) (m : Message) (composed : Option (String × String)) :
    ∀ stage ∈ Plan.delivery s m composed, stage.Late := by
  have htransfer : ∀ stage ∈ composed.elim [] fun c => Plan.transfer c.2, stage.Late := by
    cases composed with
    | none => simp
    | some c =>
      simp only [Option.elim, Plan.transfer, List.forall_mem_cons, List.not_mem_nil, false_implies, implies_true,
        and_true]
      exact ⟨late_line _ _, late_reply _ rfl, late_raw _, late_reply _ rfl⟩
  have hhandshake : ∀ stage ∈ Plan.handshake s, stage.Late := by
    simp only [Plan.handshake, List.forall_mem_cons, List.not_mem_nil, false_implies, implies_true, and_true]
    exact ⟨late_reply _ rfl, late_line _ _, late_anyReply, late_line _ _, late_reply _ rfl, late_upgrade,
      late_encrypted, late_line _ _, late_anyReply, late_line _ _, late_reply _ rfl, late_line _ _, late_reply _ rfl,
      late_line _ _, late_reply _ rfl⟩
  have henvelope : ∀ stage ∈ Plan.envelope s.sender m.recipient, stage.Late := by
    simp only [Plan.envelope, List.forall_mem_cons, List.not_mem_nil, false_implies, implies_true, and_true]
    exact ⟨late_line _ _, late_reply _ rfl, late_line _ _, late_reply _ rfl⟩
  intro stage hstage
  rw [Plan.delivery, Plan.addressed, List.mem_append, List.mem_append] at hstage
  rcases hstage with (hstage | hstage) | hstage
  · exact hhandshake stage hstage
  · exact henvelope stage hstage
  · exact htransfer stage hstage

/-- a session over a channel does not fail with an early kind -/
theorem OverChannel.not_early {s : Settings} {m : Message} {dating : Session.Dating}
    {composed : Option (String × String)} {us : List Exchange} {f : Failure}
    (h : OverChannel (Delivered s m dating composed) us (.error f)) : f.kind.isEarly = false := by
  cases h with
  | refused m => rfl
  | absent => rfl
  | closed h =>
    rcases h.keeps with ⟨f, hkeeps, hf⟩ | ⟨-, -, hf⟩ | ⟨ws, vs, id, payload, r, -, -, -, -, -, hf⟩
    · cases hf
      obtain ⟨stage, hstage, x, hx⟩ := hkeeps.verdict
      exact late_delivery s m composed stage hstage x _ hx
    · cases hf
      rfl
    · cases hf

/-! ## Results -/

/-- a result is a failure of a kind -/
def FailsWith {α : Type} (kind : FailureKind) (out : Except Failure α) : Prop := ∃ f, out = .error f ∧ f.kind = kind

theorem failsWith_error {α : Type} {kind : FailureKind} {f : Failure} :
    FailsWith kind (.error f : Except Failure α) ↔ f.kind = kind := by
  simp [FailsWith]

theorem preflight_eq_some {s : Settings} (h : s.problems ≠ []) :
    ∃ f, preflight s = some f ∧ f.kind = .configuration := by
  refine ⟨_, if_neg ?_, rfl⟩
  simpa using h

theorem refusal_eq_some {m : Message} (h : m.problems ≠ []) : ∃ f, refusal m = some f ∧ f.kind = .invalidMessage := by
  refine ⟨_, if_neg ?_, rfl⟩
  simpa using h

/-- **The early kinds are about settings and messages alone.** Whatever is answered, sending a message fails with the
kind of the configuration exactly when the settings have a problem, and with the kind of the message exactly when the
settings have none and the message has one. -/
theorem sendMail_failsWith {s : Settings} {m : Message} {offset : Int} {dating : Session.Dating} {tr : List Exchange}
    {out : Except Failure Receipt} (h : Runs (sendMail s m offset dating) tr out) :
    (FailsWith .configuration out ↔ s.problems ≠ []) ∧
      (FailsWith .invalidMessage out ↔ s.problems = [] ∧ m.problems ≠ []) := by
  by_cases hs : s.problems = []
  case neg =>
    obtain ⟨f, hf, hkind⟩ := preflight_eq_some hs
    rcases runs_sendMail h with ⟨g, hg, -, rfl⟩ | ⟨hnone, -⟩
    · rw [hf, Option.some_or] at hg
      cases hg
      simp [failsWith_error, hkind, hs]
    · rw [hf] at hnone
      cases hnone
  by_cases hm : m.problems = []
  case neg =>
    obtain ⟨f, hf, hkind⟩ := refusal_eq_some hm
    rcases runs_sendMail h with ⟨g, hg, -, rfl⟩ | ⟨hnone, -⟩
    · rw [preflight_eq_none hs, Option.none_or, hf] at hg
      cases hg
      simp [failsWith_error, hkind, hs, hm]
    · rw [preflight_eq_none hs, Option.none_or, hf] at hnone
      cases hnone
  rcases runs_sendMail h with ⟨g, hg, -⟩ | ⟨-, hover⟩
  · rw [preflight_eq_none hs, refusal_eq_none hm] at hg
    cases hg
  have hlate : ∀ kind : FailureKind, kind.isEarly = true → ¬ FailsWith kind out := by
    rintro kind hearly ⟨f, rfl, rfl⟩
    rw [hover.not_early] at hearly
    cases hearly
  simp [hs, hm, hlate .configuration rfl, hlate .invalidMessage rfl]

end EnquiryMail.Smtp
