/-
Sessions and the time. A session with a fixed date reads the clock only for what it logs: with other clock readings it
asks the same of its channel and ends with the same result. `Alike` relates two sessions in this way.

- `alike_bind`: parts that are alike make up sessions that are alike.
- `alike_self`: a session that does not read the clock is like itself.
- `alike_sendMail`, `alike_verifyRelay`: deliveries with a fixed date and tries are like themselves.
-/
import EnquiryMail.Proofs.Session.Conformance

namespace EnquiryMail.Smtp

open Mail (Message)
open Script (Runs)

variable {α β : Type}

/-- the second session does what the first one does, but for what it logs, when the clock reads differently -/
inductive Alike : Script α → Script α → Prop
  | done (a : α) : Alike (.done a) (.done a)
  | ask {r : Request} {next next' : r.Answer → Script α} (hr : r ≠ .clock) (h : ∀ x, Alike (next x) (next' x)) :
      Alike (.ask r next) (.ask r next')
  | clock {next next' : Request.clock.Answer → Script α} (h : ∀ t t', Alike (next t) (next' t')) :
      Alike (.ask .clock next) (.ask .clock next')
  | log {c c' : Log.Call} {next : (Request.log c).Answer → Script α} {next' : (Request.log c').Answer → Script α}
      (h : Alike (next ()) (next' ())) : Alike (.ask (.log c) next) (.ask (.log c') next')

theorem alike_bind {p q : Script α} {f g : α → Script β} (h : Alike p q) (hfg : ∀ a, Alike (f a) (g a)) :
    Alike (p.bind f) (q.bind g) := by
  induction h with
  | done a => exact hfg a
  | ask hr _ ih => exact .ask hr ih
  | clock _ ih => exact .clock ih
  | log _ ih => exact .log ih

/-- the clock is read first -/
theorem alike_timed {f g : Time.Instant → Script α} (h : ∀ t t', Alike (f t) (g t')) :
    Alike (Script.request .clock >>= f) (Script.request .clock >>= g) := .clock h

/-! ## Sessions that do not read the clock -/

/-- the clock is not read, whatever is answered -/
def Timeless (p : Script α) : Prop := ∀ tr a, Runs p tr a → ∀ e ∈ tr, e.request ≠ .clock

theorem alike_self {p : Script α} (h : Timeless p) : Alike p p := by
  induction p with
  | done a => exact .done a
  | ask r next ih =>
    have hnext : ∀ x, Timeless (next x) := fun x tr a hr e he => h _ a (.ask x hr) e (List.mem_cons_of_mem _ he)
    refine .ask ?_ fun x => ih x (hnext x)
    obtain ⟨tr, a, hr⟩ := Script.exists_runs (.ask r next)
    cases hr with
    | ask x hx => exact h _ a (.ask x hx) ⟨r, x⟩ List.mem_cons_self

theorem timeless_bind {p : Step α} {f : α → Step β} (hp : Timeless p.run) (hf : ∀ a, Timeless (f a).run) :
    Timeless (p >>= f).run := by
  intro tr out hr e he
  rcases Step.runs_bind.1 hr with ⟨x, hx, rfl⟩ | ⟨t₁, a, t₂, rfl, h₁, h₂⟩
  · exact hp tr _ hx e he
  · rcases List.mem_append.1 he with he | he
    · exact hp t₁ _ h₁ e he
    · exact hf a t₂ out h₂ e he

theorem timeless_pure (a : α) : Timeless (pure a : Step α).run := by
  intro tr out hr e he
  obtain ⟨rfl, -⟩ := Step.runs_pure.1 hr
  cases he

/-- what takes nothing from the surroundings does not read the clock -/
theorem ne_clock_of_takings {tr : List Exchange} (h : takings tr = []) : ∀ e ∈ tr, e.request ≠ .clock := by
  intro e he hclock
  have hmem : e ∈ takings tr := List.mem_filter.2 ⟨he, by rw [hclock]; rfl⟩
  rw [h] at hmem
  cases hmem

theorem timeless_follows {p : Step α} {plan : List Stage} {V : List Reply → α → Prop} (h : Follows p plan V) :
    Timeless p.run := fun tr out hr => ne_clock_of_takings (h tr out hr).1

theorem timeless_quit : Timeless Session.quit.run := fun _ _ hr => ne_clock_of_takings (runs_quit hr).2.1

theorem timeless_compose (s : Settings) (m : Message) (offset : Int) (t : Option Time.Instant) :
    Timeless (Session.compose s m offset (.fixed t)).run := by
  have hfresh : Timeless (Step.ask .freshId).run := by
    intro tr out hr e he
    obtain ⟨x, rfl, -⟩ := Step.runs_ask.1 hr
    obtain rfl := List.mem_singleton.1 he
    exact nofun
  refine timeless_bind hfresh fun uuid => ?_
  cases t with
  | none =>
    intro tr out hr e he
    obtain ⟨rfl, -⟩ := Script.runs_done.1 hr
    cases he
  | some t => exact timeless_pure _

theorem timeless_delivery (s : Settings) (m : Message) (offset : Int) (t : Option Time.Instant) :
    Timeless (Session.delivery s m offset (.fixed t)).run := by
  refine timeless_bind (timeless_follows (follows_handshake s)) fun _ => ?_
  refine timeless_bind (timeless_follows (follows_envelope s.sender m.recipient)) fun _ => ?_
  refine timeless_bind (timeless_compose s m offset t) fun c => ?_
  refine timeless_bind (timeless_follows (follows_transfer c.2)) fun r => ?_
  exact timeless_bind timeless_quit fun _ => timeless_pure _

theorem timeless_signIn (s : Settings) : Timeless (Session.signIn s).run := by
  refine timeless_bind (timeless_follows (follows_handshake s)) fun a => ?_
  exact timeless_bind timeless_quit fun _ => timeless_pure a

/-! ## Whole sessions -/

/-- a step that does not read the clock, and reports that are alike -/
theorem alike_overChannel {step : Step α} (hstep : Timeless step.run) {report report' : Except Failure α → Script Unit}
    (hreport : ∀ out, Alike (report out) (report' out)) :
    Alike (Session.overChannel step report) (Session.overChannel step report') := by
  have hended : ∀ out, Alike ((report out).bind fun _ => .done out) ((report' out).bind fun _ => .done out) :=
    fun out => alike_bind (hreport out) fun _ => .done out
  refine Alike.ask (r := .openChannel) nofun fun x => ?_
  cases x with
  | failed m => exact hended _
  | absent => exact hended _
  | ready =>
    show Alike (step.run.bind fun out => (report out).bind fun _ => (Script.request .close).bind fun _ => .done out)
      (step.run.bind fun out => (report' out).bind fun _ => (Script.request .close).bind fun _ => .done out)
    refine alike_bind (alike_self hstep) fun out => alike_bind (hreport out) fun _ => ?_
    exact Alike.ask (r := .close) nofun fun _ => .done out

/-- **A delivery with a fixed date** does not depend on the time. -/
theorem alike_sendMail (s : Settings) (m : Message) (offset : Int) (t : Option Time.Instant) :
    Alike (sendMail s m offset (.fixed t)) (sendMail s m offset (.fixed t)) := by
  unfold sendMail
  split
  · exact .log (.done _)
  · refine alike_timed fun started started' => ?_
    refine alike_overChannel (timeless_delivery s m offset t) fun out => ?_
    cases out with
    | ok r => exact .clock fun _ _ => .log (.done ())
    | error f => exact .log (.done ())

/-- **Trying a relay out** does not depend on the time. -/
theorem alike_verifyRelay (s : Settings) : Alike (verifyRelay s) (verifyRelay s) := by
  unfold verifyRelay
  split
  · exact .done _
  · refine alike_overChannel (timeless_signIn s) fun out => ?_
    cases out <;> exact .log (.done ())

end EnquiryMail.Smtp
