/-
What the mailer logs. Sessions, submissions and requests log calls whose fields can all be carried, whatever visitors
and relays write, so each call that passes makes an entry. What visitors and relays write is in the messages, though:
every line feed in it is a line on the console.

- `Courier.Keeps`: couriers whose mail logs only calls with a property.
- `heard_submit`, `heard_answer`: so do the submissions and requests over them.
- `Reached`, `tidy_networkStep`, `tidy_standinStep`: what has been done over a network or with a stand-in, and the calls
  behind it.
- `entries_counted`: calls and entries on the console, one by one and after any run.
- `entries_forged`: a submission that adds two lines, each like an entry of its own.
-/
import EnquiryMail.Http.App
import EnquiryMail.Proofs.Enquiry.Sendable
import EnquiryMail.Proofs.Log.Lines
import EnquiryMail.Proofs.Net.Calm

namespace EnquiryMail

/-- every log call so far has a property -/
def World.Heard (P : Log.Call → Prop) (w : World) : Prop := ∀ t ∈ w.calls, P t.call

theorem World.Heard.log {P : Log.Call → Prop} {w : World} (h : w.Heard P) {c : Log.Call} (hc : P c) :
    (w.log c).Heard P := List.forall_mem_cons.2 ⟨hc, h⟩

namespace Enquiry

open Mail (Message)

variable {σ : Type} {courier : Courier σ} {P : Log.Call → Prop}

/-- a courier whose surroundings take what they are given, and whose mail keeps a property of what is logged -/
structure Courier.Keeps (courier : Courier σ) (P : Log.Call → Prop) : Prop where
  update : ∀ f st, courier.world (courier.update f st) = f (courier.world st)
  send : ∀ m st, (courier.world st).Heard P → (courier.world (courier.send m st).2).Heard P

theorem keeps_network (smtp : Smtp.Settings) (hP : ∀ c : Log.Call, c.IsCalm → P c) :
    (networkCourier smtp).Keeps P where
  update _ _ := rfl
  send m n h := by
    have hheard : Net.Network.Heard P n.world.env n := ⟨rfl, h⟩
    unfold networkCourier
    dsimp only
    exact (Net.Network.heard_run hP (Smtp.asks_sendMail smtp m n.world.offset .clock) hheard smtp).calls

theorem keeps_standin (P : Log.Call → Prop) : standinCourier.Keeps P where
  update _ _ := rfl
  send m s h := by
    simp only [standinCourier]
    split <;> exact h

theorem Courier.Keeps.log (h : courier.Keeps P) {st : σ} (hst : (courier.world st).Heard P) {c : Log.Call} (hc : P c) :
    (courier.world (courier.log c st)).Heard P := by
  rw [Courier.log, h.update]
  exact hst.log hc

/-- deliveries log nothing but failures -/
theorem heard_deliver (h : courier.Keeps Log.Call.Tidy) (s : Settings) (e : Enquiry) (recipients : List String) {st : σ}
    (hst : (courier.world st).Heard Log.Call.Tidy) :
    (courier.world (deliver courier s e recipients st).2).Heard Log.Call.Tidy := by
  induction recipients generalizing st with
  | nil => exact hst
  | cons recipient rest ih =>
    have hsent := h.send (mailTo s e recipient) st hst
    rw [deliver]
    generalize courier.send (mailTo s e recipient) st = sent at hsent
    -- what is thrown ends the deliveries; of a failure one more call is logged before the rest
    obtain ⟨thrown | failure | receipt, st'⟩ := sent
    · exact hsent
    · exact ih (h.log hsent rfl)
    · exact ih hsent

/-- **What a submission logs** can be carried. -/
theorem heard_submit (h : courier.Keeps Log.Call.Tidy) (s : Settings) (input : Json) {st : σ}
    (hst : (courier.world st).Heard Log.Call.Tidy) :
    (courier.world (submit courier s input st).2).Heard Log.Call.Tidy := by
  have hanswered := answered_submit courier s input st
  generalize submit courier s input st = run at hanswered
  cases hanswered with
  | discarded => exact h.log hst rfl
  | rejected => exact h.log hst rfl
  | tried =>
    have hdeliver := heard_deliver h s (Submission.read input).enquiry s.recipients hst
    generalize deliver courier s (Submission.read input).enquiry s.recipients st = run at hdeliver
    fun_cases concluded
    · exact hdeliver
    · exact h.log hdeliver rfl
    · exact hdeliver

end Enquiry

namespace Http

open Enquiry (Courier networkCourier standinCourier Standin keeps_network keeps_standin heard_submit)

variable {σ : Type} {courier : Courier σ}

theorem heard_fresh (h : courier.Keeps Log.Call.Tidy) (r : Request) {st : σ}
    (hst : (courier.world st).Heard Log.Call.Tidy) :
    (courier.world (takeRequestId courier r st).2).Heard Log.Call.Tidy := by
  unfold takeRequestId
  split
  · exact hst
  · rw [Courier.fresh, h.update]
    exact hst

theorem heard_ofThrown (h : courier.Keeps Log.Call.Tidy) (id : String) (e : Enquiry.Thrown) {st : σ}
    (hst : (courier.world st).Heard Log.Call.Tidy) :
    (courier.world (ofThrown courier id e st).2).Heard Log.Call.Tidy := by
  unfold ofThrown
  split
  · exact hst
  · exact h.log hst rfl

theorem heard_answerRoute (h : courier.Keeps Log.Call.Tidy) (app : App) (r : Request) (path : List Char) (id : String)
    (document : Json) (l : Limiter) {st : σ} (hst : (courier.world st).Heard Log.Call.Tidy) :
    (courier.world (answerRoute courier app r path id document l st).2.2).Heard Log.Call.Tidy := by
  have hwithin : (courier.world (answerWithin courier app id document st).2.2).Heard Log.Call.Tidy := by
    have hsubmit := heard_submit h app.settings document hst
    unfold answerWithin
    generalize Enquiry.submit courier app.settings document st = run at hsubmit
    obtain ⟨e | outcome, st'⟩ := run
    · exact heard_ofThrown h id e hsubmit
    · exact hsubmit
  unfold answerRoute
  split
  · exact hst
  · unfold answerSubmission
    dsimp only
    split
    · exact hst
    · exact hwithin
  · exact hst
  · exact hst

/-- **What the answer to a request logs** can be carried. -/
theorem heard_answer (h : courier.Keeps Log.Call.Tidy) (app : App) (r : Request) (l : Limiter) {st : σ}
    (hst : (courier.world st).Heard Log.Call.Tidy) :
    (courier.world (app.answer courier r l st).2.2).Heard Log.Call.Tidy := by
  unfold App.answer
  split
  · unfold App.answerAt
    dsimp only
    have hfresh := heard_fresh h r hst
    split
    · exact h.log hfresh rfl
    · exact h.log (heard_answerRoute h app r _ _ _ l hfresh) rfl
  · exact hst

/-! ## Runs -/

open Net (Network)

/-- something is done over a network -/
inductive NetworkStep : Network → Network → Prop
  | send (s : Smtp.Settings) (m : Mail.Message) (offset : Int) (dating : Smtp.Session.Dating) (n : Network) :
      NetworkStep n ((Smtp.sendMail s m offset dating).run (Network.handle s) n).2
  | verify (s : Smtp.Settings) (n : Network) : NetworkStep n ((Smtp.verifyRelay s).run (Network.handle s) n).2
  | submit (smtp : Smtp.Settings) (s : Enquiry.Settings) (input : Json) (n : Network) :
      NetworkStep n (Enquiry.submit (networkCourier smtp) s input n).2
  | answer (smtp : Smtp.Settings) (app : App) (r : Request) (l : Limiter) (n : Network) :
      NetworkStep n (app.answer (networkCourier smtp) r l n).2.2
  /-- time passes -/
  | pass (ms : Int) (n : Network) : NetworkStep n { n with world := n.world.advance ms }

/-- something is done with a stand-in for the sender -/
inductive StandinStep : Standin → Standin → Prop
  | submit (s : Enquiry.Settings) (input : Json) (st : Standin) :
      StandinStep st (Enquiry.submit standinCourier s input st).2
  | answer (app : App) (r : Request) (l : Limiter) (st : Standin) :
      StandinStep st (app.answer standinCourier r l st).2.2
  /-- time passes -/
  | pass (ms : Int) (st : Standin) : StandinStep st { st with world := st.world.advance ms }

/-- a state that steps lead to, beginning with nothing logged -/
inductive Reached (world : σ → World) (step : σ → σ → Prop) : σ → Prop
  | start {st : σ} : (world st).calls = [] → Reached world step st
  | next {st st' : σ} : Reached world step st → step st st' → Reached world step st'

variable {P : Log.Call → Prop}

/-- what every step keeps, every run keeps -/
theorem Reached.heard {world : σ → World} {step : σ → σ → Prop}
    (hstep : ∀ st st', step st st' → (world st).Heard P → (world st').Heard P) {st : σ} (h : Reached world step st) :
    (world st).Heard P := by
  induction h with
  | start hfresh =>
    rw [World.Heard, hfresh]
    exact List.forall_mem_nil _
  | next _ hnext ih => exact hstep _ _ hnext ih

/-- **What is done over a network** logs tidy calls. -/
theorem tidy_networkStep {n n' : Network} (h : NetworkStep n n') (hn : n.world.Heard Log.Call.Tidy) :
    n'.world.Heard Log.Call.Tidy := by
  have hcalm : ∀ c : Log.Call, c.IsCalm → c.Tidy := fun _ hc => hc.tidy
  have hheard : Network.Heard Log.Call.Tidy n.world.env n := ⟨rfl, hn⟩
  cases h with
  | send s m offset dating => exact (Network.heard_run hcalm (Smtp.asks_sendMail s m offset dating) hheard s).calls
  | verify s => exact (Network.heard_run hcalm (Smtp.asks_verifyRelay s) hheard s).calls
  | submit smtp s input => exact heard_submit (keeps_network smtp hcalm) s input hn
  | answer smtp app r l => exact heard_answer (keeps_network smtp hcalm) app r l hn
  | pass ms => exact hn

/-- **What is done with a stand-in** logs tidy calls. -/
theorem tidy_standinStep {st st' : Standin} (h : StandinStep st st') (hst : st.world.Heard Log.Call.Tidy) :
    st'.world.Heard Log.Call.Tidy := by
  cases h with
  | submit s input => exact heard_submit (keeps_standin _) s input hst
  | answer app r l => exact heard_answer (keeps_standin _) app r l hst
  | pass ms => exact hst

/-- what a journal shows that has heard the calls of the surroundings counts those that passed -/
theorem counted_of_tidy {w : World} (h : w.Heard Log.Call.Tidy) {j : Log.Journal} {o : Log.Outputs} (hopen : j.Open o)
    (hconsole : j.console = []) (offset : Int) :
    Log.Counted o.format (w.calls.reverse.filter j.passes) (j.lines offset w.calls.reverse) := by
  rw [Log.Journal.lines_eq hopen, hconsole]
  refine Log.counted_written ?_ o.format o.stamps offset
  intro t ht
  exact h t (List.mem_reverse.1 (List.mem_filter.1 ht).1)

/-- **Entries on the console.** A call that passes leaves its entry and nothing else, unless its fields mark it as an
exception: as an object in one line, as text in the line that begins it and those below. What stands below is what its
component and its message go on with, and its stack, so it is just the stack exactly if they have no line feeds. After
anything that was done over a network or with a stand-in there are as many lines that begin an entry as calls that
passed, and as text also each line below that looks like one. -/
theorem entries_counted (j : Log.Journal) (o : Log.Outputs) (hopen : j.Open o) (offset : Int) :
    (∀ t : Log.Timed, j.passes t = true → j.Takes o offset t) ∧
    (∀ (c : Log.Call) (e : Log.Entry), c.Tidy → c.entry? = some e →
      e.below = c.below ∧ (c.below = c.stackLines ↔ '\n' ∉ c.saying)) ∧
    (∀ n, Reached Network.world NetworkStep n → j.console = [] →
      Log.Counted o.format (n.world.calls.reverse.filter j.passes) (j.lines offset n.world.calls.reverse)) ∧
    ∀ st, Reached Standin.world StandinStep st → j.console = [] →
      Log.Counted o.format (st.world.calls.reverse.filter j.passes) (j.lines offset st.world.calls.reverse) := by
  refine ⟨?_, ?_, ?_, ?_⟩
  · intro t ht
    exact Log.Journal.takes hopen offset ht
  · intro c e htidy he
    exact ⟨Log.below_of_tidy htidy he, Log.below_eq_stackLines⟩
  · intro n hn hconsole
    exact counted_of_tidy (hn.heard fun _ _ h hbefore => tidy_networkStep h hbefore) hopen hconsole offset
  · intro st hst hconsole
    exact counted_of_tidy (hst.heard fun _ _ h hbefore => tidy_standinStep h hbefore) hopen hconsole offset

/-- what a stand-in is left with when a plain form is posted -/
def afterPlain : Standin :=
  (Enquiry.submit standinCourier Enquiry.plainSettings Enquiry.plainForm Enquiry.plainStandin).2

/-- of a plain form one call passes, and there is one line -/
theorem entries_counted_plain :
    ∃ o, (Log.Journal.boot []).Open o ∧ o.format = .text ∧ Reached Standin.world StandinStep afterPlain ∧
      ∀ takes : List Char → Bool, (∀ line, Log.Opens line → takes line = true) →
        (((Log.Journal.boot []).lines 0 afterPlain.world.calls.reverse).flatMap Log.linesOf).countP takes = 1 := by
  obtain ⟨o, hopen⟩ := Log.Journal.open_boot []
  have hformat : o.format = .text := by
    have houtputs : (Log.Journal.boot []).outputs.map (·.format) = some .text := by decide +kernel
    rw [hopen.outputs] at houtputs
    exact Option.some.inj houtputs
  have hreached : Reached Standin.world StandinStep afterPlain := .next (.start rfl) (.submit _ _ _)
  refine ⟨o, hopen, hformat, hreached, fun takes htakes => ?_⟩
  have hcounted := (entries_counted (.boot []) o hopen 0).2.2.2 afterPlain hreached rfl
  have hpassing : (afterPlain.world.calls.reverse.filter (Log.Journal.boot []).passes).length = 1 := by decide +kernel
  have hbelow : (afterPlain.world.calls.reverse.filter (Log.Journal.boot []).passes).flatMap (·.call.below) = [] := by
    decide +kernel
  rw [hcounted.texts hformat takes htakes, hpassing, hbelow]
  rfl

/-- a form whose company goes on in a line of its own, as entries begin -/
def forgingForm : Json :=
  .obj [("name", .str "Ada"), ("email", .str "ada@example.org"),
    ("company", .str "Engines delivered\n INFO 1970-01-01 00:00:00,000 [enquiry] Enquiry from Forgers"),
    ("message", .str "We would like to talk.")]

/-- what a stand-in is left with when that form is posted -/
def forged : Standin :=
  (Enquiry.submit standinCourier Enquiry.plainSettings forgingForm Enquiry.plainStandin).2

/-- what stands on the console then -/
def forgedLines : List (List Char) :=
  [" INFO 1970-01-01 00:00:00,000 [enquiry] Enquiry from Engines delivered".toList,
    " INFO 1970-01-01 00:00:00,000 [enquiry] Enquiry from Forgers delivered".toList]

/-- **An entry can be forged**: of that form one call passes, and two lines look like entries. -/
theorem entries_forged :
    Reached Standin.world StandinStep forged ∧
      (forged.world.calls.reverse.filter (Log.Journal.boot []).passes).length = 1 ∧
      ((Log.Journal.boot []).lines 0 forged.world.calls.reverse).flatMap Log.linesOf = forgedLines ∧
      ∀ line ∈ forgedLines, Log.Opens line := by
  refine ⟨.next (.start rfl) (.submit _ _ _), by decide +kernel, by decide +kernel, ?_⟩
  have hfronts : ∀ line ∈ forgedLines, Log.opening .info (Log.stampOf .text .classic 0 0) <+: line := by decide +kernel
  intro line hline
  obtain ⟨rest, hrest⟩ := hfronts line hline
  exact ⟨.info, .text, .classic, 0, 0, rest, hrest.symm⟩

end Http

end EnquiryMail
