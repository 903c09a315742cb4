/-
The end of a server. Whoever gives the current listener up, a stop or the first handler of a signal, waits until it has
closed, which it has once its requests are answered. Nobody else waits: a stop, or a handler, that comes after that
finds nothing to stop and takes the server to be down, though the listener may still be closing.

- `Finished`, `finished_run`: a listener that has closed, with all its requests answered, stays so.
- `stop_finishes`: a stop that gave a listener up comes out well only when the listener has finished.
- `Exits`, `ended_run`: what ends the process, and with which code.
- `closing_run`: a listener that closes for a signal was given up by it, and has five seconds from then.
- `shutdowns_finish`: all of it. `shutdowns_cut_short`: a second stop, and a second signal, that do not wait.
-/
import EnquiryMail.Proofs.Server.Listeners

namespace EnquiryMail.Server

open Enquiry (Courier)

/-- what is done to the surroundings is done to them as they are -/
def Faithful {σ : Type} (courier : Courier σ) : Prop :=
  ∀ f surroundings, courier.world (courier.update f surroundings) = f (courier.world surroundings)

theorem Listener.isOverdue_eq_true {l : Listener} {now : Time.Instant} :
    l.isOverdue now = true ↔ ∃ due, l.phase = .closing (.shutdown due) ∧ due ≤ now := by
  unfold Listener.isOverdue
  split
  · rename_i due hcloser
    rw [Listener.closer?_eq_some] at hcloser
    simp [hcloser]
  · rename_i hnot
    refine iff_of_false (by simp) ?_
    rintro ⟨due, hphase, -⟩
    exact hnot due (Listener.closer?_eq_some.2 hphase)

namespace State

variable {σ : Type} {courier : Courier σ} {s : Setup} {st : State σ} {e : Event}

/-- the listener with a number has closed, and its requests are answered -/
def Finished (st : State σ) (n : Nat) : Prop := ∃ l ∈ st.listeners[n]?, l.phase = .closed ∧ l.handling = 0

theorem Finished.phase {n : Nat} (h : st.Finished n) : st.phase? n = some .closed := by
  obtain ⟨l, hl, hphase, -⟩ := h
  exact phaseAt_eq_some.2 ⟨l, hl, hphase⟩

/-! ## Listeners that have finished -/

/-- a listener that has finished is not the one that moves -/
theorem Finished.move {n m : Nat} {p : Phase} (h : st.Finished n) (hm : st.phase? m = some p) (hopen : p ≠ .closed)
    (q : Phase) : (st.move m q).Finished n := by
  have hne : m ≠ n := by
    rintro rfl
    rw [h.phase] at hm
    exact hopen (Option.some.inj hm).symm
  obtain ⟨l, hl, hfinished⟩ := h
  refine ⟨l, ?_, hfinished⟩
  rw [Option.mem_def] at hl ⊢
  simp [State.move, State.onListener, hl, hne]

theorem Finished.onListener {n : Nat} (h : st.Finished n) (m : Nat) {f : Listener → Listener}
    (hf : ∀ l, l.phase = .closed → l.handling = 0 → (f l).phase = .closed ∧ (f l).handling = 0) :
    (st.onListener m f).Finished n := by
  obtain ⟨l, hl, hphase, hanswered⟩ := h
  rw [Option.mem_def] at hl
  by_cases hmn : m = n
  · refine ⟨f l, ?_, hf l hphase hanswered⟩
    simp [State.onListener, hl, hmn]
  · refine ⟨l, ?_, hphase, hanswered⟩
    simp [State.onListener, hl, hmn]

theorem finished_did {st₁ : State σ} (hs : st.Serves) (hdid : Did courier st e st₁) {n : Nat} (h : st.Finished n) :
    st₁.Finished n := by
  cases hdid with
  | nothing => exact h
  | startedBefore => exact h
  | asked limiter hcurrent =>
    obtain ⟨l, hl, hfinished⟩ := h
    refine ⟨l, ?_, hfinished⟩
    rw [Option.mem_def] at hl ⊢
    rw [List.getElem?_append_left (List.getElem?_eq_some_iff.1 hl).1, hl]
  | stoppedBefore => exact h
  | @stopping m hcurrent => exact h.move (hs m hcurrent) (by simp) _
  | installed => exact h
  | ignored => exact h
  | @shutting name m hhandlers hcurrent due hdue => exact h.move (hs m hcurrent) (by simp) _
  | opened hopening => exact h.move hopening (by simp) _
  | refused hopening => exact h.move hopening (by simp) _
  | accepted m =>
    refine h.onListener m ?_
    intro l hphase hanswered
    simp [Listener.accept, hphase, hanswered]
  | answered m =>
    refine h.onListener m ?_
    intro l hphase hanswered
    simp [Listener.answered, hphase, hanswered]
  | @closed m l closer hl hphase hanswered => exact h.move (phaseAt_eq_some.2 ⟨l, hl, hphase⟩) (by simp) _
  | kept hclosing => exact h.move hclosing (by simp) _

/-- a listener without requests that is closed has finished -/
theorem finished_move {n : Nat} {l : Listener} (hl : st.listeners[n]? = some l) (hanswered : l.handling = 0) :
    (st.move n .closed).Finished n := by
  refine ⟨{ l with phase := .closed }, ?_, rfl, hanswered⟩
  simp [State.move, State.onListener, hl]

/-- the host closes a listener only once its requests are answered -/
theorem finished_of_closed {st₁ : State σ} {n : Nat} (hdid : Did courier st (.closed n) st₁)
    (hopen : st.phase? n ≠ some .closed) (hn : st₁.phase? n = some .closed) : st₁.Finished n := by
  cases hdid with
  | nothing => exact absurd hn hopen
  | closed hl hphase hanswered => exact finished_move hl hanswered

theorem finished_of_alike {st' : State σ} {n : Nat} (h : st.Finished n) (halike : Alike st st') : st'.Finished n := by
  obtain ⟨l, hl, hfinished⟩ := h
  rw [← halike.listeners] at hl
  exact ⟨l, hl, hfinished⟩

theorem finished_step (courier : Courier σ) (s : Setup) (hs : st.Serves) (e : Event) {n : Nat} (h : st.Finished n) :
    (st.step courier s e).Finished n := by
  obtain ⟨st₁, hdid, halike⟩ := did_step courier s st e
  exact finished_of_alike (finished_did hs hdid h) halike

/-- **A listener that has finished stays so.** -/
theorem finished_run (courier : Courier σ) (s : Setup) (h : st.Ledger) {n : Nat} (hn : st.Finished n)
    (events : List Event) : (st.run courier s events).Finished n := by
  refine h.preserves (P := fun st => st.Finished n) hn ?_
  intro st hst hn e _
  exact finished_step courier s hst.serves e hn

/-- a listener that closes goes on, or the host closes or keeps it -/
theorem closing_step (courier : Courier σ) (s : Setup) (hs : st.Serves) (e : Event) {n : Nat} {closer : Closer}
    (h : st.phase? n = some (.closing closer)) :
    (st.step courier s e).phase? n = some (.closing closer) ∨
      e = .closed n ∧ (st.step courier s e).Finished n ∨ ∃ message, e = .closeFailed n message := by
  obtain ⟨st₁, hdid, halike⟩ := did_step courier s st e
  rcases becomes_did hs hdid n with hsame | ⟨p, hp, hbecomes⟩
  · left
    rw [phase?, halike.listeners]
    exact hsame.trans h
  · rw [h] at hbecomes
    cases hbecomes with
    | closed =>
      have hopen : st.phase? n ≠ some .closed := by
        rw [h]
        simp
      exact .inr (.inl ⟨rfl, finished_of_alike (finished_of_closed hdid hopen hp) halike⟩)
    | kept => exact .inr (.inr ⟨_, rfl⟩)

/-! ## Stops -/

/-- how far a stop is that gave a listener up: the listener closes, has finished, or could not be closed -/
inductive Stopping (st : State σ) (n call : Nat) : Prop
  | closing (h : st.phase? n = some (.closing (.stop call)))
  | finished (h : st.Finished n)
  | kept (message : String) (h : st.result? call = some (.error message))

theorem stopping_step (courier : Courier σ) (s : Setup) (hledger : st.Ledger) (e : Event) {n call : Nat}
    (h : st.Stopping n call) : (st.step courier s e).Stopping n call := by
  cases h with
  | closing h =>
    rcases closing_step courier s hledger.serves e h with hclosing | ⟨-, hfinished⟩ | ⟨message, rfl⟩
    · exact .closing hclosing
    · exact .finished hfinished
    · refine .kept message ?_
      simp only [step, closeFailed, closer?_iff_phase.2 h]
      exact List.lookup_cons_self
  | finished h => exact .finished (finished_step courier s hledger.serves e h)
  | kept message h => exact .kept message (result?_step hledger h)

theorem step_stop (courier : Courier σ) (s : Setup) (hs : st.Serves) {n : Nat} (h : st.current = some n) :
    (st.step courier s .stop).phase? n = some (.closing (.stop st.calls)) := by
  have hstop : st.step courier s .stop = ({ st with calls := st.calls + 1 } : State σ).giveUp n (.stop st.calls) := by
    simp only [step, stop, h]
  have hserving : ({ st with calls := st.calls + 1 } : State σ).phase? n = some .serving := hs n h
  rw [hstop]
  exact phase?_moved hserving

/-- **A stop that gave a listener up comes out well only when the listener has finished.** -/
theorem stop_finishes (hledger : st.Ledger) {n : Nat} (h : st.current = some n) (later : List Event)
    (hresult : (st.run courier s (.stop :: later)).result? st.calls = some (.ok ())) :
    (st.run courier s (.stop :: later)).Finished n := by
  rw [run_cons] at hresult ⊢
  have hgiven : (st.step courier s .stop).Ledger := ledger_step courier s hledger .stop
  have hstopping : ((st.step courier s .stop).run courier s later).Stopping n st.calls := by
    refine hgiven.preserves (P := fun st' => st'.Stopping n st.calls) ?_ ?_
    · exact .closing (step_stop courier s hledger.serves h)
    · intro st' hst' hstopping e _
      exact stopping_step courier s hst' e hstopping
  have hrun := ledger_run courier s hgiven later
  cases hstopping with
  | closing hclosing =>
    rw [(hrun.waiting n st.calls ⟨_, hclosing, rfl⟩).2] at hresult
    cases hresult
  | finished hfinished => exact hfinished
  | kept message herror =>
    rw [herror] at hresult
    cases hresult

/-! ## The end of the process -/

/-- the events that end the process, and its code then -/
inductive Exits (courier : Courier σ) (s : Setup) (st : State σ) : Event → Nat → Prop
  /-- a handler finds nothing to stop: no listener is the current one, or another handler has given it up -/
  | idle {name : Signal} (hhandlers : st.handlers ≠ 0) (h : st.current = none ∨ 2 ≤ st.handlers) :
      Exits courier s st (.signal name) 0
  /-- a listener has closed for a signal -/
  | closed {n : Nat} {due : Time.Instant} (h : st.phase? n = some (.closing (.shutdown due)))
      (hfinished : (st.step courier s (.closed n)).Finished n) : Exits courier s st (.closed n) 0
  /-- a listener that was to close for a signal cannot -/
  | kept {n : Nat} {due : Time.Instant} {message : String} (h : st.phase? n = some (.closing (.shutdown due))) :
      Exits courier s st (.closeFailed n message) 0
  /-- a listener that closes for a signal has taken too long -/
  | overdue {n : Nat} {due : Time.Instant} {ms : Int} (h : st.phase? n = some (.closing (.shutdown due)))
      (hdue : due ≤ (st.step courier s (.advance ms)).now courier) : Exits courier s st (.advance ms) 1

theorem now_exit (courier : Courier σ) (code : Nat) : (st.exit courier code).now courier = st.now courier := by
  unfold State.exit
  split <;> rfl

/-- the host says that a listener without requests has closed -/
theorem step_closed (courier : Courier σ) (s : Setup) {n : Nat} {l : Listener} {closer : Closer}
    (hl : st.listeners[n]? = some l) (hphase : l.phase = .closing closer) (hanswered : l.handling = 0) :
    (st.step courier s (.closed n)).Finished n := by
  have hcloser : (st.listeners[n]?.filter (·.handling = 0)).bind Listener.closer? = some closer := by
    rw [hl, Option.filter_some, if_pos (by simpa using hanswered), Option.bind_some, Listener.closer?_eq_some]
    exact hphase
  simp only [step, State.closed, hcloser]
  cases closer with
  | stop call => exact finished_move hl hanswered
  | shutdown due => exact finished_of_alike (finished_move hl hanswered) (Alike.exit (alike_log _) 0)

theorem ended_exit {code : Nat} {ending : Ending} (h : (st.exit courier code).ended = some ending) :
    st.ended = some ending ∨ ending.code = code := by
  unfold State.exit at h
  split at h
  · exact .inl h
  · cases h
    exact .inr rfl

theorem ended_shutDowns (courier : Courier σ) (name : Signal) (k : Nat) (st : State σ) :
    (shutDowns courier name k st).2.ended = st.ended := by
  induction k generalizing st with
  | zero => rfl
  | succ k ih =>
    cases h : st.current with
    | none =>
      simp only [shutDowns, shutDown_idle courier name h]
      exact ih _
    | some n =>
      simp only [shutDowns, shutDown_running courier name h]
      exact ih _

theorem ended_signal {name : Signal} {ending : Ending} (h : (st.signal courier name).ended = some ending) :
    st.ended = some ending ∨ Exits courier s st (.signal name) ending.code := by
  have hkept := ended_shutDowns courier name st.handlers st
  unfold signal at h
  dsimp only at h
  split at h
  · rename_i hidle
    rcases ended_exit h with hbefore | hcode
    · rw [hkept] at hbefore
      exact .inl hbefore
    · rw [hcode]
      cases hcurrent : st.current with
      | none =>
        have hsome := (shutDowns_idle courier name st.handlers st hcurrent).1
        rw [hsome, decide_eq_true_eq] at hidle
        exact .inr (.idle hidle (.inl hcurrent))
      | some n =>
        cases hhandlers : st.handlers with
        | zero =>
          rw [hhandlers] at hidle
          cases hidle
        | succ k =>
          rw [hhandlers, (shutDowns_running courier name k hcurrent).1, decide_eq_true_eq] at hidle
          exact .inr (.idle (by omega) (.inr (by omega)))
  · rw [hkept] at h
    exact .inl h

/-- **What ends the process.** A step that leaves it ended found it so, or is one of the events that end it. -/
theorem ended_step {ending : Ending} (h : (st.step courier s e).ended = some ending) :
    st.ended = some ending ∨ Exits courier s st e ending.code := by
  cases e with
  | start =>
    simp only [step, start] at h
    split at h
    · exact .inl h
    · exact .inl h
  | stop =>
    simp only [step, stop] at h
    split at h
    · exact .inl h
    · exact .inl h
  | install => exact .inl h
  | signal name => exact ended_signal h
  | listening n =>
    simp only [step, listening] at h
    split at h
    · exact .inl h
    · exact .inl h
  | listenFailed n message =>
    simp only [step, listenFailed] at h
    split at h
    · exact .inl h
    · exact .inl h
  | accepted n => exact .inl h
  | answered n => exact .inl h
  | closed n =>
    simp only [step, State.closed] at h
    split at h
    · rename_i closer hcloser
      obtain ⟨l, hl, hphase⟩ := Option.bind_eq_some_iff.1 hcloser
      rw [Option.filter_eq_some_iff] at hl
      rw [Listener.closer?_eq_some] at hphase
      have hfinished := step_closed courier s hl.1 hphase (by simpa using hl.2)
      cases closer with
      | stop call => exact .inl h
      | shutdown due =>
        rcases ended_exit h with hbefore | hcode
        · exact .inl hbefore
        · rw [hcode]
          exact .inr (.closed (phaseAt_eq_some.2 ⟨l, hl.1, hphase⟩) hfinished)
    · exact .inl h
  | closeFailed n message =>
    simp only [step, closeFailed] at h
    split at h
    · exact .inl h
    · rename_i due hcloser
      rcases ended_exit h with hbefore | hcode
      · exact .inl hbefore
      · rw [hcode]
        exact .inr (.kept (closer?_iff_phase.1 hcloser))
    · exact .inl h
  | advance ms =>
    have hnow : (st.step courier s (.advance ms)).now courier =
        ({ st with surroundings := courier.update (·.advance ms) st.surroundings } : State σ).now courier := by
      simp only [step, advance]
      split
      · exact now_exit courier 1
      · rfl
    simp only [step, advance] at h
    split at h
    · rename_i hoverdue
      rcases ended_exit h with hbefore | hcode
      · exact .inl hbefore
      · rw [hcode]
        obtain ⟨l, hl, hlate⟩ := List.any_eq_true.1 hoverdue
        obtain ⟨n, hn⟩ := List.getElem?_of_mem hl
        obtain ⟨due, hphase, hdue⟩ := Listener.isOverdue_eq_true.1 hlate
        rw [← hnow] at hdue
        exact .inr (.overdue (phaseAt_eq_some.2 ⟨l, hn, hphase⟩) hdue)
    · exact .inl h

/-- what ends the process in a run -/
theorem ended_run {events : List Event} {ending : Ending} (hbegin : st.ended = none)
    (h : (st.run courier s events).ended = some ending) :
    ∃ before e after, events = before ++ e :: after ∧ Exits courier s (st.run courier s before) e ending.code := by
  induction events using List.reverseRecOn with
  | nil =>
    rw [show st.run courier s [] = st from rfl, hbegin] at h
    cases h
  | append_singleton events e ih =>
    rw [run_concat] at h
    rcases ended_step h with hbefore | hexits
    · obtain ⟨before, e', after, rfl, hexits⟩ := ih hbefore
      exact ⟨before, e', after ++ [e], by simp, hexits⟩
    · exact ⟨events, e, [], rfl, hexits⟩

/-! ## Signals -/

/-- a signal in a run gave up the listener with a number, which is to have closed by then -/
def GivenUp (courier : Courier σ) (s : Setup) (st : State σ) (events : List Event) (n : Nat) (due : Time.Instant) : Prop :=
  ∃ before name after, events = before ++ Event.signal name :: after ∧ (st.run courier s before).handlers ≠ 0 ∧
    (st.run courier s before).current = some n ∧ due = (st.run courier s before).now courier + grace

/-- logging takes no time -/
theorem now_log (h : Faithful courier) (c : Log.Call) : (st.log courier c).now courier = st.now courier := by
  have hlog : courier.world (courier.log c st.surroundings) = (courier.world st.surroundings).log c :=
    h (·.log c) st.surroundings
  simp only [now, log, hlog, World.log_now]

/-- **A listener that closes for a signal was given up by it**, and has five seconds from then. -/
theorem closing_run (hfaithful : Faithful courier) (hledger : st.Ledger) {n : Nat} {due : Time.Instant}
    (hbegin : st.phase? n ≠ some (.closing (.shutdown due))) {events : List Event}
    (h : (st.run courier s events).phase? n = some (.closing (.shutdown due))) :
    GivenUp courier s st events n due := by
  induction events using List.reverseRecOn with
  | nil => exact absurd h hbegin
  | append_singleton events e ih =>
    rw [run_concat] at h
    rcases becomes_step courier s (ledger_run courier s hledger events).serves e n with hsame | ⟨p, hp, hbecomes⟩
    · rw [hsame] at h
      obtain ⟨before, name, after, rfl, hgiven⟩ := ih h
      exact ⟨before, name, after ++ [e], by simp, hgiven⟩
    · rw [hp] at h
      cases h
      generalize (st.run courier s events).phase? n = phase at hbecomes
      cases hbecomes with
      | shutting hhandlers hcurrent due hdue =>
        rw [now_log hfaithful] at hdue
        exact ⟨events, _, [], rfl, hhandlers, hcurrent, hdue⟩

theorem GivenUp.append {before : List Event} {n : Nat} {due : Time.Instant} (h : GivenUp courier s st before n due)
    (after : List Event) : GivenUp courier s st (before ++ after) n due := by
  obtain ⟨earlier, name, later, rfl, hgiven⟩ := h
  exact ⟨earlier, name, later ++ after, by simp, hgiven⟩

/-! ## Shutdowns -/

variable {surroundings : σ} {events : List Event}

/-- an end that waited for the listener: a signal gave it up and it has finished, or none was open when a signal came
that was handled -/
inductive Waited (courier : Courier σ) (s : Setup) (surroundings : σ) (events : List Event) : Prop
  | finished {n : Nat} {due : Time.Instant} (h : GivenUp courier s (initial surroundings) events n due)
      (hfinished : (reached courier s surroundings events).Finished n)
  | idle {before after : List Event} {name : Signal} (hevents : events = before ++ Event.signal name :: after)
      (hhandlers : (reached courier s surroundings before).handlers ≠ 0)
      (h : ∀ n, ¬ (reached courier s surroundings before).IsOpen n)

/-- an end that waited for nobody, though a listener is open: a handler found it given up already, or closing failed -/
inductive CutShort (courier : Courier σ) (s : Setup) (surroundings : σ) (events : List Event) : Prop
  | idle {before after : List Event} {name : Signal} {n : Nat} (hevents : events = before ++ Event.signal name :: after)
      (hopen : (reached courier s surroundings before).IsOpen n)
      (hhandlers : (reached courier s surroundings before).handlers ≠ 0)
      (h : (reached courier s surroundings before).current = none ∨
        2 ≤ (reached courier s surroundings before).handlers)
  | kept {before after : List Event} {n : Nat} {due : Time.Instant} {message : String}
      (hevents : events = before ++ Event.closeFailed n message :: after)
      (h : (reached courier s surroundings before).phase? n = some (.closing (.shutdown due)))

/-- an end by force: a signal gave a listener up that is still closing for it, five seconds later -/
def Forced (courier : Courier σ) (s : Setup) (surroundings : σ) (events : List Event) : Prop :=
  ∃ before name meanwhile ms after n,
    events = before ++ Event.signal name :: (meanwhile ++ Event.advance ms :: after) ∧
    (reached courier s surroundings before).handlers ≠ 0 ∧ (reached courier s surroundings before).current = some n ∧
    (reached courier s surroundings (before ++ Event.signal name :: meanwhile)).phase? n =
      some (.closing (.shutdown ((reached courier s surroundings before).now courier + grace))) ∧
    (reached courier s surroundings before).now courier + grace ≤
      (reached courier s surroundings (before ++ Event.signal name :: (meanwhile ++ [Event.advance ms]))).now courier

/-- what has come to its end when a server says that it is shut down -/
structure ShutDown (courier : Courier σ) (s : Setup) (surroundings : σ) (events : List Event) : Prop where
  /-- a stop that found a listener serving has come out well only if the listener has closed, its requests answered -/
  stopped : ∀ before after n, events = before ++ Event.stop :: after →
    (reached courier s surroundings before).current = some n →
    (reached courier s surroundings events).result? (reached courier s surroundings before).calls = some (.ok ()) →
    (reached courier s surroundings events).Finished n
  /-- the process ends well only after that, unless a handler found the listener given up, or closing failed -/
  zero : ∀ ending, (reached courier s surroundings events).ended = some ending → ending.code = 0 →
    Waited courier s surroundings events ∨ CutShort courier s surroundings events
  /-- it ends otherwise only by force -/
  one : ∀ ending, (reached courier s surroundings events).ended = some ending → ending.code ≠ 0 →
    ending.code = 1 ∧ Forced courier s surroundings events

theorem zero_of_exits (hfaithful : Faithful courier) {before after : List Event}
    (hexits : Exits courier s (reached courier s surroundings before) e 0) :
    Waited courier s surroundings (before ++ e :: after) ∨ CutShort courier s surroundings (before ++ e :: after) := by
  have hledger : (reached courier s surroundings before).Ledger := ledger_run courier s (ledger_initial surroundings) before
  cases hexits with
  | idle hhandlers h =>
    by_cases hopen : ∃ n, (reached courier s surroundings before).IsOpen n
    · obtain ⟨n, hn⟩ := hopen
      exact .inr (.idle rfl hn hhandlers h)
    · exact .inl (.idle rfl hhandlers (not_exists.1 hopen))
  | @closed n due h hfinished =>
    have hgiven : GivenUp courier s (initial surroundings) before n due :=
      closing_run hfaithful (ledger_initial surroundings) (by simp [phaseAt, initial]) h
    refine .inl (.finished (hgiven.append (.closed n :: after)) ?_)
    rw [reached, run_append, run_cons]
    exact finished_run courier s (ledger_step courier s hledger (.closed n)) hfinished after
  | kept h => exact .inr (.kept rfl h)

theorem forced_of_exits (hfaithful : Faithful courier) {before after : List Event}
    (hexits : Exits courier s (reached courier s surroundings before) e 1) :
    Forced courier s surroundings (before ++ e :: after) := by
  cases hexits with
  | @overdue n due ms h hdue =>
    have hgiven : GivenUp courier s (initial surroundings) before n due :=
      closing_run hfaithful (ledger_initial surroundings) (by simp [phaseAt, initial]) h
    obtain ⟨earlier, name, meanwhile, rfl, hhandlers, hcurrent, rfl⟩ := hgiven
    refine ⟨earlier, name, meanwhile, ms, after, n, by simp, hhandlers, hcurrent, h, ?_⟩
    have hlast : earlier ++ Event.signal name :: (meanwhile ++ [Event.advance ms]) =
        (earlier ++ Event.signal name :: meanwhile) ++ [Event.advance ms] := by simp
    rw [hlast, reached, reached, run_concat]
    exact hdue

theorem Exits.code_eq {code : Nat} (h : Exits courier s st e code) : code = 0 ∨ code = 1 := by
  cases h with
  | idle => exact .inl rfl
  | closed => exact .inl rfl
  | kept => exact .inl rfl
  | overdue => exact .inr rfl

/-- **A shutdown is finished when it says so, if it found the listener serving.** Whatever starts, stops, signals and
requests come, and in whatever order: a stop that found a listener serving comes out well only when that listener has
closed and its requests are answered; the process ends well only when that is so of the listener that a signal gave up,
or when nothing was open, unless a handler found the listener given up already or closing failed; and it ends otherwise
only when closing has taken the five seconds since a signal. -/
theorem shutdowns_finish (hfaithful : Faithful courier) (s : Setup) (surroundings : σ) (events : List Event) :
    ShutDown courier s surroundings events := by
  have hends : ∀ ending, (reached courier s surroundings events).ended = some ending →
      ∃ before e after, events = before ++ e :: after ∧
        Exits courier s (reached courier s surroundings before) e ending.code :=
    fun ending h => ended_run rfl h
  constructor
  case stopped =>
    rintro before after n rfl hcurrent hresult
    have hledger : (reached courier s surroundings before).Ledger :=
      ledger_run courier s (ledger_initial surroundings) before
    have hsplit : reached courier s surroundings (before ++ Event.stop :: after) =
        (reached courier s surroundings before).run courier s (.stop :: after) := run_append before _
    rw [hsplit] at hresult ⊢
    exact stop_finishes hledger hcurrent after hresult
  case zero =>
    intro ending hended hcode
    obtain ⟨before, e, after, rfl, hexits⟩ := hends ending hended
    rw [hcode] at hexits
    exact zero_of_exits hfaithful hexits
  case one =>
    intro ending hended hcode
    obtain ⟨before, e, after, rfl, hexits⟩ := hends ending hended
    have hone := hexits.code_eq.resolve_left hcode
    rw [hone] at hexits
    exact ⟨hone, forced_of_exits hfaithful hexits⟩

theorem faithful_standinCourier : Faithful Enquiry.standinCourier := fun _ _ => rfl

/-- a server with one handler gets a signal while it handles a request, and then more happens -/
def signalled (more : List Event) : List Event :=
  .start :: .listening 0 :: .install :: .accepted 0 :: .signal .terminate :: more

/-- with one handler: the process ends well when the listener has closed, not while it handles a request, and by force
after five seconds -/
theorem shutdowns_finish_standin :
    Faithful Enquiry.standinCourier ∧
      ShutDown Enquiry.standinCourier default idle (signalled [.answered 0, .closed 0]) ∧
      ((reached Enquiry.standinCourier default idle (signalled [.answered 0, .closed 0])).ended.map (·.code)) =
        some 0 ∧
      ShutDown Enquiry.standinCourier default idle (signalled [.closed 0, .advance 4999]) ∧
      ((reached Enquiry.standinCourier default idle (signalled [.closed 0, .advance 4999])).ended.map (·.code)) =
        none ∧
      ShutDown Enquiry.standinCourier default idle (signalled [.closed 0, .advance 5000]) ∧
      ((reached Enquiry.standinCourier default idle (signalled [.closed 0, .advance 5000])).ended.map (·.code)) =
        some 1 :=
  ⟨faithful_standinCourier, shutdowns_finish faithful_standinCourier default idle _, by decide +kernel,
    shutdowns_finish faithful_standinCourier default idle _, by decide +kernel,
    shutdowns_finish faithful_standinCourier default idle _, by decide +kernel⟩

/-- **Shutdowns that say so too early.** While the listener closes and a request is still being handled, a second stop
comes out well, and a second signal ends the process well. -/
theorem shutdowns_cut_short :
    ((reached Enquiry.standinCourier default idle [.start, .listening 0, .accepted 0, .stop, .stop]).result? 2 =
        some (.ok ()) ∧
      (reached Enquiry.standinCourier default idle [.start, .listening 0, .accepted 0, .stop, .stop]).IsOpen 0) ∧
      ((reached Enquiry.standinCourier default idle (signalled [.signal .terminate])).ended.map (·.code)) = some 0 ∧
      (reached Enquiry.standinCourier default idle (signalled [.signal .terminate])).IsOpen 0 :=
  ⟨⟨rfl, ⟨_, rfl, rfl⟩⟩, by decide +kernel, ⟨_, rfl, rfl⟩⟩

end State

end EnquiryMail.Server
