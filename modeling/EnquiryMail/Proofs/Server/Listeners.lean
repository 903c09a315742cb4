/-
One listener for a server. A server looks for a current listener before it asks for another one, and remembers the
listener only when it is open; so calls that overlap can leave it with two listeners, or with one after a stop. What
holds for all calls and what holds for calls that do not overlap is told apart here.

- `isRunning_iff`: whatever the calls, the server runs exactly when a listener is open that was opened after the last
  stop.
- `step_listenFailed`, `closed_run`, `retried`: a start that fails leaves no listener, and any start comes out well as
  soon as the host opens its listener.
- `Tidy`, `tidy_run`: with starts that wait for the calls before them one listener is open at a time; it is the current
  one, or a stop waits for it.
- `listeners_governed`: all of it. `listeners_overlap`: two listeners at a time, and one after a stop.
-/
import EnquiryMail.Proofs.Server.Course

namespace EnquiryMail.Server

open Enquiry (Courier)

namespace State

variable {σ : Type} {courier : Courier σ} {s : Setup} {st : State σ} {e : Event}

/-- the listener with a number is open -/
def IsOpen (st : State σ) (n : Nat) : Prop := ∃ l ∈ st.listeners[n]?, l.isOpen = true

theorem isOpen_iff {n : Nat} :
    st.IsOpen n ↔ st.phase? n = some .serving ∨ ∃ closer, st.phase? n = some (.closing closer) := by
  simp only [IsOpen, phase?, phaseAt, Option.mem_def]
  cases st.listeners[n]? with
  | none => simp
  | some l => cases h : l.phase <;> simp [Listener.isOpen, h]

/-! ## Events throughout a run -/

/-- every event of a run finds a state that goes with it -/
def Throughout (courier : Courier σ) (s : Setup) (P : State σ → Event → Prop) : State σ → List Event → Prop
  | _, [] => True
  | st, e :: events => P st e ∧ Throughout courier s P (st.step courier s e) events

theorem throughout_append {P : State σ → Event → Prop} {before after : List Event} :
    Throughout courier s P st (before ++ after) ↔
      Throughout courier s P st before ∧ Throughout courier s P (st.run courier s before) after := by
  induction before generalizing st with
  | nil => simp [Throughout, run]
  | cons e before ih => simp [Throughout, run_cons, ih, and_assoc]

/-- what every step keeps that goes with its state, a run keeps -/
theorem Throughout.preserves {P : State σ → Event → Prop} {Q : State σ → Prop} {events : List Event}
    (h : Throughout courier s P st events) (hQ : Q st)
    (hstep : ∀ st, Q st → ∀ e ∈ events, P st e → Q (st.step courier s e)) : Q (st.run courier s events) := by
  induction events generalizing st with
  | nil => exact hQ
  | cons e events ih =>
    obtain ⟨he, hrest⟩ := h
    refine ih hrest (hstep st hQ e List.mem_cons_self he) ?_
    intro st hst e he
    exact hstep st hst e (List.mem_cons_of_mem _ he)

/-! ## Starts -/

/-- a listener that a start waits for is open: it is the current one, and the start comes out well -/
theorem step_listening (courier : Courier σ) (s : Setup) {n call : Nat} (h : st.phase? n = some (.opening call)) :
    (st.step courier s (.listening n)).current = some n ∧
      (st.step courier s (.listening n)).result? call = some (.ok ()) := by
  simp only [step, listening, opener?_iff_phase.2 h, true_and]
  exact List.lookup_cons_self

/-- a listener that a start waits for cannot be opened: it is closed, and the start comes out so -/
theorem step_listenFailed (courier : Courier σ) (s : Setup) (message : String) {n call : Nat}
    (h : st.phase? n = some (.opening call)) :
    (st.step courier s (.listenFailed n message)).phase? n = some .closed ∧
      (st.step courier s (.listenFailed n message)).result? call = some (.error message) := by
  simp only [step, listenFailed, opener?_iff_phase.2 h]
  exact ⟨phase?_moved h, List.lookup_cons_self⟩

/-- a start without a current listener asks for one -/
theorem step_start (courier : Courier σ) (s : Setup) (h : st.current = none) :
    (st.step courier s .start).phase? st.listeners.length = some (.opening st.calls) := by
  simp only [step, start, h]
  exact (phaseAt_concat _ _ _).trans (if_pos rfl)

/-- a listener opens until the host says something about it -/
theorem opening_run (courier : Courier σ) (s : Setup) (h : st.Ledger) {n call : Nat}
    (hn : st.phase? n = some (.opening call)) {events : List Event}
    (hevents : ∀ e ∈ events, e ≠ .listening n ∧ ∀ message, e ≠ .listenFailed n message) :
    (st.run courier s events).phase? n = some (.opening call) := by
  refine h.preserves (P := fun st => st.phase? n = some (.opening call)) hn ?_
  intro st hst hn e he
  rcases becomes_step courier s hst.serves e n with hsame | ⟨p, -, hbecomes⟩
  · rw [hsame, hn]
  · obtain ⟨hlistening, hfailed⟩ := hevents e he
    rw [hn] at hbecomes
    cases hbecomes with
    | opened => exact absurd rfl hlistening
    | refused => exact absurd rfl (hfailed _)

/-- **A start comes out well as soon as the host has opened its listener**, whatever happens meanwhile. -/
theorem retried (h : st.Ledger) (hcurrent : st.current = none) {meanwhile : List Event}
    (hmeanwhile : ∀ e ∈ meanwhile,
      e ≠ .listening st.listeners.length ∧ ∀ message, e ≠ .listenFailed st.listeners.length message) :
    let ran := st.run courier s (.start :: (meanwhile ++ [Event.listening st.listeners.length]))
    ran.result? st.calls = some (.ok ()) ∧ ran.isRunning = true := by
  intro ran
  have hopening := opening_run courier s (ledger_step courier s h .start) (step_start courier s hcurrent) hmeanwhile
  have hran : ran = ((st.step courier s .start).run courier s meanwhile).step courier s
      (.listening st.listeners.length) := by
    simp only [ran, run_cons, run_concat]
  obtain ⟨hcurrent', hresult⟩ := step_listening courier s hopening
  rw [hran]
  exact ⟨hresult, by rw [isRunning, hcurrent', Option.isSome_some]⟩

/-! ## Running -/

/-- an event that stops the server: a stop, or a signal that somebody handles -/
def Halts (st : State σ) (e : Event) : Prop := e = .stop ∨ ∃ name, e = .signal name ∧ st.handlers ≠ 0

theorem current_step (courier : Courier σ) (s : Setup) (st : State σ) (e : Event) :
    (st.step courier s e).current = st.current ∨ (st.step courier s e).current = none ∧ st.Halts e ∨
      ∃ n call, e = .listening n ∧ st.phase? n = some (.opening call) ∧ (st.step courier s e).current = some n := by
  obtain ⟨st₁, hdid, halike⟩ := did_step courier s st e
  rw [halike.current]
  exact current_did hdid

theorem current_of_halts (h : st.Halts e) : (st.step courier s e).current = none := by
  obtain ⟨st₁, hdid, halike⟩ := did_step courier s st e
  rw [halike.current]
  rcases h with rfl | ⟨name, rfl, hhandlers⟩
  · cases hdid with
    | nothing h => cases h
    | stoppedBefore h => exact h
    | stopping => rfl
  · cases hdid with
    | nothing h => cases h
    | ignored h =>
      rcases h with hnone | hnone
      · exact absurd hnone hhandlers
      · exact hnone
    | shutting => rfl

/-- the listener with a number is open, was opened in a run, and nothing has stopped the server since -/
def OpenSinceStop (courier : Courier σ) (s : Setup) (st : State σ) (events : List Event) (n : Nat) : Prop :=
  (st.run courier s events).IsOpen n ∧
    ∃ before after call, events = before ++ Event.listening n :: after ∧
      (st.run courier s before).phase? n = some (.opening call) ∧
      Throughout courier s (fun st e => ¬ st.Halts e) (st.run courier s (before ++ [Event.listening n])) after

theorem opened_of_current (hcurrent : st.current = none) {events : List Event} {n : Nat}
    (h : (st.run courier s events).current = some n) :
    ∃ before after call, events = before ++ Event.listening n :: after ∧
      (st.run courier s before).phase? n = some (.opening call) ∧
      Throughout courier s (fun st e => ¬ st.Halts e) (st.run courier s (before ++ [Event.listening n])) after := by
  induction events using List.reverseRecOn with
  | nil =>
    rw [show st.run courier s [] = st from rfl, hcurrent] at h
    cases h
  | append_singleton events e ih =>
    rw [run_concat] at h
    rcases current_step courier s (st.run courier s events) e with hkept | ⟨hnone, -⟩ | ⟨m, call, rfl, hopening, hopened⟩
    · have hquiet : ¬ (st.run courier s events).Halts e := by
        intro hhalts
        rw [current_of_halts hhalts] at h
        cases h
      rw [hkept] at h
      obtain ⟨before, after, call, rfl, hopening, hafter⟩ := ih h
      refine ⟨before, after ++ [e], call, by simp, hopening, ?_⟩
      rw [throughout_append, ← run_append, List.append_assoc, List.singleton_append]
      exact ⟨hafter, hquiet, trivial⟩
    · rw [hnone] at h
      cases h
    · rw [hopened] at h
      cases h
      exact ⟨events, [], call, rfl, hopening, trivial⟩

theorem isRunning_of_opened {events before after : List Event} {n call : Nat}
    (hevents : events = before ++ Event.listening n :: after)
    (hopening : (st.run courier s before).phase? n = some (.opening call))
    (hafter : Throughout courier s (fun st e => ¬ st.Halts e) (st.run courier s (before ++ [Event.listening n])) after) :
    (st.run courier s events).isRunning = true := by
  have hsplit : events = before ++ [Event.listening n] ++ after := by rw [hevents, List.append_assoc, List.singleton_append]
  rw [hsplit, run_append]
  refine hafter.preserves (Q := fun st => st.isRunning = true) ?_ ?_
  · rw [run_concat, isRunning, (step_listening courier s hopening).1]
    rfl
  · intro st hrunning e _ hquiet
    rw [isRunning] at hrunning ⊢
    rcases current_step courier s st e with hkept | ⟨-, hhalts⟩ | ⟨m, call', -, -, hopened⟩
    · rw [hkept, hrunning]
    · exact absurd hhalts hquiet
    · rw [hopened]
      rfl

/-- **The server runs exactly when a listener is open that was opened after the last stop.** -/
theorem isRunning_iff (h : st.Ledger) (hcurrent : st.current = none) (events : List Event) :
    (st.run courier s events).isRunning = true ↔ ∃ n, OpenSinceStop courier s st events n := by
  constructor
  · intro hrunning
    obtain ⟨n, hn⟩ := Option.isSome_iff_exists.1 hrunning
    have hserving := (ledger_run courier s h events).serves n hn
    exact ⟨n, isOpen_iff.2 (.inl hserving), opened_of_current hcurrent hn⟩
  · rintro ⟨n, -, before, after, call, hevents, hopening, hafter⟩
    exact isRunning_of_opened hevents hopening hafter

/-! ## Calls that do not overlap -/

/-- every call so far has come out -/
def AllSettled (st : State σ) : Prop := ∀ call < st.calls, (st.result? call).isSome = true

/-- a start waits for the calls before it; there are no signals, and closing does not fail -/
def InTurn (st : State σ) : Event → Prop
  | .start => st.AllSettled
  | .signal _ | .closeFailed _ _ => False
  | _ => True

/-- at most one listener is opening or open; it serves as the current one, or a call waits for it -/
structure Tidy (st : State σ) : Prop where
  ledger : st.Ledger
  current : ∀ n, st.phase? n = some .serving → st.current = some n
  called : ∀ n due, st.phase? n ≠ some (.closing (.shutdown due))
  alone : ∃ n, ∀ m p, st.phase? m = some p → p ≠ .closed → m = n

/-- once every call has come out, a listener that is not closed is the current one -/
theorem Tidy.serving_of_settled (h : st.Tidy) (hsettled : st.AllSettled) {n : Nat} {p : Phase}
    (hn : st.phase? n = some p) (hopen : p ≠ .closed) : st.current = some n := by
  have hunsettled : ∀ call, ¬ st.Waits n call := by
    intro call hwaits
    obtain ⟨hlt, hnone⟩ := h.ledger.waiting n call hwaits
    have hsome := hsettled call hlt
    rw [hnone] at hsome
    cases hsome
  cases p with
  | opening call => exact absurd ⟨_, hn, rfl⟩ (hunsettled call)
  | serving => exact h.current n hn
  | closing closer =>
    cases closer with
    | stop call => exact absurd ⟨_, hn, rfl⟩ (hunsettled call)
    | shutdown due => exact absurd hn (h.called n due)
  | closed => exact absurd rfl hopen

/-- when a listener moves that is not closed, no other one is opening or open -/
theorem Tidy.move (h : st.Tidy) {n : Nat} {p : Phase} (hn : st.phase? n = some p) (hopen : p ≠ .closed) (q : Phase) :
    ∀ m r, (st.move n q).phase? m = some r → r ≠ .closed → m = n ∧ r = q := by
  intro m r hm hr
  obtain ⟨k, halone⟩ := h.alone
  rcases phase?_move hn q m with ⟨hne, hsame⟩ | ⟨rfl, hto⟩
  · rw [hsame] at hm
    exact absurd ((halone m r hm hr).trans (halone n p hn hopen).symm) hne
  · rw [hto] at hm
    exact ⟨rfl, (Option.some.inj hm).symm⟩

/-- a state in which one listener has moved to a phase that goes with the current listener is tidy -/
theorem tidy_of_move {st₁ : State σ} (h : st.Tidy) (hledger : st₁.Ledger) {n : Nat} {p : Phase}
    (hn : st.phase? n = some p) (hopen : p ≠ .closed) (q : Phase) (hlisteners : st₁.listeners = (st.move n q).listeners)
    (hcurrent : q = .serving → st₁.current = some n) (hcalled : ∀ due, q ≠ .closing (.shutdown due)) : st₁.Tidy := by
  have hmove : ∀ m r, st₁.phase? m = some r → r ≠ .closed → m = n ∧ r = q := by
    intro m r hm
    rw [phase?, hlisteners] at hm
    exact h.move hn hopen q m r hm
  constructor
  case ledger => exact hledger
  case current =>
    intro m hm
    obtain ⟨rfl, hq⟩ := hmove m _ hm (by simp)
    exact hcurrent hq.symm
  case called =>
    intro m due hm
    obtain ⟨-, hq⟩ := hmove m _ hm (by simp)
    exact hcalled due hq.symm
  case alone => exact ⟨n, fun m r hm hr => (hmove m r hm hr).1⟩

/-- a state with the same listeners in the same phases and the same current one is tidy -/
theorem Tidy.of_same {st₁ : State σ} (h : st.Tidy) (hledger : st₁.Ledger) (hphases : ∀ n, st₁.phase? n = st.phase? n)
    (hcurrent : st₁.current = st.current) : st₁.Tidy := by
  constructor
  case ledger => exact hledger
  case current =>
    intro n hn
    rw [hphases] at hn
    rw [hcurrent]
    exact h.current n hn
  case called =>
    intro n due
    rw [hphases]
    exact h.called n due
  case alone =>
    obtain ⟨n, halone⟩ := h.alone
    refine ⟨n, ?_⟩
    intro m p hm
    rw [hphases] at hm
    exact halone m p hm

theorem tidy_did {st₁ : State σ} (h : st.Tidy) (he : st.InTurn e) (hdid : Did courier st e st₁) : st₁.Tidy := by
  have hledger := ledger_did h.ledger hdid
  cases hdid with
  | nothing => exact h
  | startedBefore => exact h.of_same hledger (fun _ => rfl) rfl
  | asked limiter hcurrent =>
    have hclosed : ∀ m p, st.phase? m = some p → p ≠ .closed → False := by
      intro m p hm hopen
      rw [h.serving_of_settled he hm hopen] at hcurrent
      cases hcurrent
    have hnew : ∀ m p, phaseAt (st.listeners ++ [Listener.asked st.calls limiter]) m = some p → p ≠ .closed →
        m = st.listeners.length ∧ p = .opening st.calls := by
      intro m p hm hopen
      rw [phaseAt_concat] at hm
      split at hm
      · rename_i hlast
        exact ⟨hlast, (Option.some.inj hm).symm⟩
      · exact (hclosed m p hm hopen).elim
    constructor
    case ledger => exact hledger
    case current =>
      intro m hm
      have hphase := (hnew m _ hm (by simp)).2
      cases hphase
    case called =>
      intro m due hm
      have hphase := (hnew m _ hm (by simp)).2
      cases hphase
    case alone => exact ⟨_, fun m p hm hopen => (hnew m p hm hopen).1⟩
  | stoppedBefore => exact h.of_same hledger (fun _ => rfl) rfl
  | @stopping n hcurrent =>
    exact tidy_of_move h hledger (h.ledger.serves n hcurrent) (by simp) (.closing (.stop st.calls)) rfl (by simp) (by simp)
  | installed => exact h.of_same hledger (fun _ => rfl) rfl
  | ignored => exact h
  | shutting => exact he.elim
  | opened hopening => exact tidy_of_move h hledger hopening (by simp) .serving rfl (fun _ => rfl) (by simp)
  | refused hopening => exact tidy_of_move h hledger hopening (by simp) .closed rfl (by simp) (by simp)
  | accepted n => exact h.of_same hledger (fun m => phaseAt_modify_same Listener.phase_accept n m) rfl
  | answered n => exact h.of_same hledger (fun m => phaseAt_modify_same Listener.phase_answered n m) rfl
  | @closed n l closer hl hphase hanswered =>
    exact tidy_of_move h hledger (phaseAt_eq_some.2 ⟨l, hl, hphase⟩) (by simp) .closed rfl (by simp) (by simp)
  | kept => exact he.elim

theorem tidy_step (h : st.Tidy) (he : st.InTurn e) : (st.step courier s e).Tidy := by
  obtain ⟨st₁, hdid, halike⟩ := did_step courier s st e
  refine (tidy_did h he hdid).of_same (ledger_step courier s h.ledger e) ?_ halike.current
  intro n
  rw [phase?, halike.listeners]

/-- **With starts that wait for the calls before them a server is tidy.** -/
theorem tidy_run (h : st.Tidy) {events : List Event} (hevents : Throughout courier s InTurn st events) :
    (st.run courier s events).Tidy :=
  hevents.preserves h fun _ hst _ _ he => tidy_step hst he

theorem tidy_initial (surroundings : σ) : (initial surroundings).Tidy := by
  constructor
  case ledger => exact ledger_initial surroundings
  case current => intro n h; cases h
  case called => intro n due h; cases h
  case alone => exact ⟨0, fun m p h => by cases h⟩

theorem Tidy.single (h : st.Tidy) {n m : Nat} (hn : st.IsOpen n) (hm : st.IsOpen m) : n = m := by
  obtain ⟨k, halone⟩ := h.alone
  have hopen : ∀ m, st.IsOpen m → m = k := by
    intro m hm
    rcases isOpen_iff.1 hm with hserving | ⟨closer, hclosing⟩
    · exact halone m _ hserving (by simp)
    · exact halone m _ hclosing (by simp)
  rw [hopen n hn, hopen m hm]

/-- a server that was stopped: no listener is the current one, and none opens -/
structure Stopped (st : State σ) : Prop where
  tidy : st.Tidy
  current : st.current = none
  quiet : ∀ n call, st.phase? n ≠ some (.opening call)

theorem stopped_step (h : st.Stopped) (he : st.InTurn e) (hstart : e ≠ .start) : (st.step courier s e).Stopped := by
  constructor
  case tidy => exact tidy_step h.tidy he
  case current =>
    rcases current_step courier s st e with hkept | ⟨hnone, -⟩ | ⟨n, call, -, hopening, -⟩
    · rw [hkept, h.current]
    · exact hnone
    · exact absurd hopening (h.quiet n call)
  case quiet =>
    intro n call hn
    rcases becomes_step courier s h.tidy.ledger.serves e n with hsame | ⟨p, hp, hbecomes⟩
    · rw [hsame] at hn
      exact h.quiet n call hn
    · rw [hp] at hn
      cases hn
      generalize st.phase? n = before at hbecomes
      cases hbecomes with
      | asked => exact hstart rfl

/-- a stopped server has no listener open once every call has come out -/
theorem Stopped.emptied (h : st.Stopped) (hsettled : st.AllSettled) (n : Nat) : ¬ st.IsOpen n := by
  have hnot : ∀ p, st.phase? n = some p → p ≠ .closed → False := by
    intro p hn hopen
    have hcurrent := h.tidy.serving_of_settled hsettled hn hopen
    rw [h.current] at hcurrent
    cases hcurrent
  rw [isOpen_iff]
  rintro (hserving | ⟨closer, hclosing⟩)
  · exact hnot _ hserving (by simp)
  · exact hnot _ hclosing (by simp)

/-- **A stop that comes when no start is under way leaves no listener** once every call has come out, if no call is
made after it. -/
theorem emptied_run (h : st.Tidy) {before after : List Event}
    (hevents : Throughout courier s InTurn st (before ++ Event.stop :: after))
    (hquiet : ∀ n call, (st.run courier s before).phase? n ≠ some (.opening call)) (hlast : ∀ e ∈ after, e ≠ .start)
    (hsettled : (st.run courier s (before ++ Event.stop :: after)).AllSettled) (n : Nat) :
    ¬ (st.run courier s (before ++ Event.stop :: after)).IsOpen n := by
  obtain ⟨hbefore, hstop, hafter⟩ := throughout_append.1 hevents
  have htidy := tidy_run h hbefore
  have hstopped : ((st.run courier s before).step courier s .stop).Stopped := by
    constructor
    case tidy => exact tidy_step htidy hstop
    case current => exact current_of_halts (.inl rfl)
    case quiet =>
      intro n call hn
      rcases becomes_step courier s htidy.ledger.serves .stop n with hsame | ⟨p, hp, hbecomes⟩
      · rw [hsame] at hn
        exact hquiet n call hn
      · rw [hp] at hn
        cases hn
        generalize (st.run courier s before).phase? n = phase at hbecomes
        cases hbecomes
  rw [run_append, run_cons] at hsettled ⊢
  have hrun := hafter.preserves (Q := Stopped) hstopped fun st hst e he hturn => stopped_step hst hturn (hlast e he)
  exact hrun.emptied hsettled n

/-! ## A server from its beginning -/

/-- the state that a server comes to -/
def reached (courier : Courier σ) (s : Setup) (surroundings : σ) (events : List Event) : State σ :=
  (initial surroundings).run courier s events

/-- how starts and stops govern the listeners of a server -/
structure Governed (courier : Courier σ) (s : Setup) (surroundings : σ) (events : List Event) : Prop where
  /-- the server runs exactly when a listener is open that was opened after the last stop -/
  running : (reached courier s surroundings events).isRunning = true ↔
    ∃ n, OpenSinceStop courier s (initial surroundings) events n
  /-- a start whose listener cannot be opened comes out so, and the listener is not open at any time after that -/
  failed : ∀ n call message, (reached courier s surroundings events).phase? n = some (.opening call) →
    (reached courier s surroundings (events ++ [Event.listenFailed n message])).result? call = some (.error message) ∧
      ∀ later, ¬ (reached courier s surroundings (events ++ Event.listenFailed n message :: later)).IsOpen n
  /-- a start at any time that finds the server not running comes out well as soon as the host opens its listener -/
  retried : ∀ meanwhile, (reached courier s surroundings events).current = none →
    let n := (reached courier s surroundings events).listeners.length
    (∀ e ∈ meanwhile, e ≠ .listening n ∧ ∀ message, e ≠ .listenFailed n message) →
      let ran := reached courier s surroundings (events ++ Event.start :: (meanwhile ++ [Event.listening n]))
      ran.result? (reached courier s surroundings events).calls = some (.ok ()) ∧ ran.isRunning = true
  /-- with starts that wait for the calls before them one listener is open at a time -/
  single : Throughout courier s InTurn (initial surroundings) events →
    ∀ n m, (reached courier s surroundings events).IsOpen n → (reached courier s surroundings events).IsOpen m → n = m
  /-- and after a last stop that comes when no start is under way none is, once every call has come out -/
  emptied : Throughout courier s InTurn (initial surroundings) events →
    ∀ before after, events = before ++ Event.stop :: after → (∀ e ∈ after, e ≠ .start) →
      (∀ n call, (reached courier s surroundings before).phase? n ≠ some (.opening call)) →
      (reached courier s surroundings events).AllSettled → ∀ n, ¬ (reached courier s surroundings events).IsOpen n

/-- **Starts and stops govern the listeners of a server.** Whatever is called, in whatever order things come about, the
server runs exactly when a listener is open that was opened after the last stop; a start that fails leaves no listener,
and a later one comes out well. When a start waits for the calls before it and closing does not fail, one listener is
open at a time, and none after a last stop that did not come while a start was under way. -/
theorem listeners_governed (courier : Courier σ) (s : Setup) (surroundings : σ) (events : List Event) :
    Governed courier s surroundings events := by
  have hledger : (reached courier s surroundings events).Ledger := ledger_run courier s (ledger_initial surroundings) events
  constructor
  case running => exact isRunning_iff (ledger_initial surroundings) rfl events
  case failed =>
    intro n call message hopening
    obtain ⟨hclosed, hresult⟩ := step_listenFailed courier s message hopening
    constructor
    · rw [reached, run_concat]
      exact hresult
    · intro later hopen
      have hstill := closed_run courier s (ledger_step courier s hledger (.listenFailed n message)) hclosed later
      rw [reached, run_append, run_cons, isOpen_iff] at hopen
      rcases hopen with hserving | ⟨closer, hclosing⟩
      · rw [reached, hserving] at hstill
        cases hstill
      · rw [reached, hclosing] at hstill
        cases hstill
  case retried =>
    intro meanwhile hcurrent n hmeanwhile
    dsimp only [reached]
    rw [run_append]
    exact State.retried hledger hcurrent hmeanwhile
  case single =>
    intro hturns n m hn hm
    exact (tidy_run (tidy_initial surroundings) hturns).single hn hm
  case emptied =>
    rintro hturns before after rfl hlast hquiet hsettled n
    exact emptied_run (tidy_initial surroundings) hturns hquiet hlast hsettled n

/-- a stand-in with nothing to do -/
def idle : Enquiry.Standin := ⟨default, [], []⟩

/-- a start, a stop and another start, each after the one before has come out -/
example : Throughout Enquiry.standinCourier default InTurn (initial idle)
    [.start, .listening 0, .stop, .closed 0, .start, .listening 1] := by
  have hsettled : ((initial idle).run Enquiry.standinCourier default
      [.start, .listening 0, .stop, .closed 0]).AllSettled := by
    unfold AllSettled
    decide
  exact ⟨fun _ h => (nomatch h), trivial, trivial, trivial, hsettled, trivial, trivial⟩

/-- **Calls that overlap leave listeners behind.** Two starts have two listeners open, and so has a start during a stop
that has not come to an end; a stop during a start leaves one open, though every call has come out and the stop was the
last of them. -/
theorem listeners_overlap :
    (∀ n < 2, (reached Enquiry.standinCourier default idle [.start, .start, .listening 0, .listening 1]).IsOpen n) ∧
      (∀ n < 2,
        (reached Enquiry.standinCourier default idle [.start, .listening 0, .stop, .start, .listening 1]).IsOpen n) ∧
      (reached Enquiry.standinCourier default idle [.start, .stop, .listening 0]).AllSettled ∧
      (reached Enquiry.standinCourier default idle [.start, .stop, .listening 0]).IsOpen 0 := by
  refine ⟨?_, ?_, ?_, ⟨_, rfl, rfl⟩⟩
  · intro n hn
    interval_cases n
    · exact ⟨_, rfl, rfl⟩
    · exact ⟨_, rfl, rfl⟩
  · intro n hn
    interval_cases n
    · exact ⟨_, rfl, rfl⟩
    · exact ⟨_, rfl, rfl⟩
  · unfold AllSettled
    decide

end State

end EnquiryMail.Server
