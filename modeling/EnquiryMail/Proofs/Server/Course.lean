/-
What befalls the listeners of a server. An event changes at most one listener, and what a server remembers of its calls
and of the current listener; this is said once for every event, and everything about runs is derived from it.

- `Did`: what an event does, apart from log calls and the end of the process. `did_step`: a step does it.
- `Becomes`, `becomes_step`: what becomes of a listener in a step.
- `Ledger`, `ledger_run`: the current listener serves, and a call that waits for a listener has not come out.
- `run_preserves`, `Ledger.preserves`: what every step keeps, a run keeps.
- `result?_step`: how a call came out stays so.
- `closed_run`: a listener that has closed never opens again.
-/
import Mathlib.Tactic
import EnquiryMail.Server.Life

namespace EnquiryMail.Server

open Enquiry (Courier)

/-- how a call that waits for a listener to close comes out, if it is one -/
def Closer.settles (r : Except String Unit) : Closer → List (Nat × Except String Unit)
  | .stop call => [(call, r)]
  | .shutdown _ => []

/-- the call that waits while a listener is in a phase -/
def Phase.call? : Phase → Option Nat
  | .opening call | .closing (.stop call) => some call
  | .serving | .closing (.shutdown _) | .closed => none

/-- an event that may find nothing to do: one of the host, or time passing -/
def Event.ofHost : Event → Bool
  | .listening _ | .listenFailed _ _ | .closed _ | .closeFailed _ _ | .advance _ => true
  | .start | .stop | .install | .signal _ | .accepted _ | .answered _ => false

/-- the log call of a handler that takes a signal -/
def received (name : Signal) : Log.Call :=
  Log.call component .warn ("Received " ++ name.name ++ ", shutting down...") []

/-- how far the listener at a place of a list is -/
def phaseAt (ls : List Listener) (n : Nat) : Option Phase := ls[n]?.map (·.phase)

theorem phaseAt_eq_some {ls : List Listener} {n : Nat} {p : Phase} :
    phaseAt ls n = some p ↔ ∃ l, ls[n]? = some l ∧ l.phase = p := by
  simp [phaseAt]

theorem phaseAt_modify {ls : List Listener} {f : Listener → Listener} {p : Phase} (hf : ∀ l, (f l).phase = p)
    (n m : Nat) : phaseAt (ls.modify n f) m = if n = m then (phaseAt ls m).map (fun _ => p) else phaseAt ls m := by
  simp only [phaseAt, List.getElem?_modify]
  by_cases hnm : n = m
  · cases ls[m]? <;> simp [hnm, hf]
  · simp [hnm]

theorem phaseAt_modify_same {ls : List Listener} {f : Listener → Listener} (hf : ∀ l, (f l).phase = l.phase)
    (n m : Nat) : phaseAt (ls.modify n f) m = phaseAt ls m := by
  simp only [phaseAt, List.getElem?_modify]
  cases ls[m]? with
  | none => rfl
  | some l => by_cases hnm : n = m <;> simp [hnm, hf]

theorem phaseAt_concat (ls : List Listener) (l : Listener) (m : Nat) :
    phaseAt (ls ++ [l]) m = if m = ls.length then some l.phase else phaseAt ls m := by
  by_cases hm : m = ls.length
  · simp [phaseAt, hm]
  · by_cases hlt : m < ls.length
    · simp [phaseAt, hm, List.getElem?_append_left hlt]
    · have hnone : (ls ++ [l])[m]? = none := by
        rw [List.getElem?_eq_none_iff, List.length_append, List.length_singleton]
        omega
      have hnone' : ls[m]? = none := List.getElem?_eq_none_iff.2 (by omega)
      simp [phaseAt, hm, hnone, hnone']

theorem Listener.phase_accept (l : Listener) : l.accept.phase = l.phase := by
  unfold Listener.accept
  split <;> rfl

theorem Listener.phase_answered (l : Listener) : l.answered.phase = l.phase := rfl

theorem Listener.opener?_eq_some {l : Listener} {call : Nat} : l.opener? = some call ↔ l.phase = .opening call := by
  unfold Listener.opener?
  split <;> simp_all

theorem Listener.closer?_eq_some {l : Listener} {closer : Closer} :
    l.closer? = some closer ↔ l.phase = .closing closer := by
  unfold Listener.closer?
  split <;> simp_all

namespace State

variable {σ : Type} {courier : Courier σ} {s : Setup} {st st' : State σ} {e : Event}

/-- how far the listener with a number is -/
abbrev phase? (st : State σ) (n : Nat) : Option Phase := phaseAt st.listeners n

theorem opener?_iff_phase {n call : Nat} :
    st.listeners[n]?.bind Listener.opener? = some call ↔ st.phase? n = some (.opening call) := by
  simp only [Option.bind_eq_some_iff, phaseAt_eq_some, Listener.opener?_eq_some]

theorem closer?_iff_phase {n : Nat} {closer : Closer} :
    st.listeners[n]?.bind Listener.closer? = some closer ↔ st.phase? n = some (.closing closer) := by
  simp only [Option.bind_eq_some_iff, phaseAt_eq_some, Listener.closer?_eq_some]

/-! ## Steps -/

/-- two states differ in their surroundings, and in the end of the process, at most -/
structure Alike (st st' : State σ) : Prop where
  listeners : st'.listeners = st.listeners
  current : st'.current = st.current
  handlers : st'.handlers = st.handlers
  calls : st'.calls = st.calls
  settled : st'.settled = st.settled

theorem alike_refl (st : State σ) : Alike st st := ⟨rfl, rfl, rfl, rfl, rfl⟩

theorem Alike.trans {st'' : State σ} (h : Alike st st') (h' : Alike st' st'') : Alike st st'' :=
  ⟨h'.listeners.trans h.listeners, h'.current.trans h.current, h'.handlers.trans h.handlers, h'.calls.trans h.calls,
    h'.settled.trans h.settled⟩

theorem alike_log (c : Log.Call) : Alike st (st.log courier c) := ⟨rfl, rfl, rfl, rfl, rfl⟩

theorem Alike.exit (h : Alike st st') (code : Nat) : Alike st (st'.exit courier code) := by
  unfold State.exit
  split
  · exact h
  · exact ⟨h.listeners, h.current, h.handlers, h.calls, h.settled⟩

/-- what an event does, apart from log calls and the end of the process -/
inductive Did (courier : Courier σ) (st : State σ) : Event → State σ → Prop
  /-- the host, or the clock, finds nothing to do -/
  | nothing {e : Event} (h : e.ofHost = true) : Did courier st e st
  /-- a start while a listener serves -/
  | startedBefore {n : Nat} (h : st.current = some n) :
      Did courier st .start (({ st with calls := st.calls + 1 }).settle st.calls (.ok ()))
  /-- a start that asks for a listener -/
  | asked (limiter : Http.Limiter) (h : st.current = none) :
      Did courier st .start
        { st with calls := st.calls + 1, listeners := st.listeners ++ [.asked st.calls limiter] }
  /-- a stop while no listener is the current one -/
  | stoppedBefore (h : st.current = none) :
      Did courier st .stop (({ st with calls := st.calls + 1 }).settle st.calls (.ok ()))
  /-- a stop that gives the current listener up -/
  | stopping {n : Nat} (h : st.current = some n) :
      Did courier st .stop (({ st with calls := st.calls + 1 }).giveUp n (.stop st.calls))
  /-- one more handler -/
  | installed : Did courier st .install { st with handlers := st.handlers + 1 }
  /-- a signal that nobody handles, or that finds no current listener -/
  | ignored {name : Signal} (h : st.handlers = 0 ∨ st.current = none) : Did courier st (.signal name) st
  /-- a signal whose first handler gives the current listener up -/
  | shutting {name : Signal} {n : Nat} (hhandlers : st.handlers ≠ 0) (h : st.current = some n) (due : Time.Instant)
      (hdue : due = (st.log courier (received name)).now courier + grace) :
      Did courier st (.signal name) (st.giveUp n (.shutdown due))
  /-- a listener is open -/
  | opened {n call : Nat} (h : st.phase? n = some (.opening call)) :
      Did courier st (.listening n) { (st.move n .serving).settle call (.ok ()) with current := some n }
  /-- a listener cannot be opened -/
  | refused {n call : Nat} {message : String} (h : st.phase? n = some (.opening call)) :
      Did courier st (.listenFailed n message) ((st.move n .closed).settle call (.error message))
  /-- a request comes -/
  | accepted (n : Nat) : Did courier st (.accepted n) (st.onListener n .accept)
  /-- a request is answered -/
  | answered (n : Nat) : Did courier st (.answered n) (st.onListener n .answered)
  /-- a listener has closed -/
  | closed {n : Nat} {l : Listener} {closer : Closer} (h : st.listeners[n]? = some l) (hphase : l.phase = .closing closer)
      (hanswered : l.handling = 0) :
      Did courier st (.closed n) { st.move n .closed with settled := closer.settles (.ok ()) ++ st.settled }
  /-- a listener cannot be closed -/
  | kept {n : Nat} {closer : Closer} {message : String} (h : st.phase? n = some (.closing closer)) :
      Did courier st (.closeFailed n message)
        { st.move n .serving with settled := closer.settles (.error message) ++ st.settled }

/-- a handler that finds nothing to stop -/
theorem shutDown_idle (courier : Courier σ) (name : Signal) (h : st.current = none) :
    st.shutDown courier name = (true, st.log courier (received name)) := by
  have hcurrent : (st.log courier (received name)).current = none := h
  unfold shutDown received at *
  simp only [hcurrent]

/-- a handler that gives the current listener up -/
theorem shutDown_running (courier : Courier σ) (name : Signal) {n : Nat} (h : st.current = some n) :
    st.shutDown courier name =
      (false, (st.log courier (received name)).giveUp n
        (.shutdown ((st.log courier (received name)).now courier + grace))) := by
  have hcurrent : (st.log courier (received name)).current = some n := h
  unfold shutDown received at *
  simp only [hcurrent]

/-- without a current listener handlers find nothing to stop -/
theorem shutDowns_idle (courier : Courier σ) (name : Signal) (k : Nat) (st : State σ) (h : st.current = none) :
    (shutDowns courier name k st).1 = decide (k ≠ 0) ∧ Alike st (shutDowns courier name k st).2 := by
  induction k generalizing st with
  | zero => exact ⟨rfl, alike_refl st⟩
  | succ k ih =>
    obtain ⟨-, halike⟩ := ih (st.log courier (received name)) h
    simp only [shutDowns, shutDown_idle courier name h, Bool.true_or]
    exact ⟨by simp, (alike_log _).trans halike⟩

/-- the first handler gives the current listener up, the others find nothing to stop -/
theorem shutDowns_running (courier : Courier σ) (name : Signal) (k : Nat) {n : Nat} (h : st.current = some n) :
    let due := (st.log courier (received name)).now courier + grace
    (shutDowns courier name (k + 1) st).1 = decide (k ≠ 0) ∧
      Alike (st.giveUp n (.shutdown due)) (shutDowns courier name (k + 1) st).2 := by
  intro due
  have hgiven : Alike (st.giveUp n (.shutdown due)) ((st.log courier (received name)).giveUp n (.shutdown due)) :=
    ⟨rfl, rfl, rfl, rfl, rfl⟩
  obtain ⟨hidle, halike⟩ :=
    shutDowns_idle courier name k ((st.log courier (received name)).giveUp n (.shutdown due)) rfl
  simp only [shutDowns, shutDown_running courier name h, Bool.false_or]
  exact ⟨hidle, hgiven.trans halike⟩

theorem did_signal (name : Signal) :
    ∃ st₁, Did courier st (.signal name) st₁ ∧ Alike st₁ (st.signal courier name) := by
  have hexit : ∀ (b : Bool) (st₁ : State σ), Alike st₁ (if b then st₁.exit courier 0 else st₁) := by
    intro b st₁
    cases b
    · exact alike_refl st₁
    · exact (alike_refl st₁).exit 0
  cases hcurrent : st.current with
  | none =>
    obtain ⟨-, halike⟩ := shutDowns_idle courier name st.handlers st hcurrent
    exact ⟨st, .ignored (.inr hcurrent), halike.trans (hexit _ _)⟩
  | some n =>
    cases hhandlers : st.handlers with
    | zero =>
      refine ⟨st, .ignored (.inl hhandlers), ?_⟩
      simp only [signal, hhandlers, shutDowns]
      exact alike_refl st
    | succ k =>
      obtain ⟨-, halike⟩ := shutDowns_running courier name k hcurrent
      refine ⟨_, .shutting (by simp [hhandlers]) hcurrent _ rfl, halike.trans ?_⟩
      simp only [signal, hhandlers]
      exact hexit _ _

theorem did_listening (n : Nat) : ∃ st₁, Did courier st (.listening n) st₁ ∧ Alike st₁ (st.listening courier s n) := by
  unfold listening
  split
  · rename_i call hopener
    exact ⟨_, .opened (opener?_iff_phase.1 hopener), ⟨rfl, rfl, rfl, rfl, rfl⟩⟩
  · exact ⟨st, .nothing rfl, alike_refl st⟩

theorem did_listenFailed (n : Nat) (message : String) :
    ∃ st₁, Did courier st (.listenFailed n message) st₁ ∧ Alike st₁ (st.listenFailed n message) := by
  unfold listenFailed
  split
  · rename_i call hopener
    exact ⟨_, .refused (opener?_iff_phase.1 hopener), alike_refl _⟩
  · exact ⟨st, .nothing rfl, alike_refl st⟩

theorem did_closed (n : Nat) : ∃ st₁, Did courier st (.closed n) st₁ ∧ Alike st₁ (st.closed courier n) := by
  unfold State.closed
  split
  · rename_i closer hcloser
    obtain ⟨l, hl, hphase⟩ := Option.bind_eq_some_iff.1 hcloser
    rw [Option.filter_eq_some_iff] at hl
    rw [Listener.closer?_eq_some] at hphase
    refine ⟨_, .closed hl.1 hphase (by simpa using hl.2), ?_⟩
    cases closer with
    | stop call => exact ⟨rfl, rfl, rfl, rfl, rfl⟩
    | shutdown due =>
      refine Alike.exit ?_ 0
      exact ⟨rfl, rfl, rfl, rfl, rfl⟩
  · exact ⟨st, .nothing rfl, alike_refl st⟩

theorem did_closeFailed (n : Nat) (message : String) :
    ∃ st₁, Did courier st (.closeFailed n message) st₁ ∧ Alike st₁ (st.closeFailed courier n message) := by
  unfold closeFailed
  split
  · rename_i call hcloser
    exact ⟨_, .kept (closer?_iff_phase.1 hcloser), ⟨rfl, rfl, rfl, rfl, rfl⟩⟩
  · rename_i due hcloser
    refine ⟨_, .kept (closer?_iff_phase.1 hcloser), Alike.exit ?_ 0⟩
    exact ⟨rfl, rfl, rfl, rfl, rfl⟩
  · exact ⟨st, .nothing rfl, alike_refl st⟩

/-- **A step does what its event does.** -/
theorem did_step (courier : Courier σ) (s : Setup) (st : State σ) (e : Event) :
    ∃ st₁, Did courier st e st₁ ∧ Alike st₁ (st.step courier s e) := by
  cases e with
  | start =>
    simp only [step, start]
    split
    · rename_i n hcurrent
      exact ⟨_, .startedBefore hcurrent, alike_refl _⟩
    · rename_i hcurrent
      exact ⟨_, .asked _ hcurrent, ⟨rfl, rfl, rfl, rfl, rfl⟩⟩
  | stop =>
    simp only [step, stop]
    split
    · rename_i hcurrent
      exact ⟨_, .stoppedBefore hcurrent, alike_refl _⟩
    · rename_i n hcurrent
      exact ⟨_, .stopping hcurrent, alike_refl _⟩
  | install => exact ⟨_, .installed, alike_refl _⟩
  | signal name => exact did_signal name
  | listening n => exact did_listening n
  | listenFailed n message => exact did_listenFailed n message
  | accepted n => exact ⟨_, .accepted n, alike_refl _⟩
  | answered n => exact ⟨_, .answered n, alike_refl _⟩
  | closed n => exact did_closed n
  | closeFailed n message => exact did_closeFailed n message
  | advance ms =>
    refine ⟨st, .nothing rfl, ?_⟩
    simp only [step, advance]
    split
    · refine Alike.exit ?_ 1
      exact ⟨rfl, rfl, rfl, rfl, rfl⟩
    · exact ⟨rfl, rfl, rfl, rfl, rfl⟩

/-! ## Phases -/

/-- what becomes of the listener with a number -/
inductive Becomes (courier : Courier σ) (st : State σ) (n : Nat) : Event → Option Phase → Phase → Prop
  | asked (h : st.current = none) (hn : n = st.listeners.length) : Becomes courier st n .start none (.opening st.calls)
  | stopping (h : st.current = some n) : Becomes courier st n .stop (some .serving) (.closing (.stop st.calls))
  | shutting {name : Signal} (hhandlers : st.handlers ≠ 0) (h : st.current = some n) (due : Time.Instant)
      (hdue : due = (st.log courier (received name)).now courier + grace) :
      Becomes courier st n (.signal name) (some .serving) (.closing (.shutdown due))
  | opened {call : Nat} : Becomes courier st n (.listening n) (some (.opening call)) .serving
  | refused {call : Nat} {message : String} :
      Becomes courier st n (.listenFailed n message) (some (.opening call)) .closed
  | closed {closer : Closer} : Becomes courier st n (.closed n) (some (.closing closer)) .closed
  | kept {closer : Closer} {message : String} :
      Becomes courier st n (.closeFailed n message) (some (.closing closer)) .serving

/-- the current listener serves -/
def Serves (st : State σ) : Prop := ∀ n, st.current = some n → st.phase? n = some .serving

/-- a listener that moves from one phase to another, the others staying where they are -/
theorem phase?_move {n : Nat} {p : Phase} (h : st.phase? n = some p) (q : Phase) (m : Nat) :
    (m ≠ n ∧ (st.move n q).phase? m = st.phase? m) ∨ m = n ∧ (st.move n q).phase? m = some q := by
  have hmove : (st.move n q).phase? m = if n = m then (st.phase? m).map (fun _ => q) else st.phase? m := by
    refine phaseAt_modify ?_ n m
    intro l
    rfl
  by_cases hnm : n = m
  · subst hnm
    rw [if_pos rfl, h] at hmove
    exact .inr ⟨rfl, hmove⟩
  · rw [if_neg hnm] at hmove
    exact .inl ⟨Ne.symm hnm, hmove⟩

theorem phase?_moved {n : Nat} {p q : Phase} (h : st.phase? n = some p) : (st.move n q).phase? n = some q := by
  rcases phase?_move h q n with ⟨hne, -⟩ | ⟨-, hto⟩
  · exact absurd rfl hne
  · exact hto

/-- **What becomes of a listener.** It stays as it is, or is asked for, opened, refused, given up, closed or kept. -/
theorem becomes_did {st₁ : State σ} (hs : st.Serves) (hdid : Did courier st e st₁) (m : Nat) :
    st₁.phase? m = st.phase? m ∨ ∃ p, st₁.phase? m = some p ∧ Becomes courier st m e (st.phase? m) p := by
  cases hdid with
  | nothing => exact .inl rfl
  | startedBefore => exact .inl rfl
  | asked limiter h =>
    have hconcat := phaseAt_concat st.listeners (.asked st.calls limiter) m
    by_cases hm : m = st.listeners.length
    · rw [if_pos hm] at hconcat
      have hnone : st.phase? m = none := by simp [phase?, phaseAt, hm]
      rw [hnone]
      exact .inr ⟨_, hconcat, .asked h hm⟩
    · rw [if_neg hm] at hconcat
      exact .inl hconcat
  | stoppedBefore => exact .inl rfl
  | @stopping n h =>
    rcases phase?_move (hs n h) (.closing (.stop st.calls)) m with ⟨-, hsame⟩ | ⟨rfl, hto⟩
    · exact .inl hsame
    · rw [hs m h]
      exact .inr ⟨_, hto, .stopping h⟩
  | installed => exact .inl rfl
  | ignored => exact .inl rfl
  | @shutting name n hhandlers h due hdue =>
    rcases phase?_move (hs n h) (.closing (.shutdown due)) m with ⟨-, hsame⟩ | ⟨rfl, hto⟩
    · exact .inl hsame
    · rw [hs m h]
      exact .inr ⟨_, hto, .shutting hhandlers h due hdue⟩
  | opened h =>
    rcases phase?_move h .serving m with ⟨-, hsame⟩ | ⟨rfl, hto⟩
    · exact .inl hsame
    · rw [h]
      exact .inr ⟨_, hto, .opened⟩
  | refused h =>
    rcases phase?_move h .closed m with ⟨-, hsame⟩ | ⟨rfl, hto⟩
    · exact .inl hsame
    · rw [h]
      exact .inr ⟨_, hto, .refused⟩
  | accepted n => exact .inl (phaseAt_modify_same Listener.phase_accept n m)
  | answered n => exact .inl (phaseAt_modify_same Listener.phase_answered n m)
  | @closed n l closer h hphase hanswered =>
    have hfrom : st.phase? n = some (.closing closer) := phaseAt_eq_some.2 ⟨l, h, hphase⟩
    rcases phase?_move hfrom .closed m with ⟨-, hsame⟩ | ⟨rfl, hto⟩
    · exact .inl hsame
    · rw [hfrom]
      exact .inr ⟨_, hto, .closed⟩
  | kept h =>
    rcases phase?_move h .serving m with ⟨-, hsame⟩ | ⟨rfl, hto⟩
    · exact .inl hsame
    · rw [h]
      exact .inr ⟨_, hto, .kept⟩

/-- the current listener after an event: the one before, none, or one that was opened -/
theorem current_did {st₁ : State σ} (hdid : Did courier st e st₁) :
    st₁.current = st.current ∨
      st₁.current = none ∧ (e = .stop ∨ ∃ name, e = .signal name ∧ st.handlers ≠ 0) ∨
      ∃ n call, e = .listening n ∧ st.phase? n = some (.opening call) ∧ st₁.current = some n := by
  cases hdid with
  | stopping => exact .inr (.inl ⟨rfl, .inl rfl⟩)
  | @shutting name n hhandlers => exact .inr (.inl ⟨rfl, .inr ⟨name, rfl, hhandlers⟩⟩)
  | @opened n call h => exact .inr (.inr ⟨n, call, rfl, h, rfl⟩)
  | _ => exact .inl rfl

/-- a listener that serves is not the one that moves from another phase -/
theorem serving_move {n m : Nat} {p : Phase} (h : st.phase? n = some p) (hne : p ≠ .serving) (q : Phase)
    (hm : st.phase? m = some .serving) : (st.move n q).phase? m = some .serving := by
  rcases phase?_move h q m with ⟨-, hsame⟩ | ⟨rfl, -⟩
  · rw [hsame, hm]
  · rw [h] at hm
    exact absurd (Option.some.inj hm) hne

theorem serves_did {st₁ : State σ} (hs : st.Serves) (hdid : Did courier st e st₁) : st₁.Serves := by
  intro m hm
  cases hdid with
  | nothing => exact hs m hm
  | startedBefore => exact hs m hm
  | asked limiter h =>
    rw [show st.current = some m from hm] at h
    cases h
  | stoppedBefore => exact hs m hm
  | stopping => cases hm
  | installed => exact hs m hm
  | ignored => exact hs m hm
  | shutting => cases hm
  | opened h =>
    cases hm
    exact phase?_moved h
  | refused h => exact serving_move h (by simp) .closed (hs m hm)
  | accepted n => exact (phaseAt_modify_same Listener.phase_accept n m).trans (hs m hm)
  | answered n => exact (phaseAt_modify_same Listener.phase_answered n m).trans (hs m hm)
  | @closed n l closer h hphase hanswered =>
    exact serving_move (phaseAt_eq_some.2 ⟨l, h, hphase⟩) (by simp) .closed (hs m hm)
  | kept h => exact serving_move h (by simp) .serving (hs m hm)

/-! ## Calls -/

/-- a call waits for the listener with a number to open or to close -/
def Waits (st : State σ) (n call : Nat) : Prop := ∃ p, st.phase? n = some p ∧ p.call? = some call

theorem lookup_cons_eq (settled : List (Nat × Except String Unit)) (c call : Nat) (r : Except String Unit) :
    ((c, r) :: settled).lookup call = if call = c then some r else settled.lookup call := by
  rw [List.lookup_cons]
  by_cases h : call = c
  · simp [h]
  · have hne : (call == c) = false := by simpa using h
    rw [if_neg h, hne]

/-- one more call comes out: the one that was just made, or one that has waited for a listener and does no more -/
structure Settles (st st₁ : State σ) (c : Nat) (r : Except String Unit) : Prop where
  results : ∀ call, st₁.result? call = if call = c then some r else st.result? call
  called : c = st.calls ∧ st₁.calls = st.calls + 1 ∧ st₁.listeners = st.listeners ∨
    st₁.calls = st.calls ∧ ∃ n, st.Waits n c ∧ ∀ p, st₁.phase? n = some p → p.call? = none

/-- **An event settles one call at most.** -/
theorem settles_did {st₁ : State σ} (hdid : Did courier st e st₁) :
    (∀ call, st₁.result? call = st.result? call) ∨ ∃ c r, Settles st st₁ c r := by
  have hmoved : ∀ {n : Nat} {p q : Phase}, st.phase? n = some p → q.call? = none →
      ∀ p', (st.move n q).phase? n = some p' → p'.call? = none := by
    intro n p q h hq p' hp'
    rw [phase?_moved h] at hp'
    cases hp'
    exact hq
  have hcloser : ∀ {n : Nat} {closer : Closer} {q : Phase} (r : Except String Unit),
      st.phase? n = some (.closing closer) → q.call? = none →
      (∀ call, ({ st.move n q with settled := closer.settles r ++ st.settled } : State σ).result? call =
        st.result? call) ∨
      ∃ c r', Settles st { st.move n q with settled := closer.settles r ++ st.settled } c r' := by
    intro n closer q r h hq
    cases closer with
    | stop call =>
      exact .inr ⟨call, r, fun c => lookup_cons_eq st.settled call c r, .inr ⟨rfl, n, ⟨_, h, rfl⟩, hmoved h hq⟩⟩
    | shutdown due => exact .inl fun _ => rfl
  cases hdid with
  | startedBefore h => exact .inr ⟨st.calls, _, fun c => lookup_cons_eq st.settled _ c _, .inl ⟨rfl, rfl, rfl⟩⟩
  | stoppedBefore h => exact .inr ⟨st.calls, _, fun c => lookup_cons_eq st.settled _ c _, .inl ⟨rfl, rfl, rfl⟩⟩
  | @opened n call h =>
    exact .inr ⟨call, _, fun c => lookup_cons_eq st.settled _ c _, .inr ⟨rfl, n, ⟨_, h, rfl⟩, hmoved h rfl⟩⟩
  | @refused n call message h =>
    exact .inr ⟨call, _, fun c => lookup_cons_eq st.settled _ c _, .inr ⟨rfl, n, ⟨_, h, rfl⟩, hmoved h rfl⟩⟩
  | @closed n l closer h hphase hanswered => exact hcloser _ (phaseAt_eq_some.2 ⟨l, h, hphase⟩) rfl
  | kept h => exact hcloser _ h rfl
  | _ => exact .inl fun _ => rfl

/-- a call that waits after an event has waited before, or was just made and is the only one to wait for the listener -/
theorem waits_did {st₁ : State σ} (hs : st.Serves) (hdid : Did courier st e st₁) {n call : Nat}
    (h : st₁.Waits n call) :
    st.Waits n call ∨ call = st.calls ∧ st₁.calls = st.calls + 1 ∧ (∀ c, st₁.result? c = st.result? c) ∧
      (st.current = none ∧ n = st.listeners.length ∨ st.current = some n) := by
  obtain ⟨p, hp, hcall⟩ := h
  rcases becomes_did hs hdid n with hsame | ⟨q, hq, hbecomes⟩
  · rw [hsame] at hp
    exact .inl ⟨p, hp, hcall⟩
  rw [hq] at hp
  cases hp
  generalize hfrom : st.phase? n = from_ at hbecomes
  cases hbecomes with
  | asked h hn =>
    cases hcall
    cases hdid with
    | startedBefore h' =>
      rw [h] at h'
      cases h'
    | asked limiter h' => exact .inr ⟨rfl, rfl, fun _ => rfl, .inl ⟨h, hn⟩⟩
    | nothing h' => cases h'
  | stopping h =>
    cases hcall
    cases hdid with
    | stoppedBefore h' =>
      rw [h] at h'
      cases h'
    | stopping h' => exact .inr ⟨rfl, rfl, fun _ => rfl, .inr h⟩
    | nothing h' => cases h'
  | shutting hhandlers h due => cases hcall
  | opened => cases hcall
  | refused => cases hcall
  | closed => cases hcall
  | kept => cases hcall

/-- what a server remembers of its calls is right: the current listener serves, calls are counted, a call that waits
has not come out, and no two listeners are waited for by the same call -/
structure Ledger (st : State σ) : Prop where
  serves : st.Serves
  called : ∀ call r, st.result? call = some r → call < st.calls
  waiting : ∀ n call, st.Waits n call → call < st.calls ∧ st.result? call = none
  alone : ∀ n m call, st.Waits n call → st.Waits m call → n = m

theorem calls_did {st₁ : State σ} (hdid : Did courier st e st₁) : st.calls ≤ st₁.calls := by
  cases hdid with
  | startedBefore => exact Nat.le_succ _
  | asked => exact Nat.le_succ _
  | stoppedBefore => exact Nat.le_succ _
  | stopping => exact Nat.le_succ _
  | _ => exact Nat.le_refl _

theorem ledger_did {st₁ : State σ} (h : st.Ledger) (hdid : Did courier st e st₁) : st₁.Ledger := by
  have hcalls := calls_did hdid
  constructor
  case serves => exact serves_did h.serves hdid
  case called =>
    intro call r hr
    rcases settles_did hdid with hsame | ⟨c, r', hsettles⟩
    · rw [hsame] at hr
      exact lt_of_lt_of_le (h.called call r hr) hcalls
    rw [hsettles.results] at hr
    by_cases hc : call = c
    · subst hc
      rcases hsettles.called with ⟨rfl, hmore, -⟩ | ⟨-, n, hwaits, -⟩
      · omega
      · exact lt_of_lt_of_le (h.waiting n call hwaits).1 hcalls
    · rw [if_neg hc] at hr
      exact lt_of_lt_of_le (h.called call r hr) hcalls
  case waiting =>
    intro n call hwaits
    rcases waits_did h.serves hdid hwaits with hbefore | ⟨rfl, hmore, hresults, -⟩
    · obtain ⟨hlt, hnone⟩ := h.waiting n call hbefore
      refine ⟨lt_of_lt_of_le hlt hcalls, ?_⟩
      rcases settles_did hdid with hsame | ⟨c, r', hsettles⟩
      · rw [hsame, hnone]
      rw [hsettles.results, if_neg ?_, hnone]
      rintro rfl
      rcases hsettles.called with ⟨rfl, -⟩ | ⟨-, m, hm, hleft⟩
      · exact absurd hlt (lt_irrefl _)
      · obtain rfl := h.alone n m call hbefore hm
        obtain ⟨p, hp, hcall⟩ := hwaits
        rw [hleft p hp] at hcall
        cases hcall
    · refine ⟨by omega, ?_⟩
      rw [hresults]
      cases hr : st.result? st.calls with
      | none => rfl
      | some r => exact absurd (h.called _ r hr) (lt_irrefl _)
  case alone =>
    intro n m call hn hm
    rcases waits_did h.serves hdid hn with hn | ⟨rfl, -, -, hn⟩ <;>
      rcases waits_did h.serves hdid hm with hm | ⟨hcall, -, -, hm⟩
    · exact h.alone n m call hn hm
    · rw [hcall] at hn
      exact absurd (h.waiting n _ hn).1 (lt_irrefl _)
    · exact absurd (h.waiting m _ hm).1 (lt_irrefl _)
    · rcases hn with ⟨hnone, rfl⟩ | hn <;> rcases hm with ⟨hnone', rfl⟩ | hm
      · rfl
      · rw [hnone] at hm
        cases hm
      · rw [hnone'] at hn
        cases hn
      · rw [hn] at hm
        exact Option.some.inj hm

/-- how a call came out does not change any more -/
theorem result?_did {st₁ : State σ} (h : st.Ledger) (hdid : Did courier st e st₁) {call : Nat}
    {r : Except String Unit} (hr : st.result? call = some r) : st₁.result? call = some r := by
  rcases settles_did hdid with hsame | ⟨c, r', hsettles⟩
  · rw [hsame, hr]
  · rw [hsettles.results, if_neg ?_, hr]
    rintro rfl
    rcases hsettles.called with ⟨rfl, -⟩ | ⟨-, n, hwaits, -⟩
    · exact absurd (h.called _ r hr) (lt_irrefl _)
    · rw [(h.waiting n _ hwaits).2] at hr
      cases hr

theorem Ledger.of_alike (h : st.Ledger) (halike : Alike st st') : st'.Ledger := by
  obtain ⟨hserves, hcalled, hwaiting, halone⟩ := h
  obtain ⟨hlisteners, hcurrent, -, hcalls, hsettled⟩ := halike
  simp only [Serves, Waits, phase?, result?, ← hlisteners, ← hcurrent, ← hcalls, ← hsettled] at *
  exact ⟨hserves, hcalled, hwaiting, halone⟩

/-! ## Runs -/

theorem run_concat (events : List Event) (e : Event) :
    st.run courier s (events ++ [e]) = (st.run courier s events).step courier s e := by
  simp [run]

theorem run_append (before after : List Event) :
    st.run courier s (before ++ after) = (st.run courier s before).run courier s after := by
  simp [run]

theorem run_cons (events : List Event) :
    st.run courier s (e :: events) = (st.step courier s e).run courier s events := rfl

/-- **What every step keeps, a run keeps.** -/
theorem run_preserves {P : State σ → Prop} {events : List Event} (h : P st)
    (hstep : ∀ st, P st → ∀ e ∈ events, P (st.step courier s e)) : P (st.run courier s events) := by
  induction events generalizing st with
  | nil => exact h
  | cons e events ih =>
    rw [run_cons]
    refine ih (hstep st h e List.mem_cons_self) ?_
    intro st hst e he
    exact hstep st hst e (List.mem_cons_of_mem _ he)

theorem ledger_initial (surroundings : σ) : (initial surroundings).Ledger := by
  constructor
  case serves => intro n h; cases h
  case called => intro call r h; cases h
  case waiting => rintro n call ⟨p, hp, -⟩; cases hp
  case alone => rintro n m call ⟨p, hp, -⟩; cases hp

theorem ledger_step (courier : Courier σ) (s : Setup) (h : st.Ledger) (e : Event) : (st.step courier s e).Ledger := by
  obtain ⟨st₁, hdid, halike⟩ := did_step courier s st e
  exact (ledger_did h hdid).of_alike halike

/-- what a server remembers of its calls is right in every state it comes to -/
theorem ledger_run (courier : Courier σ) (s : Setup) (h : st.Ledger) (events : List Event) :
    (st.run courier s events).Ledger :=
  run_preserves h fun _ hst e _ => ledger_step courier s hst e

/-- what every step keeps while the ledger is right, a run keeps -/
theorem Ledger.preserves (h : st.Ledger) {P : State σ → Prop} {events : List Event} (hP : P st)
    (hstep : ∀ st, st.Ledger → P st → ∀ e ∈ events, P (st.step courier s e)) : P (st.run courier s events) := by
  have hkept : (st.run courier s events).Ledger ∧ P (st.run courier s events) := by
    refine run_preserves (P := fun st => st.Ledger ∧ P st) ⟨h, hP⟩ ?_
    rintro st ⟨hst, hP⟩ e he
    exact ⟨ledger_step courier s hst e, hstep st hst hP e he⟩
  exact hkept.2

/-- **What becomes of a listener in a step.** -/
theorem becomes_step (courier : Courier σ) (s : Setup) (hs : st.Serves) (e : Event) (n : Nat) :
    (st.step courier s e).phase? n = st.phase? n ∨
      ∃ p, (st.step courier s e).phase? n = some p ∧ Becomes courier st n e (st.phase? n) p := by
  obtain ⟨st₁, hdid, halike⟩ := did_step courier s st e
  simp only [phase?, halike.listeners]
  exact becomes_did hs hdid n

theorem result?_step (h : st.Ledger) {call : Nat} {r : Except String Unit} (hr : st.result? call = some r) :
    (st.step courier s e).result? call = some r := by
  obtain ⟨st₁, hdid, halike⟩ := did_step courier s st e
  have hkept := result?_did h hdid hr
  rw [result?, halike.settled]
  exact hkept

/-- **A listener that has closed never opens again.** -/
theorem closed_run (courier : Courier σ) (s : Setup) (h : st.Ledger) {n : Nat} (hn : st.phase? n = some .closed)
    (events : List Event) : (st.run courier s events).phase? n = some .closed := by
  refine h.preserves (P := fun st => st.phase? n = some .closed) hn ?_
  intro st hst hn e _
  rcases becomes_step courier s hst.serves e n with hsame | ⟨p, -, hbecomes⟩
  · rw [hsame, hn]
  · rw [hn] at hbecomes
    cases hbecomes

end State

end EnquiryMail.Server
