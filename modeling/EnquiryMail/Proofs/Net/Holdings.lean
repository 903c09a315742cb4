/-
What the network has open. Every alarm that is set belongs to something that waits: to asking for a socket, to a
reader, to a handshake. The sockets that are open, by what the wire tells of them and by what the relay has closed, are
those that the line has.

- `set_effects`, `fates_effects`: carrying effects out sets the alarms and opens and closes the sockets that they tell
  of.
- `Kept`: alarms and sockets are those of the line, and no handshake is to come to its end but one that is under way.
- `kept_happen`: whatever happens, it stays so.
-/
import EnquiryMail.Proofs.Connection.Holdings
import EnquiryMail.Proofs.Net.Answering
import EnquiryMail.Proofs.Net.Drift

namespace EnquiryMail.Net

open EnquiryMail.Smtp
open Connection (Outcome Placed Settles)

/-- what becomes of a socket when something is taken down -/
def WireEvent.fate? : WireEvent → Option Fate
  | .connect _ => some (.opened .plain)
  | .shake _ => some (.opened .tls)
  | .destroyed layer => some (.destroyed layer)
  | .wrote .. => none

namespace Line

/-- what is under way -/
def business : Line → Business
  | .idle => .rest
  | .dialing => ⟨[.connect], 0, 0⟩
  | .up c => c.business

/-- the open sockets -/
def sockets : Line → List Layer
  | .idle => []
  | .dialing => [.plain]
  | .up c => c.sockets

end Line

/-- the alarm that a thing is, with the number of its connection -/
def alarm? : Nat × Coming → Option (Nat × Alarm)
  | (number, .alarm a) => some (number, a)
  | _ => none

/-- it ends a handshake -/
def isVerdict : Nat × Coming → Bool
  | (_, .shaken) | (_, .shakeFailed _) => true
  | _ => false

theorem alarm?_late {number : Nat} {x : Coming} (hx : x.isLate = true) :
    alarm? (number, x) = none ∧ isVerdict (number, x) = false := by
  cases x <;> first | exact ⟨rfl, rfl⟩ | cases hx

/-- the next thing is one of those on the agenda, and the others are left -/
theorem Agenda.next?_perm {α : Type} {a : Agenda α} {e : Int × α} {rest : Agenda α} (h : a.next? = some (e, rest)) :
    a.Perm (e :: rest) := by
  induction a generalizing e rest with
  | nil => cases h
  | cons f a ih =>
    rw [Agenda.next?] at h
    cases hnext : Agenda.next? a with
    | none =>
      rw [hnext] at h
      cases h
      cases a with
      | nil => exact List.Perm.refl _
      | cons g a =>
        have hsome : (Agenda.next? (g :: a)).isSome := by
          rw [Agenda.next?]
          split
          · rfl
          · split <;> rfl
        rw [hnext] at hsome
        cases hsome
    | some p =>
      obtain ⟨g, others⟩ := p
      rw [hnext] at h
      dsimp only at h
      split at h
      · cases h
        exact ((ih hnext).cons f).trans (List.Perm.swap ..)
      · cases h
        exact List.Perm.refl _

namespace Network

variable {n m : Network} {held : List Layer}

/-! ## What is set and what is recorded -/

/-- the alarms on the agenda -/
def set (n : Network) : List (Nat × Alarm) := n.agenda.filterMap fun e => alarm? e.2

/-- every alarm that is set, each with the number of its connection -/
def armed (n : Network) : List (Nat × Alarm) := n.queue.filterMap alarm? ++ n.set

/-- the things to come that are no alarms -/
def burden (n : Network) : Nat :=
  n.queue.countP (fun x => (alarm? x).isNone) + n.agenda.countP fun e => (alarm? e.2).isNone

/-- what has been taken down since an earlier state, oldest first -/
def fresh (n n' : Network) : List WireEvent := (n'.wire.take (n'.wire.length - n.wire.length)).reverse

theorem fresh_of_wire {n n' : Network} {es : List WireEvent} (h : n'.wire = es.reverse ++ n.wire) :
    n.fresh n' = es := by
  rw [fresh, h, List.length_append, Nat.add_sub_cancel, List.take_left, List.reverse_reverse]

theorem fresh_of_same {n n' : Network} (h : n'.wire = n.wire) : n.fresh n' = [] := by
  rw [fresh, h, Nat.sub_self, List.take_zero, List.reverse_nil]

/-- what an effect leaves on the wire -/
def recorded? : Effect → Option WireEvent
  | .wrote layer text => some (.wrote layer text)
  | .shake h => some (.shake h)
  | .destroyed layer => some (.destroyed layer)
  | _ => none

theorem effect_wire (n : Network) (e : Effect) : (n.effect e).wire = (recorded? e).toList ++ n.wire := by
  cases e with
  | wrote layer text =>
    simp only [effect, reply]
    split
    · rfl
    · exact deliver_wire _ _ _
  | shake h => simp only [effect, shake]; split <;> rfl
  | _ => rfl

theorem effects_wire (n : Network) (es : List Effect) :
    (n.effects es).wire = (es.filterMap recorded?).reverse ++ n.wire := by
  induction es generalizing n with
  | nil => rfl
  | cons e es ih =>
    refine (ih (n.effect e)).trans ?_
    rw [effect_wire, List.filterMap_cons]
    cases recorded? e <;> simp

/-- the sockets that effects open and close are those that the wire tells of -/
theorem fates_effects (n : Network) (es : List Effect) :
    (n.fresh (n.effects es)).filterMap WireEvent.fate? = es.filterMap Effect.fate? := by
  rw [fresh_of_wire (effects_wire n es), List.filterMap_filterMap]
  refine List.filterMap_congr fun e _ => ?_
  cases e <;> rfl

/-! ## Carrying effects out -/

theorem set_schedule (n : Network) (delay : Int) (x : Coming) :
    (n.schedule delay x).set = n.set ++ (alarm? (n.number, x)).toList := by
  rw [set, schedule, Agenda.set, List.filterMap_append]
  cases h : alarm? (n.number, x) <;> simp [h, set]

theorem set_deliver (n : Network) (layer : Layer) (d : Delivery) : (n.deliver layer d).set = n.set := by
  unfold deliver
  split
  · rfl
  · split
    · rw [set_schedule]
      exact List.append_nil _
    · rfl

theorem set_cancel (number : Nat) (a : Alarm) (agenda : Agenda (Nat × Coming)) :
    (agenda.cancel (isAlarm number a)).filterMap (fun e => alarm? e.2) =
      (agenda.filterMap fun e => alarm? e.2).filter (· ≠ (number, a)) := by
  rw [Agenda.cancel, List.filterMap_filter, List.filter_filterMap]
  refine List.filterMap_congr fun e _ => ?_
  obtain ⟨due, k, x⟩ := e
  cases x with
  | alarm b =>
    by_cases h : (k, b) = (number, a)
    · cases h
      simp [isAlarm, alarm?, Option.filter]
    · have hkeep : isAlarm number a (k, .alarm b) = false := by
        rw [isAlarm, Bool.and_eq_false_iff, beq_eq_false_iff_ne, beq_eq_false_iff_ne]
        by_contra hne
        push Not at hne
        exact h (Prod.ext hne.1 hne.2)
      simp [hkeep, alarm?, Option.filter, h]
  | _ => simp [isAlarm, alarm?]

/-- carrying effects out sets and cancels the alarms that the business tells of -/
theorem set_effect {b : Business} (h : n.set.Perm (b.alarms.map (n.number, ·))) (e : Effect) :
    (n.effect e).set.Perm ((b.effect e).alarms.map (n.number, ·)) := by
  cases e with
  | wrote layer text =>
    simp only [effect, reply]
    split
    · exact h
    · rw [set_deliver]
      exact h
  | shake hs =>
    simp only [effect, shake]
    split <;> exact h
  | arm a delay =>
    show (n.schedule delay (.alarm a)).set.Perm ((b.alarms ++ [a]).map _)
    rw [set_schedule, List.map_append]
    exact h.append_right _
  | disarm a =>
    have hfilter : (b.alarms.map (n.number, ·)).filter (· ≠ (n.number, a)) =
        (b.alarms.filter (· ≠ a)).map (n.number, ·) := by
      rw [List.filter_map]
      refine congrArg _ (List.filter_congr fun b _ => ?_)
      simp
    show ((n.agenda.cancel _).filterMap _).Perm ((b.alarms.filter (· ≠ a)).map _)
    rw [set_cancel, ← hfilter]
    exact h.filter _
  | _ => exact h

theorem set_effects {b : Business} (h : n.set.Perm (b.alarms.map (n.number, ·))) (es : List Effect) :
    (n.effects es).set.Perm ((b.effects es).alarms.map (n.number, ·)) := by
  induction es generalizing n b with
  | nil => exact h
  | cons e es ih =>
    have hnumber := effect_number n e
    rw [← hnumber]
    exact ih (by rw [hnumber]; exact set_effect h e)

/-- a handshake does not come to its end later -/
theorem agenda_effect (h : ∀ e ∈ n.agenda, isVerdict e.2 = false) (f : Effect) :
    ∀ e ∈ (n.effect f).agenda, isVerdict e.2 = false := by
  have hset {due : Int} {x : Coming} {agenda : Agenda (Nat × Coming)} (ha : ∀ e ∈ agenda, isVerdict e.2 = false)
      (hx : isVerdict (n.number, x) = false) : ∀ e ∈ agenda.set due (n.number, x), isVerdict e.2 = false := by
    intro e he
    rcases List.mem_append.1 he with he | he
    · exact ha e he
    · rw [List.mem_singleton.1 he]
      exact hx
  cases f with
  | wrote layer text =>
    simp only [effect, reply]
    split
    · exact h
    · unfold deliver
      split
      · exact h
      · split
        · exact hset h rfl
        · exact h
  | shake hs =>
    simp only [effect, shake]
    split <;> exact h
  | arm a delay => exact hset h rfl
  | disarm a => exact fun e he => h e (List.mem_of_mem_filter he)
  | _ => exact h

theorem agenda_effects (h : ∀ e ∈ n.agenda, isVerdict e.2 = false) (es : List Effect) :
    ∀ e ∈ (n.effects es).agenda, isVerdict e.2 = false := by
  induction es generalizing n with
  | nil => exact h
  | cons e es ih => exact ih (agenda_effect h e)

/-- the relay takes part in a handshake: it comes to one end at most -/
theorem queue_shake (n : Network) (h : Handshake) :
    ∃ q, (n.effect (.shake h)).queue = n.queue ++ q ∧ (∀ x ∈ q, alarm? x = none) ∧ q.countP isVerdict ≤ 1 := by
  simp only [effect, shake]
  split
  · exact ⟨[(n.number, .shaken)], rfl, by simp [alarm?], le_refl _⟩
  · exact ⟨[(n.number, .shakeFailed _)], rfl, by simp [alarm?], le_refl _⟩
  · exact ⟨[], (List.append_nil _).symm, List.forall_mem_nil _, Nat.zero_le _⟩

/-- without a write or a handshake nothing is added but alarms -/
structure Stilled (n n' : Network) : Prop where
  queue : n'.queue = n.queue
  burden : n'.burden = n.burden
  dialed : n'.dialed = n.dialed
  number : n'.number = n.number

theorem stilled_effect {e : Effect} (he : e.still = true) (n : Network) : Stilled n (n.effect e) := by
  cases e with
  | wrote layer text => cases he
  | shake h => cases he
  | arm a delay =>
    refine ⟨rfl, ?_, rfl, rfl⟩
    simp only [effect, schedule, burden, Agenda.set, List.countP_append]
    rfl
  | disarm a =>
    refine ⟨rfl, congrArg (n.queue.countP (fun x => (alarm? x).isNone) + ·) ?_, rfl, rfl⟩
    show (n.agenda.cancel _).countP _ = _
    rw [Agenda.cancel, List.countP_filter]
    refine List.countP_congr fun e _ => ?_
    obtain ⟨due, k, x⟩ := e
    cases x <;> simp [alarm?, isAlarm]
  | _ => exact ⟨rfl, rfl, rfl, rfl⟩

theorem stilled_effects {es : List Effect} (hes : ∀ e ∈ es, e.still = true) (n : Network) :
    Stilled n (n.effects es) := by
  induction es generalizing n with
  | nil => exact ⟨rfl, rfl, rfl, rfl⟩
  | cons e es ih =>
    obtain ⟨he, hes⟩ := List.forall_mem_cons.1 hes
    have h₁ := stilled_effect he n
    have h₂ := ih hes (n.effect e)
    exact ⟨h₂.queue.trans h₁.queue, h₂.burden.trans h₁.burden, h₂.dialed.trans h₁.dialed, h₂.number.trans h₁.number⟩

/-! ## What is kept -/

/-- every alarm belongs to what is under way, the open sockets are those of the line, and no handshake is to come to
its end but one that is under way -/
structure Kept (held : List Layer) (n : Network) : Prop where
  set : n.set.Perm (n.line.business.alarms.map (n.number, ·))
  queue : ∀ x ∈ n.queue, alarm? x = none
  agenda : ∀ e ∈ n.agenda, isVerdict e.2 = false
  verdicts : n.queue.countP isVerdict ≤ n.line.business.handshakes
  sockets : n.line.sockets = held
  placed : ∀ c, n.line = .up c → ∃ phase?, Placed c phase?

theorem Kept.armed (h : Kept held n) : n.armed.Perm (n.line.business.alarms.map (n.number, ·)) := by
  rw [Network.armed, List.filterMap_eq_nil_iff.2 h.queue]
  exact h.set

theorem Kept.enqueue (h : Kept held n) {x : Coming} (hx : x.isLate = true) : Kept held (n.enqueue x) where
  set := h.set
  queue y hy := by
    rcases List.mem_append.1 hy with hy | hy
    · exact h.queue y hy
    · rw [List.mem_singleton.1 hy]
      exact (alarm?_late hx).1
  agenda := h.agenda
  verdicts := by
    show (n.queue ++ [(n.number, x)]).countP isVerdict ≤ _
    rw [List.countP_append, List.countP_singleton, (alarm?_late hx).2]
    exact h.verdicts
  sockets := h.sockets
  placed := h.placed

theorem Kept.schedule (h : Kept held n) (delay : Int) {x : Coming} (hx : x.isLate = true) :
    Kept held (n.schedule delay x) where
  set := by
    rw [set_schedule, (alarm?_late hx).1]
    exact (List.append_nil n.set).symm ▸ h.set
  queue := h.queue
  agenda e he := by
    rcases List.mem_append.1 he with he | he
    · exact h.agenda e he
    · rw [List.mem_singleton.1 he]
      exact (alarm?_late hx).2
  verdicts := h.verdicts
  sockets := h.sockets
  placed := h.placed

theorem Kept.deliver (h : Kept held n) (layer : Layer) (d : Delivery) : Kept held (n.deliver layer d) := by
  unfold Network.deliver
  split
  · exact h
  · split
    · exact h.schedule _ rfl
    · exact h.enqueue rfl

/-- effects are carried out while the line changes with them -/
theorem kept_carried {b : Business} {es : List Effect} (l : Line) (hset : m.set.Perm (b.alarms.map (m.number, ·)))
    (hagenda : ∀ e ∈ m.agenda, isVerdict e.2 = false) (hbooks : b.effects es = l.business)
    (hqueue : ∀ x ∈ (({ m with line := l } : Network).effects es).queue, alarm? x = none)
    (hverdicts : (({ m with line := l } : Network).effects es).queue.countP isVerdict ≤ l.business.handshakes)
    (hplaced : ∀ c, l = .up c → ∃ phase?, Placed c phase?) :
    Kept l.sockets (({ m with line := l } : Network).effects es) := by
  have hline := effects_line { m with line := l } es
  refine ⟨?_, hqueue, ?_, ?_, congrArg Line.sockets hline, ?_⟩
  · rw [hline, effects_number, ← hbooks]
    exact set_effects (n := { m with line := l }) hset es
  · exact agenda_effects (n := { m with line := l }) hagenda es
  · rw [hline]
    exact hverdicts
  · rw [hline]
    exact hplaced

/-- without a write or a handshake the queue stays as it is -/
theorem kept_effects {b : Business} (l : Line) (es : List Effect) (hset : m.set.Perm (b.alarms.map (m.number, ·)))
    (hqueue : ∀ x ∈ m.queue, alarm? x = none) (hagenda : ∀ e ∈ m.agenda, isVerdict e.2 = false)
    (hes : ∀ e ∈ es, e.still = true) (hbooks : b.effects es = l.business)
    (hverdicts : m.queue.countP isVerdict ≤ l.business.handshakes)
    (hplaced : ∀ c, l = .up c → ∃ phase?, Placed c phase?) :
    Kept l.sockets (({ m with line := l } : Network).effects es) := by
  have hstill := (stilled_effects hes { m with line := l }).queue
  refine kept_carried l hset hagenda hbooks ?_ ?_ hplaced
  · rw [hstill]
    exact hqueue
  · rw [hstill]
    exact hverdicts

/-- the connection of the line does something, and neither writes nor starts a handshake -/
theorem Kept.onConnection (h : Kept held n) {c : Connection} (hline : n.line = .up c) {f : Connection → Outcome}
    {b : Business} (halarms : b.alarms = c.business.alarms) (hbooks : b.effects (f c).2 = (f c).1.business)
    (hstill : ∀ e ∈ (f c).2, e.still = true) (hhandshakes : c.business.handshakes ≤ (f c).1.business.handshakes)
    (hplaced : ∃ phase?, Placed (f c).1 phase?)
    (hsockets : heldAfter c.sockets ((f c).2.filterMap Effect.fate?) = (f c).1.sockets) :
    Kept (heldAfter held ((n.fresh (n.onConnection f)).filterMap WireEvent.fate?)) (n.onConnection f) := by
  have hset := h.set
  have hverdicts := h.verdicts
  rw [hline, Line.business] at hset hverdicts
  rw [← halarms] at hset
  have hkept : Kept (f c).1.sockets (({ n with line := .up (f c).1 } : Network).effects (f c).2) :=
    kept_effects (.up (f c).1) (f c).2 hset h.queue h.agenda hstill hbooks (hverdicts.trans hhandshakes)
      fun c' hc' => by cases hc'; exact hplaced
  have hfates := fates_effects { n with line := .up (f c).1 } (f c).2
  rw [← hsockets, ← hfates, ← onConnection_of_line hline f] at hkept
  rw [← h.sockets, hline]
  exact hkept

/-! ## One thing -/

/-- the next thing on the queue or the agenda, and the network when it is about to happen -/
def upcoming? (n : Network) : Option ((Nat × Coming) × Network) :=
  match n.queue with
  | x :: rest => some (x, { n with queue := rest })
  | [] =>
    match n.agenda.next? with
    | some ((due, x), rest) => some (x, { n with agenda := rest, world := { n.world with now := due } })
    | none => none

/-- a thing comes off the queue; when the queue is empty, one comes off the agenda and the clock jumps to it -/
theorem upcoming?_cases {x : Nat × Coming} (hx : n.upcoming? = some (x, m)) :
    (∃ rest, n.queue = x :: rest ∧ m = { n with queue := rest }) ∨
      n.queue = [] ∧ ∃ due rest, n.agenda.next? = some ((due, x), rest) ∧
        m = { n with agenda := rest, world := { n.world with now := due } } := by
  cases hqueue : n.queue with
  | cons y rest =>
    simp only [upcoming?, hqueue, Option.some.injEq, Prod.mk.injEq] at hx
    obtain ⟨rfl, rfl⟩ := hx
    exact .inl ⟨rest, rfl, rfl⟩
  | nil =>
    cases hnext : n.agenda.next? with
    | none =>
      simp only [upcoming?, hqueue, hnext] at hx
      cases hx
    | some p =>
      obtain ⟨⟨due, y⟩, rest⟩ := p
      simp only [upcoming?, hqueue, hnext, Option.some.injEq, Prod.mk.injEq] at hx
      obtain ⟨rfl, rfl⟩ := hx
      exact .inr ⟨rfl, due, rest, rfl, rfl⟩

theorem next?_eq (n : Network) : n.next? = n.upcoming?.map fun p => p.2.happen p.1 := by
  cases hq : n.queue with
  | cons x rest => simp only [next?, upcoming?, hq, Option.map_some]
  | nil => cases ha : n.agenda.next? <;> simp only [next?, upcoming?, hq, ha, Option.map_some, Option.map_none]

/-- what a thing that happens makes of a socket by itself -/
def fate? (n : Network) (x : Nat × Coming) : Option Fate :=
  match n.line with
  | .up c => if x.1 = n.number then c.fate? x.2 else none
  | _ => none

/-- what becomes of the sockets when a thing happens -/
def fates (n : Network) (x : Nat × Coming) : List Fate :=
  (n.fate? x).toList ++ (n.fresh (n.happen x)).filterMap WireEvent.fate?

/-- a thing is about to happen: an alarm that goes off is no longer set, and nothing else comes before it -/
structure About (held : List Layer) (x : Nat × Coming) (m : Network) : Prop where
  set : m.set.Perm ((m.line.business.less x.2).alarms.map (m.number, ·))
  due : ∀ a, x.2 = .alarm a → x.1 = m.number ∧ a ∈ m.line.business.alarms ∧ m.queue = []
  queue : ∀ x ∈ m.queue, alarm? x = none
  agenda : ∀ e ∈ m.agenda, isVerdict e.2 = false
  verdicts : m.queue.countP isVerdict + (if isVerdict x then 1 else 0) ≤ m.line.business.handshakes
  sockets : m.line.sockets = held
  placed : ∀ c, m.line = .up c → ∃ phase?, Placed c phase?

theorem less_of_alarm? {x : Nat × Coming} (hx : alarm? x = none) (b : Business) : b.less x.2 = b := by
  obtain ⟨number, x⟩ := x
  cases x <;> first | rfl | cases hx

theorem alarms_cons (due : Int) (x : Nat × Coming) (rest : Agenda (Nat × Coming)) :
    (((due, x) :: rest).filterMap fun e => alarm? e.2) =
      (alarm? x).toList ++ rest.filterMap fun e => alarm? e.2 := by
  rw [List.filterMap_cons]
  cases alarm? x <;> rfl

/-- a thing comes off the agenda, and nothing is on the queue -/
theorem about_agenda (h : Kept held n) {due : Int} {x : Nat × Coming}
    {rest : Agenda (Nat × Coming)} (hperm : n.agenda.Perm ((due, x) :: rest)) (w : World) :
    About held x { n with queue := [], agenda := rest, world := w } := by
  have hmem : ∀ e ∈ (due, x) :: rest, isVerdict e.2 = false := fun e he => h.agenda e (hperm.mem_iff.2 he)
  have hset : ((alarm? x).toList ++ rest.filterMap fun e => alarm? e.2).Perm
      (n.line.business.alarms.map (n.number, ·)) := by
    rw [← alarms_cons due]
    exact (hperm.filterMap _).symm.trans h.set
  have hdue : ∀ a, x.2 = .alarm a → x.1 = n.number ∧ a ∈ n.line.business.alarms := by
    rintro a ha
    obtain ⟨number, x⟩ := x
    obtain rfl : x = .alarm a := ha
    have hfirst : (number, a) ∈ n.line.business.alarms.map (n.number, ·) :=
      hset.mem_iff.1 List.mem_cons_self
    obtain ⟨b, hb, heq⟩ := List.mem_map.1 hfirst
    cases heq
    exact ⟨rfl, hb⟩
  refine ⟨?_, fun a ha => ⟨(hdue a ha).1, (hdue a ha).2, rfl⟩, List.forall_mem_nil _,
    fun e he => hmem e (List.mem_cons_of_mem _ he), ?_, h.sockets, h.placed⟩
  · cases hx : alarm? x with
    | none =>
      rw [hx] at hset
      rw [less_of_alarm? hx]
      exact hset
    | some p =>
      obtain ⟨number, x⟩ := x
      cases x with
      | alarm a =>
        obtain rfl : number = n.number := (hdue a rfl).1
        replace hset : ((n.number, a) :: rest.filterMap fun e => alarm? e.2).Perm
            (n.line.business.alarms.map (n.number, ·)) := hset
        have herase := hset.erase (n.number, a)
        rw [List.erase_cons_head, ← List.map_erase (fun b c hbc => congrArg Prod.snd hbc)] at herase
        exact herase
      | _ => cases hx
  · rw [hmem (due, x) List.mem_cons_self]
    exact Nat.zero_le _

theorem about_upcoming (h : Kept held n) {x : Nat × Coming} (hx : n.upcoming? = some (x, m)) : About held x m := by
  have hnone {y : Nat × Coming} (hy : alarm? y = none) (a : Alarm) : y.2 ≠ .alarm a := by
    obtain ⟨number, y⟩ := y
    rintro rfl
    cases hy
  rcases upcoming?_cases hx with ⟨rest, hqueue, rfl⟩ | ⟨hqueue, due, rest, hnext, rfl⟩
  · have hmem : ∀ y ∈ x :: rest, alarm? y = none := fun y hy => h.queue y (by rw [hqueue]; exact hy)
    have hfirst := hmem x List.mem_cons_self
    have hverdicts := h.verdicts
    rw [hqueue, List.countP_cons] at hverdicts
    refine ⟨?_, fun a ha => absurd ha (hnone hfirst a), fun y hy => hmem y (List.mem_cons_of_mem _ hy), h.agenda,
      hverdicts, h.sockets, h.placed⟩
    rw [less_of_alarm? hfirst]
    exact h.set
  · have habout := about_agenda h (Agenda.next?_perm hnext) { n.world with now := due }
    rw [← hqueue] at habout
    exact habout

theorem happen_other {x : Nat × Coming} (h : x.1 ≠ m.number) : m.happen x = m := if_pos h

/-- to a connection a thing does what the connection does about it -/
theorem happen_up {c : Connection} (h : m.line = .up c) (x : Coming) :
    m.happen (m.number, x) =
      ({ m with line := .up (c.meets m.world.now x).1 } : Network).effects (c.meets m.world.now x).2 := by
  have hsame : ({ m with line := .up c } : Network) = m := by rw [← h]
  rw [happen_of_number, h]
  cases x with
  | alarm a => cases a <;> exact onConnection_of_line h _
  | accepted => exact hsame.symm
  | refused message => exact hsame.symm
  | _ => exact onConnection_of_line h _

theorem happen_idle (h : m.line = .idle) (x : Coming) : m.happen (m.number, x) = m := by
  have honConnection (f : Connection → Outcome) : m.onConnection f = m := by rw [onConnection, h]
  rw [happen_of_number, h]
  cases x with
  | alarm a => cases a <;> exact honConnection _
  | accepted => rfl
  | refused message => rfl
  | _ => exact honConnection _

/-- while a socket is asked for, only the answer and the time limit do anything -/
theorem happen_dialing (h : m.line = .dialing) (x : Coming) :
    m.happen (m.number, x) =
      match x with
      | .accepted => m.dialedAs (Dial.accepted m.settings (.start m.settings))
      | .refused message => m.dialedAs (Dial.refused true message)
      | .alarm .connect => m.dialedAs (Dial.expired m.settings true)
      | _ => m := by
  have honConnection (f : Connection → Outcome) : m.onConnection f = m := by rw [onConnection, h]
  rw [happen_of_number, h]
  cases x with
  | alarm a => cases a <;> first | rfl | exact honConnection _
  | accepted => rfl
  | refused message => rfl
  | _ => exact honConnection _

/-- a thing that changes nothing -/
theorem About.kept_of_same {x : Nat × Coming} (h : About held x m) (hsame : m.happen x = m) (hx : alarm? x = none)
    (hfate : m.fate? x = none) : Kept (heldAfter held (m.fates x)) (m.happen x) := by
  have hfresh : m.fresh m = [] := fresh_of_same rfl
  rw [fates, hsame, hfate, hfresh]
  have hset := h.set
  rw [less_of_alarm? hx] at hset
  exact ⟨hset, h.queue, h.agenda, (Nat.le_add_right _ _).trans h.verdicts, h.sockets, h.placed⟩

/-- a socket is not to be had, and what was asked for is destroyed -/
theorem About.kept_failed {x : Nat × Coming} (h : About held x m) (hline : m.line = .dialing) {message : String}
    {es : List Effect} (hhappen : m.happen x = m.dialedAs (.failed message, es)) (hes : ∀ e ∈ es, e.still = true)
    (hbooks : (m.line.business.less x.2).effects es = .rest)
    (hfates : es.filterMap Effect.fate? = [.destroyed .plain]) :
    Kept (heldAfter held (m.fates x)) (m.happen x) := by
  have hverdicts := h.verdicts
  rw [hline] at hverdicts
  have hkept := kept_effects (m := m) .idle es h.set h.queue h.agenda hes hbooks
    ((Nat.le_add_right _ _).trans hverdicts) (fun c hc => by cases hc)
  have hfate : m.fate? x = none := by rw [Network.fate?, hline]
  have hfresh : (m.fresh (m.dialedAs (.failed message, es))).filterMap WireEvent.fate? = [.destroyed .plain] :=
    (fates_effects { m with line := .idle } es).trans hfates
  rw [fates, hhappen, hfate, hfresh, ← h.sockets, hline]
  exact ⟨hkept.set, hkept.queue, hkept.agenda, hkept.verdicts, hkept.sockets, hkept.placed⟩

theorem placed_start (s : Settings) : Placed (Connection.start s) none := ⟨rfl, rfl⟩

/-- the socket is there, and the relay greets -/
theorem About.kept_accepted {number : Nat} (h : About held (number, .accepted) m) (hline : m.line = .dialing)
    (hhappen : m.happen (number, .accepted) = m.dialedAs (Dial.accepted m.settings (.start m.settings))) :
    Kept (heldAfter held (m.fates (number, .accepted))) (m.happen (number, .accepted)) := by
  have hset := h.set
  rw [hline] at hset
  have hverdicts := h.verdicts
  rw [hline] at hverdicts
  have hkept := kept_effects (m := m) (.up (.start m.settings))
    (Dial.accepted m.settings (.start m.settings)).2 hset h.queue h.agenda
    (by simp [Dial.accepted, Effect.still, Connection.note]) rfl ((Nat.le_add_right _ _).trans hverdicts)
    (fun c hc => by cases hc; exact ⟨none, placed_start _⟩)
  have hgreets := hkept.deliver .plain m.greeting
  have hfate : m.fate? (number, .accepted) = none := by rw [Network.fate?, hline]
  have hfresh : m.fresh (m.dialedAs (Dial.accepted m.settings (.start m.settings))) = [] := by
    refine fresh_of_same ?_
    exact (deliver_wire _ _ _).trans (effects_wire { m with line := .up (.start m.settings) } _)
  have hheld : heldAfter held [] = (Line.up (.start m.settings)).sockets := by
    rw [← h.sockets, hline]
    rfl
  rw [fates, hhappen, hfate, hfresh]
  show Kept (heldAfter held []) _
  rw [hheld]
  exact ⟨hgreets.set, hgreets.queue, hgreets.agenda, hgreets.verdicts, hgreets.sockets, hgreets.placed⟩

/-- a connection meets a thing that happens -/
theorem About.settles {x : Coming} {c : Connection} (h : About held (m.number, x) m) (hline : m.line = .up c) :
    Settles x c (c.meets m.world.now x) := by
  obtain ⟨phase?, hc⟩ := h.placed c hline
  refine Connection.settles_meets m.world.now x hc (fun a ha => ?_) fun hx hphase => ?_
  · have hdue := (h.due a ha).2.1
    rwa [hline] at hdue
  · have hverdicts := h.verdicts
    subst hx hphase
    rw [hline, Line.business, hc.business] at hverdicts
    exact absurd hverdicts (by simp [isVerdict])

theorem About.kept_up {x : Coming} {c : Connection} (h : About held (m.number, x) m) (hline : m.line = .up c) :
    Kept (heldAfter held (m.fates (m.number, x))) (m.happen (m.number, x)) := by
  have hsettles := h.settles hline
  have hset := h.set
  rw [hline] at hset
  have hverdicts : m.queue.countP isVerdict ≤ (c.meets m.world.now x).1.business.handshakes := by
    have hcount := h.verdicts
    rw [hline] at hcount
    cases hx : x.isLate with
    | true =>
      refine ((Nat.le_add_right _ _).trans hcount).trans ?_
      exact le_of_eq (congrArg List.length (hsettles.underWay hx).symm)
    | false =>
      -- there was one handshake at most, and no alarm goes off before it has come to its end
      have hnone : m.queue.countP isVerdict = 0 := by
        obtain ⟨phase?, hc⟩ := h.placed c hline
        have hone : c.business.handshakes ≤ 1 := by
          rw [hc.business]
          dsimp only
          split <;> omega
        cases x with
        | alarm a =>
          rw [(h.due a rfl).2.2]
          rfl
        | shaken => exact Nat.le_zero.1 (Nat.le_of_succ_le_succ (hcount.trans hone))
        | shakeFailed message => exact Nat.le_zero.1 (Nat.le_of_succ_le_succ (hcount.trans hone))
        | _ => cases hx
      rw [hnone]
      exact Nat.zero_le _
  have hkept := kept_effects (m := m) (.up (c.meets m.world.now x).1) _ hset h.queue h.agenda hsettles.still
    hsettles.business hverdicts fun c' hc' => by cases hc'; exact hsettles.placed
  have hfate : m.fate? (m.number, x) = c.fate? x := by
    rw [Network.fate?, hline]
    exact if_pos rfl
  have hfresh : (m.fresh (m.happen (m.number, x))).filterMap WireEvent.fate? =
      (c.meets m.world.now x).2.filterMap Effect.fate? := by
    rw [happen_up hline]
    exact fates_effects { m with line := .up (c.meets m.world.now x).1 } _
  have hheld : heldAfter held (m.fates (m.number, x)) = (Line.up (c.meets m.world.now x).1).sockets := by
    rw [fates, hfate, hfresh, ← h.sockets, hline]
    exact hsettles.sockets
  rw [hheld, happen_up hline]
  exact hkept

/-- **Whatever happens**, the books are kept. -/
theorem kept_happen {x : Nat × Coming} (h : About held x m) : Kept (heldAfter held (m.fates x)) (m.happen x) := by
  by_cases hnumber : x.1 = m.number
  swap
  · refine h.kept_of_same (happen_other hnumber) ?_ ?_
    · obtain ⟨number, x⟩ := x
      cases x with
      | alarm a => exact absurd (h.due a rfl).1 hnumber
      | _ => rfl
    · rw [Network.fate?]
      split
      · exact if_neg hnumber
      · rfl
  obtain ⟨number, x⟩ := x
  obtain rfl : number = m.number := hnumber
  cases hline : m.line with
  | up c => exact h.kept_up hline
  | idle =>
    refine h.kept_of_same (happen_idle hline x) ?_ (by rw [Network.fate?, hline])
    cases x with
    | alarm a =>
      have hdue := (h.due a rfl).2.1
      rw [hline] at hdue
      cases hdue
    | _ => rfl
  | dialing =>
    have hhappen := happen_dialing hline x
    have hfate : m.fate? (m.number, x) = none := by rw [Network.fate?, hline]
    cases x with
    | accepted => exact h.kept_accepted hline hhappen
    | refused message =>
      refine h.kept_failed hline hhappen ?_ ?_ rfl
      · simp [Dial.givenUp, Effect.still]
      · rw [hline]
        rfl
    | alarm a =>
      have hdue := (h.due a rfl).2.1
      rw [hline] at hdue
      obtain rfl := List.mem_singleton.1 hdue
      refine h.kept_failed hline hhappen ?_ ?_ rfl
      · simp [Dial.givenUp, Effect.still]
      · rw [hline]
        rfl
    | _ => exact h.kept_of_same hhappen rfl hfate

end Network

end EnquiryMail.Net
