/-
The things to come on the connection under way. What is left over from earlier connections does nothing any more: a
wait passes it over, and what comes next on the connection is what would come next without it.

- `soon`, `later`: the things on the queue and on the agenda that belong to the connection under way.
- `Comes`: the next of them; `comes_of_wait`: a wait that ends with an answer goes on with the next of them.
- `Dated`: everything to come belongs to a connection up to now; `dated_run`: over a session it stays so.
-/
import EnquiryMail.Proofs.Net.Waiting

namespace EnquiryMail.Net

open EnquiryMail.Smtp

/-- whether a thing to come is an alarm -/
def Coming.rings (a : Alarm) : Coming → Bool
  | .alarm b => b == a
  | _ => false

/-- a thing to come on the connection with a number -/
def own? (number : Nat) (x : Nat × Coming) : Option Coming := if x.1 = number then some x.2 else none

@[simp] theorem own?_self (number : Nat) (x : Coming) : own? number (number, x) = some x := if_pos rfl

theorem own?_eq_none {number : Nat} {x : Nat × Coming} : own? number x = none ↔ x.1 ≠ number := by
  by_cases h : x.1 = number <;> simp [own?, h]

/-! ## Part of an agenda -/

namespace Agenda

variable {α β : Type}

/-- the part of an agenda that a function picks -/
def pick (p : α → Option β) (a : Agenda α) : Agenda β := a.filterMap fun e => (p e.2).map (e.1, ·)

variable {p : α → Option β} {a rest : Agenda α}

theorem pick_cons (e : Int × α) (a : Agenda α) :
    Agenda.pick p (e :: a) = ((p e.2).map (e.1, ·)).toList ++ Agenda.pick p a := by
  rw [Agenda.pick, List.filterMap_cons]
  cases p e.2 <;> rfl

theorem pick_set (due : Int) (x : α) :
    Agenda.pick p (a.set due x) = Agenda.pick p a ++ ((p x).map (due, ·)).toList := by
  rw [Agenda.pick, Agenda.set, List.filterMap_append]
  cases h : p x <;> simp [h, Agenda.pick]

theorem next?_eq_none (h : a.next? = none) : a = [] := by
  cases a with
  | nil => rfl
  | cons e a =>
    have hsome := next?_isSome (List.cons_ne_nil e a)
    rw [h] at hsome
    cases hsome

/-- nothing on the agenda is due before the next thing -/
theorem next?_le {e : Int × α} (h : a.next? = some (e, rest)) : ∀ f ∈ a, e.1 ≤ f.1 := by
  induction a generalizing e rest with
  | nil => exact List.forall_mem_nil _
  | cons g a ih =>
    rw [next?] at h
    cases hnext : Agenda.next? a with
    | none =>
      rw [hnext] at h
      cases h
      rw [next?_eq_none hnext]
      intro f hf
      rw [List.mem_singleton.1 hf]
    | some q =>
      obtain ⟨k, others⟩ := q
      have hleast := ih hnext
      rw [hnext] at h
      dsimp only at h
      split at h
      · rename_i hless
        cases h
        intro f hf
        rcases List.mem_cons.1 hf with rfl | hf
        · exact le_of_lt hless
        · exact hleast f hf
      · rename_i hless
        cases h
        intro f hf
        rcases List.mem_cons.1 hf with rfl | hf
        · exact le_refl _
        · exact (not_lt.1 hless).trans (hleast f hf)

/-- what is due first and set first stays so in a part -/
theorem next?_first {e : Int × β} {b : Agenda β} (h : ∀ f ∈ b, e.1 ≤ f.1) : Agenda.next? (e :: b) = some (e, b) := by
  rw [next?]
  cases hnext : Agenda.next? b with
  | none => rw [next?_eq_none hnext]
  | some q =>
    obtain ⟨f, others⟩ := q
    have hf : f ∈ b := (next?_perm hnext).mem_iff.2 List.mem_cons_self
    exact if_neg (not_lt.2 (h f hf))

theorem forall_pick {P : Int → Prop} (h : ∀ f ∈ a, P f.1) : ∀ f ∈ Agenda.pick p a, P f.1 := by
  intro f hf
  obtain ⟨e, he, hfe⟩ := List.mem_filterMap.1 hf
  obtain ⟨y, -, rfl⟩ := Option.map_eq_some_iff.1 hfe
  exact h e he

/-- taking something off an agenda takes it off a part if it is picked, and else leaves the part as it is -/
def Taken (p : α → Option β) (e : Int × α) (a rest : Agenda α) : Prop :=
  match p e.2 with
  | some y => (Agenda.pick p a).next? = some ((e.1, y), Agenda.pick p rest)
  | none => Agenda.pick p a = Agenda.pick p rest

theorem taken_first {e : Int × α} (h : ∀ f ∈ a, e.1 ≤ f.1) : Agenda.Taken p e (e :: a) a := by
  rw [Taken]
  cases he : p e.2 with
  | none =>
    rw [pick_cons, he]
    rfl
  | some y =>
    rw [pick_cons, he]
    exact next?_first (forall_pick h)

/-- so it does behind something that is due later -/
theorem Taken.behind {e : Int × α} (h : Agenda.Taken p e a rest) {g : Int × α} (hless : e.1 < g.1) :
    Agenda.Taken p e (g :: a) (g :: rest) := by
  rw [Taken] at h ⊢
  cases he : p e.2 with
  | none =>
    rw [he] at h
    rw [pick_cons, pick_cons]
    exact congrArg _ h
  | some y =>
    rw [he] at h
    rw [pick_cons, pick_cons]
    cases p g.2 with
    | none => exact h
    | some z =>
      show Agenda.next? ((g.1, z) :: Agenda.pick p a) = some (_, (g.1, z) :: Agenda.pick p rest)
      rw [next?, h]
      exact if_pos hless

/-- **The next thing of a part**: the next thing of all if it is picked; else nothing changes for the part. -/
theorem next?_pick {e : Int × α} (h : a.next? = some (e, rest)) : Agenda.Taken p e a rest := by
  induction a generalizing e rest with
  | nil => cases h
  | cons g a ih =>
    have hleast := next?_le h
    rw [next?] at h
    cases hnext : Agenda.next? a with
    | none =>
      obtain rfl := next?_eq_none hnext
      rw [hnext] at h
      cases h
      exact taken_first (List.forall_mem_nil _)
    | some q =>
      obtain ⟨k, others⟩ := q
      rw [hnext] at h
      dsimp only at h
      split at h
      · rename_i hless
        cases h
        exact (ih hnext).behind hless
      · cases h
        exact taken_first fun f hf => hleast f (List.mem_cons_of_mem _ hf)

theorem next?_pick_some {e : Int × α} {y : β} (h : a.next? = some (e, rest)) (he : p e.2 = some y) :
    (Agenda.pick p a).next? = some ((e.1, y), Agenda.pick p rest) := by
  have htaken : Agenda.Taken p e a rest := next?_pick h
  rw [Taken, he] at htaken
  exact htaken

theorem next?_pick_none {e : Int × α} (h : a.next? = some (e, rest)) (he : p e.2 = none) :
    Agenda.pick p a = Agenda.pick p rest := by
  have htaken : Agenda.Taken p e a rest := next?_pick h
  rw [Taken, he] at htaken
  exact htaken

end Agenda

namespace Network

variable {n m k : Network}

/-! ## The connection under way -/

/-- what happens on the connection under way as soon as the session waits -/
def soon (n : Network) : List Coming := n.queue.filterMap (own? n.number)

/-- what happens on it later -/
def later (n : Network) : Agenda Coming := Agenda.pick (own? n.number) n.agenda

theorem soon_enqueue (n : Network) (x : Coming) : (n.enqueue x).soon = n.soon ++ [x] := by
  simp [soon, enqueue]

theorem later_schedule (n : Network) (delay : Int) (x : Coming) :
    (n.schedule delay x).later = n.later.set (n.world.now + delay) x := by
  rw [later, schedule, Agenda.pick_set, own?_self]
  rfl

theorem later_disarm (n : Network) (a : Alarm) : (n.effect (.disarm a)).later = n.later.cancel (Coming.rings a) := by
  show Agenda.pick (own? n.number) (n.agenda.cancel (isAlarm n.number a)) = (Agenda.pick _ n.agenda).cancel _
  rw [Agenda.pick, Agenda.pick, Agenda.cancel, Agenda.cancel, List.filterMap_filter, List.filter_filterMap]
  refine List.filterMap_congr fun e _ => ?_
  obtain ⟨due, number, x⟩ := e
  by_cases h : number = n.number
  · subst h
    rw [own?_self]
    cases x with
    | alarm b => cases hb : b == a <;> simp [isAlarm, Coming.rings, hb, Option.filter]
    | _ => simp [isAlarm, Coming.rings, Option.filter]
  · have hnone : own? n.number (number, x) = none := own?_eq_none.2 h
    rw [hnone]
    split <;> rfl

/-- the next thing on the connection under way, with its time, and what is to come behind it -/
def first? (n : Network) : Option (Coming × Int × List Coming × Agenda Coming) :=
  match n.soon with
  | x :: rest => some (x, n.world.now, rest, n.later)
  | [] => n.later.next?.map fun q => (q.1.2, q.1.1, [], q.2)

/-- a thing is the next on the connection under way, and comes with a state in which everything that has nothing to do
with what is to come is as it was -/
structure Comes (n : Network) (x : Coming) (m : Network) : Prop where
  first : n.first? = some (x, m.world.now, m.soon, m.later)
  frame : ∃ q a now, m = { n with queue := q, agenda := a, world := { n.world with now := now } }

theorem frame_upcoming {x : Nat × Coming} (hx : n.upcoming? = some (x, m)) :
    ∃ q a now, m = { n with queue := q, agenda := a, world := { n.world with now := now } } := by
  rcases upcoming?_cases hx with ⟨rest, -, rfl⟩ | ⟨-, due, rest, -, rfl⟩
  · exact ⟨rest, n.agenda, n.world.now, rfl⟩
  · exact ⟨n.queue, rest, due, rfl⟩

/-- what comes next of all is the next on the connection under way if it belongs to it -/
theorem comes_of_own {x : Coming} (hx : n.upcoming? = some ((n.number, x), m)) : Comes n x m := by
  refine ⟨?_, frame_upcoming hx⟩
  rcases upcoming?_cases hx with ⟨rest, hqueue, rfl⟩ | ⟨hqueue, due, rest, hnext, rfl⟩
  · have hsoon : n.soon = x :: rest.filterMap (own? n.number) := by
      rw [soon, hqueue, List.filterMap_cons, own?_self]
    rw [first?, hsoon]
    rfl
  · have hsoon : n.soon = [] := by rw [soon, hqueue, List.filterMap_nil]
    have hlater := Agenda.next?_pick_some hnext (own?_self n.number x)
    have hempty : ({ n with agenda := rest, world := { n.world with now := due } } : Network).soon = [] := hsoon
    rw [first?, hsoon, hempty]
    dsimp only
    rw [show n.later.next? = _ from hlater]
    rfl

/-- what belongs to another connection does not matter -/
theorem first?_of_other {x : Nat × Coming} (hx : n.upcoming? = some (x, m)) (hother : x.1 ≠ n.number) :
    m.first? = n.first? := by
  have hnone : own? n.number x = none := own?_eq_none.2 hother
  rcases upcoming?_cases hx with ⟨rest, hqueue, rfl⟩ | ⟨hqueue, due, rest, hnext, rfl⟩
  · have hsoon : n.soon = rest.filterMap (own? n.number) := by
      rw [soon, hqueue, List.filterMap_cons, hnone]
    rw [first?, first?, hsoon]
    rfl
  · have hsoon : n.soon = [] := by rw [soon, hqueue, List.filterMap_nil]
    have hlater := Agenda.next?_pick_none hnext hnone
    have hempty : ({ n with agenda := rest, world := { n.world with now := due } } : Network).soon = [] := hsoon
    rw [first?, first?, hsoon, hempty]
    dsimp only
    rw [show n.later = _ from hlater]
    rfl

theorem Comes.of_frame {x : Coming} (h : Comes m x k) (hfirst : m.first? = n.first?)
    (hframe : ∃ q a now, m = { n with queue := q, agenda := a, world := { n.world with now := now } }) :
    Comes n x k := by
  refine ⟨hfirst ▸ h.first, ?_⟩
  obtain ⟨q, a, now, rfl⟩ := hframe
  obtain ⟨q', a', now', rfl⟩ := h.frame
  exact ⟨q', a', now', rfl⟩

theorem Comes.number {x : Coming} (h : Comes n x m) : m.number = n.number := by
  obtain ⟨q, a, now, rfl⟩ := h.frame
  rfl

/-! ## Waiting -/

theorem settled_of_frame {r : Request}
    (hframe : ∃ q a now, m = { n with queue := q, agenda := a, world := { n.world with now := now } }) :
    settled r m = settled r n := by
  obtain ⟨q, a, now, rfl⟩ := hframe
  cases r <;> rfl

theorem wait_of_settled {r : Request} (h : settled r n = true) (fuel : Nat) : wait (settled r) fuel n = n := by
  cases fuel with
  | zero => rfl
  | succ fuel => rw [wait_succ, if_pos h]

/-- **A wait that ends with an answer** goes on with the next thing on the connection under way; what is left over from
other connections only takes turns. -/
theorem comes_of_wait {r : Request} {fuel : Nat} (hopen : settled r n = false)
    (hend : settled r (wait (settled r) fuel n) = true) :
    ∃ x m less, less < fuel ∧ Comes n x m ∧
      wait (settled r) fuel n = wait (settled r) less (m.happen (n.number, x)) := by
  induction fuel generalizing n with
  | zero =>
    rw [wait, hopen] at hend
    cases hend
  | succ fuel ih =>
    rw [wait_succ, hopen, if_neg Bool.false_ne_true, next?_eq] at hend ⊢
    cases hx : n.upcoming? with
    | none =>
      rw [hx] at hend
      exact absurd (hopen.symm.trans hend) Bool.false_ne_true
    | some q =>
      obtain ⟨⟨number, x⟩, m⟩ := q
      rw [hx] at hend
      dsimp only [Option.map_some] at hend ⊢
      by_cases hown : number = n.number
      · subst hown
        exact ⟨x, m, fuel, Nat.lt_succ_self fuel, comes_of_own hx, rfl⟩
      · have hframe := frame_upcoming hx
        have hnumber : m.number = n.number := by
          obtain ⟨q, a, now, rfl⟩ := hframe
          rfl
        have hsame : m.happen (number, x) = m := happen_other (by rw [hnumber]; exact hown)
        rw [hsame] at hend ⊢
        obtain ⟨y, k, less, hless, hcomes, hwait⟩ := ih ((settled_of_frame hframe).trans hopen) hend
        refine ⟨y, k, less, hless.trans (Nat.lt_succ_self fuel), hcomes.of_frame (first?_of_other hx hown) hframe, ?_⟩
        rw [← hnumber]
        exact hwait

/-! ## What is to come belongs to connections up to now -/

/-- everything to come belongs to the connection under way or to an earlier one -/
structure Dated (n : Network) : Prop where
  queue : ∀ x ∈ n.queue, x.1 ≤ n.number
  agenda : ∀ e ∈ n.agenda, e.2.1 ≤ n.number

theorem dated_start (w : World) (relays : List Relay) : Dated (start w relays) :=
  ⟨List.forall_mem_nil _, List.forall_mem_nil _⟩

/-- nothing else matters -/
theorem Dated.of_same (h : Dated n) (hqueue : m.queue = n.queue) (hagenda : m.agenda = n.agenda)
    (hnumber : m.number = n.number) : Dated m where
  queue := by
    rw [hqueue, hnumber]
    exact h.queue
  agenda := by
    rw [hagenda, hnumber]
    exact h.agenda

theorem Dated.enqueue (h : Dated n) (x : Coming) : Dated (n.enqueue x) where
  queue := by
    intro y hy
    rcases List.mem_append.1 hy with hy | hy
    · exact h.queue y hy
    · rw [List.mem_singleton.1 hy]
      exact le_refl n.number
  agenda := h.agenda

theorem Dated.schedule (h : Dated n) (delay : Int) (x : Coming) : Dated (n.schedule delay x) where
  queue := h.queue
  agenda := by
    intro e he
    rcases List.mem_append.1 he with he | he
    · exact h.agenda e he
    · rw [List.mem_singleton.1 he]
      exact le_refl n.number

theorem Dated.deliver (h : Dated n) (layer : Layer) (d : Delivery) : Dated (n.deliver layer d) := by
  unfold Network.deliver
  split
  · exact h
  · split
    · exact h.schedule _ _
    · exact h.enqueue _

theorem Dated.effect (h : Dated n) (e : Effect) : Dated (n.effect e) := by
  cases e with
  | wrote layer text =>
    simp only [Network.effect, reply]
    split
    · exact h.of_same rfl rfl rfl
    · refine Dated.deliver ?_ _ _
      exact h.of_same rfl rfl rfl
  | shake hs =>
    simp only [Network.effect, shake]
    split
    · exact (h.of_same (m := n.record (.shake hs)) rfl rfl rfl).enqueue _
    · exact (h.of_same (m := n.record (.shake hs)) rfl rfl rfl).enqueue _
    · exact h.of_same rfl rfl rfl
  | arm a delay => exact h.schedule _ _
  | disarm a => exact ⟨h.queue, fun e he => h.agenda e (List.mem_of_mem_filter he)⟩
  | _ => exact h.of_same rfl rfl rfl

theorem Dated.effects (h : Dated n) (es : List Effect) : Dated (n.effects es) := by
  induction es generalizing n with
  | nil => exact h
  | cons e es ih => exact ih (h.effect e)

theorem Dated.onConnection (h : Dated n) (f : Connection → Connection.Outcome) : Dated (n.onConnection f) := by
  unfold Network.onConnection
  split
  · rename_i c hline
    exact (h.of_same (m := { n with line := .up (f c).1 }) rfl rfl rfl).effects _
  · exact h

theorem Dated.dialedAs (h : Dated n) (o : DialOutcome × List Effect) : Dated (n.dialedAs o) := by
  obtain ⟨c | message, es⟩ := o
  · have hup : Dated ({ n with line := .up c } : Network) := h.of_same rfl rfl rfl
    exact ((hup.effects es).deliver .plain n.greeting).of_same rfl rfl rfl
  · have hidle : Dated ({ n with line := .idle } : Network) := h.of_same rfl rfl rfl
    exact (hidle.effects es).of_same rfl rfl rfl

theorem Dated.happen (h : Dated n) (x : Nat × Coming) : Dated (n.happen x) := by
  obtain ⟨number, x⟩ := x
  unfold Network.happen
  dsimp only
  split
  · exact h
  · split <;> first | exact h.dialedAs _ | exact h.onConnection _ | exact h

theorem Dated.wait (h : Dated n) (ready : Network → Bool) (fuel : Nat) : Dated (wait ready fuel n) := by
  induction fuel generalizing n with
  | zero => exact h
  | succ fuel ih =>
    rw [wait_succ, next?_eq]
    split
    · exact h
    · cases hx : n.upcoming? with
      | none => exact h
      | some q =>
        obtain ⟨x, m⟩ := q
        refine ih (Dated.happen ?_ x)
        rcases upcoming?_cases hx with ⟨rest, hqueue, rfl⟩ | ⟨-, due, rest, hnext, rfl⟩
        · exact ⟨fun y hy => h.queue y (by rw [hqueue]; exact List.mem_cons_of_mem _ hy), h.agenda⟩
        · refine ⟨h.queue, fun e he => h.agenda e ?_⟩
          exact (Agenda.next?_perm hnext).mem_iff.2 (List.mem_cons_of_mem _ he)

theorem Dated.dial (h : Dated n) (s : Settings) : Dated (n.dial s) := by
  have hdialing : Dated (n.dialing s) := by
    refine ⟨fun x hx => Nat.le_succ_of_le (h.queue x hx), fun e he => ?_⟩
    rcases List.mem_append.1 he with he | he
    · exact Nat.le_succ_of_le (h.agenda e he)
    · rw [List.mem_singleton.1 he]
      exact le_refl (n.number + 1)
  rw [dial_eq]
  split
  · exact hdialing.enqueue _
  · exact hdialing.enqueue _
  · exact hdialing.schedule _ _
  · exact hdialing

theorem Dated.handle (h : Dated n) (s : Settings) (r : Request) : Dated (handle s r n).2 := by
  cases r with
  | openChannel => exact (h.dial s).wait _ _
  | read =>
    have hopen : Dated ({ n with answer := none } : Network) := h.of_same rfl rfl rfl
    exact (hopen.onConnection (Connection.read n.world.now 0)).wait _ _
  | startTls =>
    have hopen : Dated ({ n with upgraded := none } : Network) := h.of_same rfl rfl rfl
    exact (hopen.onConnection (Connection.startTls 0 (trustAnchor n.world s))).wait _ _
  | writeLine text secret =>
    simp only [Network.handle]
    split
    · exact h.effects _
    · exact h
  | writeRaw text =>
    simp only [Network.handle]
    split
    · exact h.effects _
    · exact h
  | close => exact (h.onConnection (Connection.close n.world.now)).of_same rfl rfl rfl
  | _ => exact h.of_same rfl rfl rfl

/-- over a session everything to come stays so -/
theorem dated_run {α : Type} (h : Dated n) (s : Settings) (p : Script α) : Dated (p.run (handle s) n).2 := by
  induction p generalizing n with
  | done a => exact h
  | ask r next ih => exact ih _ (h.handle s r)

end Network

end EnquiryMail.Net
