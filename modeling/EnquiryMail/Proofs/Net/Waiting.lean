/-
Waiting comes to an end. As long as a request is unanswered its alarm is set, so there is something to happen; and what
may happen before the alarm goes off is used up one thing after another.

- `nearer_happen`: each thing that happens brings the answer, or there is one less to happen.
- `settled_turns`: a wait ends with the answer that it is for.
-/
import EnquiryMail.Proofs.Net.Holdings

namespace EnquiryMail.Net

open EnquiryMail.Smtp

/-- an agenda with something on it has a next thing -/
theorem Agenda.next?_isSome {α : Type} {a : Agenda α} (h : a ≠ []) : a.next?.isSome := by
  cases a with
  | nil => exact absurd rfl h
  | cons e a =>
    rw [Agenda.next?]
    split
    · rfl
    · split <;> rfl

namespace Network

variable {n m : Network} {held : List Layer}

/-! ## Answers -/

/-- it answers a reader -/
def isAnswer : Effect → Bool
  | .answered .. => true
  | _ => false

/-- it tells what has come of an upgrade -/
def isOutcome : Effect → Bool
  | .upgraded _ => true
  | _ => false

/-- who has been told, after an effect as after several -/
def Told (n n' : Network) (answer outcome : Bool) : Prop :=
  n'.answer.isSome = (n.answer.isSome || answer) ∧ n'.upgraded.isSome = (n.upgraded.isSome || outcome)

theorem told_of_same {n' : Network} (hanswer : n'.answer = n.answer) (hupgraded : n'.upgraded = n.upgraded) :
    Told n n' false false := by
  rw [Told, hanswer, hupgraded, Bool.or_false, Bool.or_false]
  exact ⟨rfl, rfl⟩

theorem told_effect (n : Network) (e : Effect) : Told n (n.effect e) (isAnswer e) (isOutcome e) := by
  cases e with
  | wrote layer text =>
    simp only [effect, reply]
    split
    · exact told_of_same rfl rfl
    · unfold deliver
      split
      · exact told_of_same rfl rfl
      · split <;> exact told_of_same rfl rfl
  | shake h =>
    simp only [effect, shake]
    split <;> exact told_of_same rfl rfl
  | answered id r => exact ⟨(Bool.or_true _).symm, (Bool.or_false _).symm⟩
  | upgraded r => exact ⟨(Bool.or_false _).symm, (Bool.or_true _).symm⟩
  | _ => exact told_of_same rfl rfl

theorem told_effects (n : Network) (es : List Effect) : Told n (n.effects es) (es.any isAnswer) (es.any isOutcome) := by
  induction es generalizing n with
  | nil => exact told_of_same rfl rfl
  | cons e es ih =>
    obtain ⟨hanswer, houtcome⟩ := told_effect n e
    obtain ⟨hanswers, houtcomes⟩ := ih (n.effect e)
    refine ⟨hanswers.trans ?_, houtcomes.trans ?_⟩
    · rw [hanswer, List.any_cons, Bool.or_assoc]
    · rw [houtcome, List.any_cons, Bool.or_assoc]

theorem readers_effects (b : Business) (es : List Effect) :
    (b.effects es).readers = b.readers - es.countP isAnswer := by
  induction es generalizing b with
  | nil => rfl
  | cons e es ih =>
    refine (ih (b.effect e)).trans ?_
    rw [List.countP_cons]
    cases e with
    | answered id r =>
      simp only [Business.effect, isAnswer, if_true]
      omega
    | _ => simp [Business.effect, isAnswer]

theorem handshakes_effects (b : Business) {es : List Effect} (hes : ∀ e ∈ es, e.still = true) :
    (b.effects es).handshakes = b.handshakes - es.countP isOutcome := by
  induction es generalizing b with
  | nil => rfl
  | cons e es ih =>
    obtain ⟨he, hes⟩ := List.forall_mem_cons.1 hes
    refine (ih (b.effect e) hes).trans ?_
    rw [List.countP_cons]
    cases e with
    | shake h => cases he
    | upgraded r =>
      simp only [Business.effect, isOutcome, if_true]
      omega
    | _ => simp [Business.effect, isOutcome]

/-- what a connection has met with: whoever waited waits on or has an answer, and nobody else comes to wait -/
structure Met (x : Coming) (m m' : Network) (c c' : Connection) : Prop where
  line : m'.line = .up c'
  answer : c.pending ≠ none → m.answer = none → (m'.answer.isSome = true ↔ c'.pending = none)
  unread : c.pending = none → c'.pending = none
  upgraded : c.underWay ≠ [] → m.upgraded = none → (m'.upgraded.isSome = true ↔ c'.underWay = [])
  idle : c.underWay = [] → c'.underWay = []
  /-- an alarm that goes off is gone -/
  rung : ∀ a, x = .alarm a → c'.business.alarms = c.business.alarms.erase a
  burden : m'.burden = m.burden

/-- of one that waits, none is left exactly when there was an answer -/
theorem any_iff_of_sub {es : List Effect} {p : Effect → Bool} {k : Nat} (hk : k = 1 - es.countP p) :
    es.any p = true ↔ k = 0 := by
  rw [List.any_eq_true, ← List.countP_pos_iff]
  omega

theorem met_happen {x : Coming} {c : Connection} (h : About held (m.number, x) m) (hline : m.line = .up c) :
    Met x m (m.happen (m.number, x)) c (c.meets m.world.now x).1 := by
  have hsettles := h.settles hline
  have hreaders : (c.meets m.world.now x).1.business.readers =
      c.business.readers - (c.meets m.world.now x).2.countP isAnswer := by
    rw [← hsettles.business, readers_effects]
    cases x <;> rfl
  have hhandshakes : (c.meets m.world.now x).1.business.handshakes =
      c.business.handshakes - (c.meets m.world.now x).2.countP isOutcome := by
    rw [← hsettles.business, handshakes_effects _ hsettles.still]
    cases x <;> rfl
  have hnone (p : Option Reader) : p = none ↔ p.toList.length = 0 := by cases p <;> simp
  obtain ⟨phase?, hphase⟩ := h.placed c hline
  rw [happen_up hline]
  exact
    { line := effects_line _ _
      answer := by
        intro hwaits hopen
        have hone : c.business.readers = 1 := by
          obtain ⟨r, hr⟩ := Option.ne_none_iff_exists'.1 hwaits
          rw [Connection.business_waiting hr]
        rw [(told_effects _ _).1, hnone]
        show (m.answer.isSome || _) = true ↔ _
        rw [hopen]
        exact any_iff_of_sub (by rw [← hone]; exact hreaders)
      unread := by
        intro hunread
        rw [hnone]
        refine hreaders.trans ?_
        rw [show c.business.readers = 0 from (hnone _).1 hunread, Nat.zero_sub]
      upgraded := by
        intro hwaits hopen
        have hone : c.business.handshakes = 1 := by
          rw [hphase.underWay] at hwaits
          rw [hphase.business]
          split at hwaits
          · rename_i hway
            exact if_pos hway
          · exact absurd rfl hwaits
        rw [(told_effects _ _).2, ← List.length_eq_zero_iff]
        show (m.upgraded.isSome || _) = true ↔ _
        rw [hopen]
        exact any_iff_of_sub (by rw [← hone]; exact hhandshakes)
      idle := by
        intro hidle
        rw [← List.length_eq_zero_iff]
        refine hhandshakes.trans ?_
        rw [show c.business.handshakes = 0 from List.length_eq_zero_iff.2 hidle, Nat.zero_sub]
      rung := by
        rintro a rfl
        have hdue := (h.due a rfl).2.1
        rw [hline] at hdue
        exact (Connection.settles_alarm a hphase hdue).2
      burden := (stilled_effects hsettles.still _).burden }

/-! ## Waiting -/

/-- a request waits for its answer, or has it and nothing is under way any more -/
def Awaits : Request → Network → Prop
  | .openChannel, n =>
    n.line = .dialing ∧ n.dialed = none ∨
      (∃ c, n.line = .up c ∧ c.business = .rest ∧ c.upgrades = [] ∧ n.dialed = some (.ok ())) ∨
      n.line = .idle ∧ ∃ message, n.dialed = some (.error message)
  | .read, n => ∃ c, n.line = .up c ∧ c.underWay = [] ∧ (n.answer.isSome = true ↔ c.pending = none)
  | .startTls, n => ∃ c, n.line = .up c ∧ c.pending = none ∧ (n.upgraded.isSome = true ↔ c.underWay = [])
  | _, _ => True

/-- one thing uses up what may happen, or brings the answer -/
def Nearer (r : Request) (x : Nat × Coming) (m m' : Network) : Prop :=
  Awaits r m' ∧ (settled r m' = true ∨ alarm? x = none ∧ m'.burden = m.burden)

theorem alarm?_eq_none {x : Nat × Coming} : alarm? x = none ↔ ∀ a, x.2 ≠ .alarm a := by
  obtain ⟨number, x⟩ := x
  cases x <;> simp [alarm?]

/-- what is no concern of the connection under way leaves the wait as it is -/
theorem nearer_of_same {r : Request} {x : Nat × Coming} {m' : Network} (hm : Awaits r m) (hsame : m' = m)
    (hx : alarm? x = none) : Nearer r x m m' := by
  subst hsame
  exact ⟨hm, .inr ⟨hx, rfl⟩⟩

theorem nearer_openChannel {x : Coming} (h : About held (m.number, x) m) (hline : m.line = .dialing)
    (hopen : m.dialed = none) : Nearer .openChannel (m.number, x) m (m.happen (m.number, x)) := by
  have hwaits : Awaits .openChannel m := .inl ⟨hline, hopen⟩
  have hhappen := happen_dialing hline x
  have hfailed {message : String} {es : List Effect} (hd : m.happen (m.number, x) = m.dialedAs (.failed message, es)) :
      Nearer .openChannel (m.number, x) m (m.happen (m.number, x)) := by
    rw [hd]
    exact ⟨.inr (.inr ⟨(dialedAs_failed m message es).2.1, message, rfl⟩), .inl rfl⟩
  cases x with
  | accepted =>
    rw [hhappen]
    exact ⟨.inr (.inl ⟨_, (dialedAs_connected m _ _).2.1, rfl, rfl, rfl⟩), .inl rfl⟩
  | refused message => exact hfailed hhappen
  | alarm a =>
    have hdue := (h.due a rfl).2.1
    rw [hline] at hdue
    obtain rfl := List.mem_singleton.1 hdue
    exact hfailed hhappen
  | _ => exact nearer_of_same hwaits hhappen rfl

theorem nearer_read {x : Coming} {c : Connection} (h : About held (m.number, x) m) (hline : m.line = .up c)
    (hidle : c.underWay = []) (hwaits : c.pending ≠ none) (hopen : m.answer = none) :
    Nearer .read (m.number, x) m (m.happen (m.number, x)) := by
  have hmet := met_happen h hline
  refine ⟨⟨_, hmet.line, hmet.idle hidle, hmet.answer hwaits hopen⟩, ?_⟩
  by_cases halarm : ∃ a, x = .alarm a
  · obtain ⟨a, rfl⟩ := halarm
    obtain ⟨r, hr⟩ := Option.ne_none_iff_exists'.1 hwaits
    have hdue := (h.due a rfl).2.1
    have hrung := hmet.rung a rfl
    rw [hline, Line.business, Connection.business_waiting hr, hidle] at hdue
    obtain rfl := List.mem_singleton.1 hdue
    rw [Connection.business_waiting hr, hidle] at hrung
    refine .inl ((hmet.answer hwaits hopen).2 ?_)
    have hreads := (List.append_eq_nil_iff.1 (hrung.trans (List.erase_cons_head ..))).2
    exact Option.toList_eq_nil_iff.1 (List.map_eq_nil_iff.1 hreads)
  · exact .inr ⟨alarm?_eq_none.2 (not_exists.1 halarm), hmet.burden⟩

theorem nearer_startTls {x : Coming} {c : Connection} (h : About held (m.number, x) m) (hline : m.line = .up c)
    (hunread : c.pending = none) (hwaits : c.underWay ≠ []) (hopen : m.upgraded = none) :
    Nearer .startTls (m.number, x) m (m.happen (m.number, x)) := by
  have hmet := met_happen h hline
  refine ⟨⟨_, hmet.line, hmet.unread hunread, hmet.upgraded hwaits hopen⟩, ?_⟩
  by_cases halarm : ∃ a, x = .alarm a
  · obtain ⟨a, rfl⟩ := halarm
    obtain ⟨phase?, hphase⟩ := h.placed c hline
    have hway : phase? = some .underWay := by
      by_contra hno
      rw [hphase.underWay, if_neg hno] at hwaits
      exact hwaits rfl
    have hdue := (h.due a rfl).2.1
    have hrung := hmet.rung a rfl
    rw [hline, Line.business, hphase.business, hunread, if_pos hway] at hdue
    obtain rfl := List.mem_singleton.1 hdue
    rw [hphase.business, hunread, if_pos hway] at hrung
    refine .inl ((hmet.upgraded hwaits hopen).2 ?_)
    have hshakes := (List.append_eq_nil_iff.1 (hrung.trans (List.erase_cons_head ..))).1
    exact List.map_eq_nil_iff.1 hshakes
  · exact .inr ⟨alarm?_eq_none.2 (not_exists.1 halarm), hmet.burden⟩

/-- **Each thing that happens** during a wait brings its end nearer. -/
theorem nearer_happen {r : Request} {x : Nat × Coming} (h : About held x m) (hm : Awaits r m)
    (hopen : settled r m = false) : Nearer r x m (m.happen x) := by
  by_cases hnumber : x.1 = m.number
  swap
  · refine nearer_of_same hm (happen_other hnumber) (alarm?_eq_none.2 fun a ha => hnumber (h.due a ha).1)
  obtain ⟨number, x⟩ := x
  obtain rfl : number = m.number := hnumber
  cases r with
  | openChannel =>
    rcases hm with ⟨hline, hdialed⟩ | ⟨c, -, -, -, hdialed⟩ | ⟨-, message, hdialed⟩
    · exact nearer_openChannel h hline hdialed
    · rw [settled, hdialed] at hopen
      cases hopen
    · rw [settled, hdialed] at hopen
      cases hopen
  | read =>
    obtain ⟨c, hline, hidle, hanswer⟩ := hm
    have hnone : m.answer = none := Option.isSome_eq_false_iff.1 hopen |> Option.isNone_iff_eq_none.1
    refine nearer_read h hline hidle (fun hc => ?_) hnone
    exact Bool.false_ne_true (hopen.symm.trans (hanswer.2 hc))
  | startTls =>
    obtain ⟨c, hline, hunread, hupgraded⟩ := hm
    have hnone : m.upgraded = none := Option.isSome_eq_false_iff.1 hopen |> Option.isNone_iff_eq_none.1
    refine nearer_startTls h hline hunread (fun hc => ?_) hnone
    exact Bool.false_ne_true (hopen.symm.trans (hupgraded.2 hc))
  | _ => cases hopen

/-- while a request waits, its alarm is set -/
theorem alarms_ne_nil {r : Request} (hn : Awaits r n) (hopen : settled r n = false) :
    n.line.business.alarms ≠ [] := by
  cases r with
  | openChannel =>
    rcases hn with ⟨hline, -⟩ | ⟨c, -, -, -, hdialed⟩ | ⟨-, message, hdialed⟩
    · rw [hline]
      exact List.cons_ne_nil _ _
    · rw [settled, hdialed] at hopen
      cases hopen
    · rw [settled, hdialed] at hopen
      cases hopen
  | read =>
    obtain ⟨c, hline, -, hanswer⟩ := hn
    rw [hline]
    intro hnil
    have hreads := (List.append_eq_nil_iff.1 hnil).2
    have hnone := hanswer.2 (Option.toList_eq_nil_iff.1 (List.map_eq_nil_iff.1 hreads))
    exact Bool.false_ne_true (hopen.symm.trans hnone)
  | startTls =>
    obtain ⟨c, hline, -, hupgraded⟩ := hn
    rw [hline]
    intro hnil
    have hshakes := (List.append_eq_nil_iff.1 hnil).1
    have hnone := hupgraded.2 (List.map_eq_nil_iff.1 hshakes)
    exact Bool.false_ne_true (hopen.symm.trans hnone)
  | _ => cases hopen

/-- what is set is something to happen -/
theorem upcoming?_isSome (h : Kept held n) (halarms : n.line.business.alarms ≠ []) : n.upcoming?.isSome := by
  have hagenda : n.agenda ≠ [] := by
    intro hnil
    have hset := h.set
    rw [set, hnil] at hset
    exact halarms (List.map_eq_nil_iff.1 hset.nil_eq.symm)
  cases hq : n.queue with
  | cons x rest =>
    simp only [upcoming?, hq]
    rfl
  | nil =>
    obtain ⟨⟨⟨due, x⟩, rest⟩, hnext⟩ := Option.isSome_iff_exists.1 (Agenda.next?_isSome hagenda)
    simp only [upcoming?, hq, hnext]
    rfl

theorem burden_upcoming {x : Nat × Coming} (hx : n.upcoming? = some (x, m)) :
    n.burden = m.burden + if (alarm? x).isNone then 1 else 0 := by
  rcases upcoming?_cases hx with ⟨rest, hqueue, rfl⟩ | ⟨hqueue, due, rest, hnext, rfl⟩
  · simp only [burden, hqueue, List.countP_cons]
    omega
  · have hcount := (Agenda.next?_perm hnext).countP_eq fun e => (alarm? e.2).isNone
    rw [List.countP_cons] at hcount
    simp only [burden, hqueue, hcount, List.countP_nil]
    omega

/-- taking a thing off the queue or the agenda does not matter to a wait -/
theorem awaits_upcoming {r : Request} {x : Nat × Coming} (hx : n.upcoming? = some (x, m)) (hn : Awaits r n) :
    Awaits r m ∧ settled r m = settled r n := by
  rcases upcoming?_cases hx with ⟨rest, -, rfl⟩ | ⟨-, due, rest, -, rfl⟩
  · cases r <;> exact ⟨hn, rfl⟩
  · cases r <;> exact ⟨hn, rfl⟩

/-- what becomes of the sockets when the next thing happens -/
def turnFates (n : Network) : List Fate :=
  match n.upcoming? with
  | some (x, m) => m.fates x
  | none => []

/-- **A wait ends** with the answer that it is for, and the books are kept all along. -/
theorem settled_turns {r : Request} {fuel : Nat} (h : Kept held n) (hn : Awaits r n)
    (hfuel : settled r n = true ∨ n.burden < fuel) :
    Kept (heldAfter held ((n :: turns (settled r) fuel n).dropLast.flatMap turnFates))
        ((turns (settled r) fuel n).getLastD n) ∧
      Awaits r ((turns (settled r) fuel n).getLastD n) ∧
      settled r ((turns (settled r) fuel n).getLastD n) = true := by
  induction fuel generalizing n held with
  | zero => exact ⟨h, hn, hfuel.resolve_right (Nat.not_lt_zero _)⟩
  | succ fuel ih =>
    cases hopen : settled r n with
    | true =>
      rw [turns, if_pos hopen]
      exact ⟨h, hn, hopen⟩
    | false =>
      obtain ⟨⟨x, m⟩, hx⟩ := Option.isSome_iff_exists.1 (upcoming?_isSome h (alarms_ne_nil hn hopen))
      have habout := about_upcoming h hx
      obtain ⟨hm, hsettled⟩ := awaits_upcoming hx hn
      have hnext : n.next? = some (m.happen x) := by
        rw [next?_eq, hx]
        rfl
      have hfates : n.turnFates = m.fates x := by
        rw [turnFates, hx]
      obtain ⟨hwaits, hnearer⟩ := nearer_happen habout hm (hsettled.trans hopen)
      have hleft : settled r (m.happen x) = true ∨ (m.happen x).burden < fuel := by
        rcases hnearer with hanswered | ⟨halarm, hburden⟩
        · exact .inl hanswered
        · have hless := hfuel.resolve_left (by rw [hopen]; exact Bool.false_ne_true)
          rw [burden_upcoming hx, halarm] at hless
          rw [hburden]
          exact .inr (Nat.lt_of_succ_lt_succ hless)
      have hrest := ih (kept_happen habout) hwaits hleft
      rw [turns, hopen, if_neg Bool.false_ne_true, hnext]
      dsimp only
      rw [List.dropLast_cons_cons, List.flatMap_cons, hfates, heldAfter_append, List.getLastD_cons]
      exact hrest

end Network

end EnquiryMail.Net
