/-
The time limit of a reply. A read that starts sets one deadline, and every line that does not end its reply sets the
alarm anew for what is left until then. An alarm does not ring at the moment it is set, so what is left is a
millisecond at least, also when the deadline has been reached; and a limit beyond the longest delay counts as a
millisecond from the start.

- `remaining_later`: what is left of a limit, a while after it started.
- `Awaited.act`, `Awaited.run`: the alarm of a read stays within bounds that each arrival keeps.
- `reply_deadline`: with a limit that an alarm can be set for, a read is never turned down early, and it is answered by
  the first instant at which the limit has passed and nothing arrives.
- `deadline_overrun`: a limit beyond the longest delay is over at once, and lines that come one millisecond after
  another keep a read waiting beyond its limit.
-/
import EnquiryMail.Proofs.Connection.Boundary
import EnquiryMail.Time.Civil

namespace EnquiryMail.Smtp

open Text.Utf8 (Bytes)

namespace Connection

/-! ## What is left of a limit -/

/-- clock readings are exact -/
theorem ofInt_of_farthest {u : Int} (hlow : -Time.farthest ≤ u) (hhigh : u ≤ Time.farthest) :
    Number.ofInt u = .finite u := by
  refine Number.nearest_intCast ?_
  unfold Time.farthest at hlow hhigh
  omega

/-- **What is left of a limit** a while after it started: the rest of it, and a millisecond once it has passed. -/
theorem remaining_later {t u : Int} {a : Amount} {limit : Nat} (ha : a = .number (.finite limit))
    (hle : limit ≤ Time.longestDelay) (ht : -Time.farthest ≤ t) (htu : t ≤ u) (hu : u ≤ Time.farthest) :
    remaining u (a.deadline t) = if u < t + limit then t + limit - u else 1 := by
  have hlong : (limit : Int) ≤ 2147483647 := Int.ofNat_le.2 hle
  have hfar : Time.farthest = 8640000000000000 := rfl
  have hdeadline : a.deadline t = .finite ((t + limit : Int) : Rat) := by
    rw [ha]
    show Number.add (Number.ofInt t) (.finite limit) = _
    rw [ofInt_of_farthest ht (htu.trans hu)]
    show Number.nearest (t + limit) = _
    have hsum : ((t : Rat) + (limit : Rat)) = ((t + limit : Int) : Rat) := by push_cast; rfl
    rw [hsum, Number.nearest_intCast (by omega)]
  have hleft : Number.sub (a.deadline t) (Number.ofInt u) = Number.ofInt (t + limit - u) := by
    rw [hdeadline, ofInt_of_farthest (ht.trans htu) hu]
    show Number.nearest _ = Number.nearest _
    push_cast
    rfl
  rw [remaining, hleft]
  split_ifs with hneg hbefore hbefore
  · -- what is left is not negative before the limit has passed
    have hexact : Number.ofInt (t + limit - u) = .finite ((t + limit - u : Int) : Rat) :=
      Number.nearest_intCast (by omega)
    rw [hexact] at hneg
    have hlt : ((t + limit - u : Int) : Rat) < 0 := of_decide_eq_true hneg
    have : t + limit - u < 0 := by exact_mod_cast hlt
    omega
  · show ((Time.delayOf (.finite 0) : Nat) : Int) = 1
    rw [Time.delayOf_nonpos le_rfl]
    rfl
  · obtain ⟨n, hn⟩ := Int.eq_ofNat_of_zero_le (show 0 ≤ t + limit - u by omega)
    have hexact : Number.ofInt (t + limit - u) = .finite (n : Rat) := by
      rw [hn]
      have := Number.nearest_intCast (z := n) (by omega)
      rwa [Int.cast_natCast] at this
    rw [hexact, Time.delayOf_natCast (by omega) (by omega), hn]
  · rcases Int.lt_or_eq_of_le (show t + limit - u ≤ 0 by omega) with hlt | hzero
    · rw [Time.delayOf_ofInt_neg hlt]
      rfl
    · rw [hzero]
      show ((Time.delayOf (Number.nearest ((0 : Int) : Rat)) : Nat) : Int) = 1
      rw [Number.nearest_intCast (by decide), Int.cast_zero, Time.delayOf_nonpos le_rfl]
      rfl

/-! ## What bytes do to the alarm of a read -/

/-- nobody waits but the read with a number, for its deadline -/
def ReadBy (id : Nat) (deadline : Number) (c : Connection) : Prop :=
  ∀ r, c.pending = some r → r.id = id ∧ r.deadline = deadline

/-- an outcome in which that is so, the alarm of the read is only set for the deadline, and the read does not fail -/
structure Rearms (now : Int) (id : Nat) (deadline : Number) (o : Outcome) : Prop where
  reader : ReadBy id deadline o.1
  arms : ∀ delay, .arm (.read id) delay ∈ o.2 → delay = remaining now deadline
  succeeds : ∀ m, .answered id (.error m) ∉ o.2

theorem Rearms.andThen {now : Int} {id : Nat} {deadline : Number} {o : Outcome} {f : Connection → Outcome}
    (ho : Rearms now id deadline o) (hf : ∀ c, ReadBy id deadline c → Rearms now id deadline (f c)) :
    Rearms now id deadline (andThen o f) where
  reader := (hf o.1 ho.reader).reader
  arms delay h := by
    rcases List.mem_append.1 h with h | h
    · exact ho.arms delay h
    · exact (hf o.1 ho.reader).arms delay h
  succeeds m h := by
    rcases List.mem_append.1 h with h | h
    · exact ho.succeeds m h
    · exact (hf o.1 ho.reader).succeeds m h

theorem rearms_pushLine (now : Int) (line : String) {id : Nat} {deadline : Number} {c : Connection}
    (h : ReadBy id deadline c) : Rearms now id deadline (pushLine now line c) := by
  cases hr : c.pending with
  | none =>
    rw [pushLine_unread now line hr]
    exact ⟨h, nofun, nofun⟩
  | some r =>
    obtain ⟨hid, hdeadline⟩ := h r hr
    cases hline : isFinalLine line with
    | true =>
      rw [pushLine_final now hline hr]
      refine ⟨nofun, fun delay he => ?_, fun m he => ?_⟩ <;>
        simp [delivered, traceReply, note] at he
    | false =>
      rw [pushLine_more now hline hr]
      refine ⟨fun r' hr' => ?_, fun delay he => ?_, fun m he => by simp at he⟩
      · cases hr'
        exact ⟨hid, hdeadline⟩
      · simp only [List.mem_cons, reduceCtorEq, Effect.arm.injEq, false_or, List.mem_nil_iff, or_false] at he
        rw [he.2, hdeadline]

theorem rearms_feed (now : Int) (bytes : Bytes) {id : Nat} {deadline : Number} {c : Connection}
    (h : ReadBy id deadline c) : Rearms now id deadline (feed now bytes c) := by
  induction bytes generalizing c with
  | nil => exact ⟨h, nofun, nofun⟩
  | cons b bytes ih =>
    rw [feed_cons]
    refine Rearms.andThen ?_ fun c' h' => ih h'
    unfold feedByte
    split
    · exact rearms_pushLine now _ (c := { c with buffer := [] }) h
    · exact ⟨h, nofun, nofun⟩

theorem rearms_arrive (now : Int) (bytes : Bytes) {id : Nat} {deadline : Number} {c : Connection}
    (h : ReadBy id deadline c) : Rearms now id deadline (arrive now bytes c) := by
  unfold arrive
  split
  · exact rearms_feed now bytes h
  · exact ⟨h, nofun, nofun⟩

end Connection

/-- time, alarms and arrivals: what happens to a connection of which the client only waits for a reply -/
def Event.waiting : Event → Bool
  | .pass _ | .ring _ | .arrive _ => true
  | _ => false

namespace Clocked

/-- a state that some run of a connection reaches -/
def Reachable (st : Clocked) : Prop := ∃ s now es, (start s now).Possible es ∧ ((start s now).run es).1 = st

theorem Reachable.orderly {st : Clocked} (h : Reachable st) : ∃ answered, Orderly st answered := by
  obtain ⟨s, now, es, hes, rfl⟩ := h
  exact ⟨_, (orderly_start s now).run hes⟩

/-- the instants at which bytes arrive in the course of a run -/
def arrivalTimes (st : Clocked) : List Event → List Int
  | [] => []
  | e :: es => (if e.isArrival then [st.now] else []) ++ (st.act e).1.arrivalTimes es

/-- time does not go back, and arrivals are in its course -/
theorem now_act (st : Clocked) (e : Event) : st.now ≤ (st.act e).1.now := by
  cases e with
  | pass ms => exact Int.le_add_of_nonneg_right (Int.natCast_nonneg ms)
  | _ => exact le_rfl

theorem now_run (st : Clocked) (es : List Event) : st.now ≤ (st.run es).1.now := by
  induction es generalizing st with
  | nil => exact le_rfl
  | cons e es ih => exact (now_act st e).trans (ih _)

theorem mem_arrivalTimes {st : Clocked} {es : List Event} {u : Int} (h : u ∈ st.arrivalTimes es) :
    st.now ≤ u ∧ u ≤ (st.run es).1.now := by
  induction es generalizing st with
  | nil => cases h
  | cons e es ih =>
    rcases List.mem_append.1 h with h | h
    · split at h
      · obtain rfl := List.mem_singleton.1 h
        exact ⟨le_rfl, now_run st (e :: es)⟩
      · cases h
    · obtain ⟨hlow, hhigh⟩ := ih h
      exact ⟨(now_act st e).trans hlow, hhigh⟩

/-! ## The alarm of one read -/

/-- an alarm that is set was set before, or it is one that the effects set -/
theorem mem_settings {now : Int} {alarms : Net.Agenda Alarm} {es : List Effect} {e : Int × Alarm}
    (h : e ∈ settings now alarms es) : e ∈ alarms ∨ ∃ delay, .arm e.2 delay ∈ es ∧ e.1 = now + delay := by
  induction es generalizing alarms with
  | nil => exact .inl h
  | cons f es ih =>
    rcases ih h with h | ⟨delay, hmem, hdue⟩
    · cases f with
      | arm a delay =>
        rcases mem_set.1 h with h | rfl
        · exact .inl h
        · exact .inr ⟨delay, List.mem_cons_self, rfl⟩
      | disarm a => exact .inl (mem_cancel.1 h).1
      | _ => exact .inl h
    · exact .inr ⟨delay, List.mem_cons_of_mem f hmem, hdue⟩

/-- a read is the only one that waits, for its deadline, and its alarm is set for an instant within bounds -/
structure Awaited (s : Settings) (id : Nat) (deadline : Number) (P : Int → Prop) (st : Clocked) : Prop where
  settings : st.connection.settings = s
  reader : st.connection.ReadBy id deadline
  due : ∀ due, (due, .read id) ∈ st.alarms → P due

/-- how a read is answered while it waits: by the time that its alarm is set for, and when it is turned down then for
its time limit and not before that time -/
def Bounded (s : Settings) (id : Nat) (P : Int → Prop) (tr : Trace) : Prop :=
  ∀ τ r, (τ, Sight.did (.answered id r)) ∈ tr → (∃ due, τ ≤ due ∧ P due) ∧
    ∀ m, r = .error m → m = (ConnectionError.readTimeout s.readTimeout.shown).message ∧ ∃ due, due ≤ τ ∧ P due

section

variable {s : Settings} {id : Nat} {deadline : Number} {P : Int → Prop} {st : Clocked} {answered : List Nat}

/-- a read that still waits, or is answered, behind an event has waited before it -/
theorem Orderly.waits_before (h : Orderly st answered) {e : Event} (hallowed : st.Allows e)
    (hid : 1 ≤ id ∧ id ≤ st.reads) (hafter : Waits (st.act e).1.alarms id ∨ id ∈ answeredIn (st.act e).2) :
    Waits st.alarms id := by
  have h' := h.act hallowed
  refine ((h.started id).2 hid).resolve_right fun hm => ?_
  rcases hafter with hafter | hafter
  · exact h'.apart id (List.mem_append_left _ hm) hafter
  · exact (List.nodup_append.1 h'.once).2.2 id hm id hafter rfl

theorem exists_answer {tr : Trace} (h : id ∈ tr.answers.map Prod.fst) :
    ∃ τ r, (τ, Sight.did (.answered id r)) ∈ tr := by
  obtain ⟨⟨id, r⟩, hmem, rfl⟩ := List.mem_map.1 h
  obtain ⟨⟨τ, sight⟩, hsight, hanswer⟩ := List.mem_filterMap.1 hmem
  cases sight with
  | written r => cases hanswer
  | did e =>
    cases e with
    | answered id' r' =>
      cases hanswer
      exact ⟨τ, r, hsight⟩
    | _ => cases hanswer

theorem mem_answeredIn {seen : List Sight} {r : Except String Reply} (h : Sight.did (.answered id r) ∈ seen) :
    id ∈ answeredIn seen := by
  refine List.mem_map.2 ⟨(id, r), List.mem_filterMap.2 ⟨_, h, rfl⟩, rfl⟩

/-- the alarm goes off, or another one -/
theorem Awaited.ring (h : Awaited s id deadline P st) {a : Alarm} (hallowed : st.Allows (.ring a)) :
    Awaited s id deadline P (st.act (.ring a)).1 ∧
      ∀ m, Sight.did (.answered id (.error m)) ∈ (st.act (.ring a)).2 →
        m = (ConnectionError.readTimeout s.readTimeout.shown).message ∧ ∃ due, due ≤ st.now ∧ P due := by
  have hfewer : ∀ due, (due, .read id) ∈ st.alarms.cancel (· == a) → P due := fun due hm =>
    h.due due (mem_cancel.1 hm).1
  cases a with
  | connect => exact ⟨⟨h.settings, h.reader, hfewer⟩, fun m hm => absurd hm List.not_mem_nil⟩
  | handshake id' =>
    have hagree : (st.connection.alarm (.handshake id')).1.settings = st.connection.settings ∧
        (st.connection.alarm (.handshake id')).1.pending = st.connection.pending := by
      unfold Connection.alarm Connection.shakeExpired Connection.abandon
      dsimp only
      split <;> exact ⟨rfl, rfl⟩
    have hquiet : ∀ e ∈ (st.connection.alarm (.handshake id')).2, (∀ a delay, e ≠ .arm a delay) ∧
        ∀ r, e ≠ .answered id r := by
      unfold Connection.alarm Connection.shakeExpired Connection.abandon
      dsimp only
      intro e he
      split at he
      · cases he
      · split at he <;> simp at he <;> grind
    refine ⟨⟨hagree.1.trans h.settings, fun r hr => h.reader r (hagree.2 ▸ hr), fun due hm => ?_⟩, fun m hm => ?_⟩
    · rcases mem_settings hm with hm | ⟨delay, harm, -⟩
      · exact hfewer due hm
      · exact absurd rfl ((hquiet _ harm).1 _ delay)
    · obtain ⟨e, he, hsight⟩ := List.mem_map.1 hm
      cases hsight
      exact absurd rfl ((hquiet _ he).2 _)
  | read id' =>
    refine ⟨⟨h.settings, nofun, hfewer⟩, fun m hm => ?_⟩
    obtain ⟨e, he, hsight⟩ := List.mem_map.1 hm
    cases hsight
    obtain ⟨rfl, hwords⟩ : id = id' ∧
        m = (ConnectionError.readTimeout st.connection.settings.readTimeout.shown).message := by
      simpa [Connection.alarm, Connection.readExpired] using he
    obtain ⟨⟨due, a⟩, hmem, rfl, hdue⟩ := hallowed
    exact ⟨h.settings ▸ hwords, due, hdue, h.due due hmem⟩

/-- **Time, alarms and arrivals** keep the alarm of a read within bounds that what is left keeps. -/
theorem Awaited.act (h : Awaited s id deadline P st) (horderly : Orderly st answered) {e : Event}
    (he : e.waiting = true) (hallowed : st.Allows e) (hid : 1 ≤ id ∧ id ≤ st.reads)
    (hkeeps : e.isArrival = true → (∃ due, st.now ≤ due ∧ P due) →
      P (st.now + Connection.remaining st.now deadline)) :
    Awaited s id deadline P (st.act e).1 ∧ Bounded s id P ((st.act e).2.map (st.now, ·)) := by
  have hwaits (hw : Waits st.alarms id) : ∃ due, st.now ≤ due ∧ P due := by
    obtain ⟨due, hmem⟩ := hw
    exact ⟨due, horderly.timely _ hmem, h.due due hmem⟩
  -- whoever is answered has waited, so its alarm was not overdue
  suffices hstep : Awaited s id deadline P (st.act e).1 ∧
      ∀ m, Sight.did (.answered id (.error m)) ∈ (st.act e).2 →
        m = (ConnectionError.readTimeout s.readTimeout.shown).message ∧ ∃ due, due ≤ st.now ∧ P due by
    refine ⟨hstep.1, fun τ r hmem => ?_⟩
    obtain ⟨seen, hseen, hpair⟩ := List.mem_map.1 hmem
    cases hpair
    refine ⟨hwaits (horderly.waits_before hallowed hid (.inr (mem_answeredIn hseen))), fun m hm => ?_⟩
    subst hm
    exact hstep.2 m hseen
  cases e with
  | pass ms => exact ⟨⟨h.settings, h.reader, h.due⟩, fun m hm => absurd hm List.not_mem_nil⟩
  | ring a => exact h.ring hallowed
  | arrive bytes =>
    have hrearms := Connection.rearms_arrive st.now bytes h.reader
    have hsettings := (Connection.passing_arrive st.now bytes st.connection).agree.settings
    refine ⟨⟨hsettings.trans h.settings, hrearms.reader, fun due hmem => ?_⟩, fun m hm => ?_⟩
    · have hw := horderly.waits_before hallowed hid (.inl ⟨due, hmem⟩)
      rcases mem_settings hmem with hmem | ⟨delay, harm, hdue⟩
      · exact h.due due hmem
      · obtain rfl := hrearms.arms delay harm
        rw [show due = st.now + Connection.remaining st.now deadline from hdue]
        exact hkeeps rfl (hwaits hw)
    · obtain ⟨e, he, hsight⟩ := List.mem_map.1 hm
      cases hsight
      exact absurd he (hrearms.succeeds m)
  | _ => cases he

theorem reads_waiting (es : List Event) (hes : ∀ e ∈ es, e.waiting = true) : (st.run es).1.reads = st.reads := by
  rw [reads_run, readsOf, List.countP_eq_zero.2 fun e he => ?_, Nat.add_zero]
  have := hes e he
  cases e <;> first | exact Bool.false_ne_true | cases this

/-- **A read in the course of time** -/
theorem Awaited.run (h : Awaited s id deadline P st) (horderly : Orderly st answered) {es : List Event}
    (hes : ∀ e ∈ es, e.waiting = true) (hpossible : st.Possible es) (hid : 1 ≤ id ∧ id ≤ st.reads)
    (hkeeps : ∀ u ∈ st.arrivalTimes es, (∃ due, u ≤ due ∧ P due) → P (u + Connection.remaining u deadline)) :
    Awaited s id deadline P (st.run es).1 ∧ Bounded s id P (st.run es).2 := by
  induction es generalizing st answered with
  | nil => exact ⟨h, fun τ r hm => absurd hm List.not_mem_nil⟩
  | cons e es ih =>
    obtain ⟨he, hes⟩ := List.forall_mem_cons.1 hes
    have hfirst := h.act horderly he hpossible.1 hid fun harrival =>
      hkeeps st.now (List.mem_append_left _ (by rw [if_pos harrival]; exact List.mem_singleton_self _))
    have hreads : (st.act e).1.reads = st.reads :=
      reads_waiting [e] (List.forall_mem_singleton.2 he)
    have hrest := ih hfirst.1 (horderly.act hpossible.1) hes hpossible.2 (hreads.symm ▸ hid)
      fun u hu => hkeeps u (List.mem_append_right _ hu)
    refine ⟨hrest.1, fun τ r hm => ?_⟩
    rcases List.mem_append.1 hm with hm | hm
    · exact hfirst.2 τ r hm
    · exact hrest.2 τ r hm

end

/-- a read that starts on an open connection when no other is in progress: it is answered with a reply at once, or its
alarm is set for its whole limit -/
theorem awaited_read {st : Clocked} (hopen : st.connection.ended = none) (hfree : st.reading = false)
    {P : Int → Prop} (hdue : P (st.now + Connection.remaining st.now
      (st.connection.settings.readTimeout.deadline st.now))) :
    Awaited st.connection.settings (st.reads + 1) (st.connection.settings.readTimeout.deadline st.now) P
        (st.act .read).1 ∧
      ∀ m, Sight.did (.answered (st.reads + 1) (.error m)) ∉ (st.act .read).2 := by
  obtain ⟨hpending, halarms⟩ := parts_of_not_reading hfree
  have hnone : ∀ due id, (due, Alarm.read id) ∉ st.alarms := by
    intro due id hm
    rw [← halarms] at hm
    exact absurd (List.mem_filter.1 hm).2 (by simp [isRead])
  rw [act]
  cases hsplit : Connection.splitReply st.connection.lines with
  | some p =>
    obtain ⟨got, rest⟩ := p
    rw [Connection.read_queued _ _ hsplit]
    refine ⟨⟨rfl, fun r hr => ?_, fun due hm => ?_⟩, fun m hm => ?_⟩
    · cases hpending.symm.trans hr
    · rcases mem_settings hm with hm | ⟨delay, harm, -⟩
      · exact absurd hm (hnone due _)
      · rcases List.mem_append.1 harm with harm | harm
        · exact absurd rfl (((unread_traceReply got _ harm).2 (st.reads + 1)).2 delay)
        · cases List.mem_singleton.1 harm
    · obtain ⟨e, he, hsight⟩ := List.mem_map.1 hm
      cases hsight
      rcases List.mem_append.1 he with he | he
      · exact Connection.not_mem_traceReply _ _ _ he
      · cases List.mem_singleton.1 he
  | none =>
    rw [Connection.read_open _ _ hsplit hopen]
    refine ⟨⟨rfl, fun r hr => ?_, fun due hm => ?_⟩, fun m hm => ?_⟩
    · cases hr
      exact ⟨rfl, rfl⟩
    · rcases mem_set.1 hm with hm | hm
      · exact absurd hm (hnone due _)
      · cases hm
        exact hdue
    · obtain ⟨e, he, hsight⟩ := List.mem_map.1 hm
      cases hsight
      cases List.mem_singleton.1 he

/-- **One deadline for a reply.** A read starts on an open connection while no other is in progress; then time passes,
alarms go off and bytes arrive, in any order at each instant. With a limit from 1 to the longest delay the read is
turned down only for its limit and not before that has passed; and once the clock goes beyond an instant at which the
limit has passed and nothing arrives, the read has been answered by then. -/
theorem reply_deadline {st : Clocked} (hst : Reachable st) (hopen : st.connection.ended = none)
    (hfree : st.reading = false) {limit : Nat}
    (hlimit : st.connection.settings.readTimeout = .number (.finite limit)) (hpos : 1 ≤ limit)
    (hle : limit ≤ Time.longestDelay) {es : List Event} (hes : ∀ e ∈ es, e.waiting = true)
    (hpossible : st.Possible (.read :: es)) (hlow : -Time.farthest ≤ st.now)
    (hhigh : (st.run (.read :: es)).1.now ≤ Time.farthest) :
    (∀ τ m, (τ, Sight.did (.answered (st.reads + 1) (.error m))) ∈ (st.run (.read :: es)).2 →
      m = (ConnectionError.readTimeout (Number.toText (.finite limit))).message ∧ st.now + limit ≤ τ) ∧
    ∀ B, st.now + limit ≤ B → B ∉ st.arrivalTimes (.read :: es) → B < (st.run (.read :: es)).1.now →
      ∃ τ r, τ ≤ B ∧ (τ, Sight.did (.answered (st.reads + 1) r)) ∈ (st.run (.read :: es)).2 := by
  obtain ⟨answered, horderly⟩ := hst.orderly
  have horderly₁ := horderly.act hpossible.1
  have hnow : (st.act .read).1.now = st.now := rfl
  have hid : 1 ≤ st.reads + 1 ∧ st.reads + 1 ≤ (st.act .read).1.reads := ⟨by omega, le_rfl⟩
  have hend : (st.run (.read :: es)).1 = ((st.act .read).1.run es).1 := rfl
  have hleft (u : Int) (hu : u ∈ (st.act .read).1.arrivalTimes es) : Connection.remaining u
      (st.connection.settings.readTimeout.deadline st.now) = if u < st.now + limit then st.now + limit - u else 1 := by
    obtain ⟨hbegun, hended⟩ := mem_arrivalTimes hu
    exact Connection.remaining_later hlimit hle hlow hbegun (hended.trans hhigh)
  have hfirst : st.now + Connection.remaining st.now (st.connection.settings.readTimeout.deadline st.now) =
      st.now + limit := by
    rw [Connection.remaining_later hlimit hle hlow le_rfl ((now_run st (.read :: es)).trans hhigh), if_pos (by omega)]
    omega
  refine ⟨fun τ m hm => ?_, fun B hB hquiet hbeyond => ?_⟩
  · obtain ⟨hstart, hnoerror⟩ := awaited_read hopen hfree (P := fun due => st.now + limit ≤ due) hfirst.ge
    have hkeeps : ∀ u ∈ (st.act .read).1.arrivalTimes es, (∃ due, u ≤ due ∧ st.now + limit ≤ due) →
        st.now + limit ≤ u + Connection.remaining u (st.connection.settings.readTimeout.deadline st.now) := by
      intro u hu _
      rw [hleft u hu]
      split <;> omega
    obtain ⟨-, hbounded⟩ := hstart.run horderly₁ hes hpossible.2 hid hkeeps
    rcases List.mem_append.1 hm with hm | hm
    · obtain ⟨seen, hseen, hpair⟩ := List.mem_map.1 hm
      cases hpair
      exact absurd hseen (hnoerror m)
    · obtain ⟨hwords, due, hdue, hlate⟩ := (hbounded τ _ hm).2 m rfl
      refine ⟨hwords.trans ?_, hlate.trans hdue⟩
      rw [hlimit]
      rfl
  · obtain ⟨hstart, -⟩ := awaited_read hopen hfree (P := fun due => due ≤ B) (hfirst.trans_le hB)
    have hkeeps : ∀ u ∈ (st.act .read).1.arrivalTimes es, (∃ due, u ≤ due ∧ due ≤ B) →
        u + Connection.remaining u (st.connection.settings.readTimeout.deadline st.now) ≤ B := by
      rintro u hu ⟨due, hdue, hB'⟩
      have hne : u ≠ B := fun h => hquiet (h ▸ hu)
      rw [hleft u hu]
      split <;> omega
    obtain ⟨hlast, hbounded⟩ := hstart.run horderly₁ hes hpossible.2 hid hkeeps
    -- beyond `B` the read cannot wait any more: its alarm would be overdue
    have hrun := horderly₁.run hpossible.2
    have hstill : ¬Waits ((st.act .read).1.run es).1.alarms (st.reads + 1) := by
      rintro ⟨due, hmem⟩
      have hdue := hlast.due due hmem
      have hover := hrun.timely _ hmem
      have : due < ((st.act .read).1.run es).1.now := hdue.trans_lt hbeyond
      dsimp only at hover
      omega
    have hlate : st.reads + 1 ≤ ((st.act .read).1.run es).1.reads := (reads_waiting es hes).symm ▸ hid.2
    have hanswered := ((hrun.started _).2 ⟨hid.1, hlate⟩).resolve_left hstill
    have hnew : st.reads + 1 ∉ answered := fun hm => by
      have := (horderly.started _).1 (.inr hm)
      omega
    rw [List.append_assoc] at hanswered
    rcases List.mem_append.1 ((List.mem_append.1 hanswered).resolve_left hnew) with hseen | hseen
    · have hatonce : st.reads + 1 ∈ (Trace.answers ((st.act .read).2.map (st.now, ·))).map Prod.fst := by
        rwa [answers_map]
      obtain ⟨τ, r, hmem⟩ := exists_answer hatonce
      obtain ⟨seen, -, hpair⟩ := List.mem_map.1 hmem
      cases hpair
      exact ⟨st.now, r, by omega, List.mem_append_left _ hmem⟩
    · obtain ⟨τ, r, hmem⟩ := exists_answer hseen
      obtain ⟨due, hdue, hB'⟩ := (hbounded τ r hmem).1
      exact ⟨τ, r, hdue.trans hB', List.mem_append_right _ hmem⟩

/-- a relay that says part of a reply and then nothing, until after the limit -/
def halfReply : List Event := [.pass 4000, .arrive (utf8 "220-a\r\n"), .pass 6000, .ring (.read 1), .pass 5]

/-- part of a reply does not answer a read in time; the time limit does, and it says so -/
theorem reply_deadline_half :
    let st := start .submission 0
    Reachable st ∧ st.connection.ended = none ∧ st.reading = false ∧
      st.connection.settings.readTimeout = .number (.finite (10000 : Nat)) ∧ (1 ≤ 10000 ∧ 10000 ≤ Time.longestDelay) ∧
      (∀ e ∈ halfReply, e.waiting = true) ∧ st.Possible (.read :: halfReply) ∧ -Time.farthest ≤ st.now ∧
      (st.run (.read :: halfReply)).1.now ≤ Time.farthest ∧
      (∃ τ r, τ ≤ 10000 ∧ (τ, Sight.did (.answered 1 r)) ∈ (st.run (.read :: halfReply)).2) ∧
      (st.run (.read :: halfReply)).2.answers = [(1, .error "Timed out after 10000 ms waiting for reply")] := by
  intro st
  have hst : Reachable st := ⟨.submission, 0, [], trivial, rfl⟩
  have hlimit : st.connection.settings.readTimeout = .number (.finite (10000 : Nat)) := rfl
  have hpossible : st.Possible (.read :: halfReply) := by decide +kernel
  have hend : (st.run (.read :: halfReply)).1.now = 10005 := by decide +kernel
  have hhigh : (st.run (.read :: halfReply)).1.now ≤ Time.farthest := by
    rw [hend]
    decide
  obtain ⟨-, hsettled⟩ := reply_deadline hst rfl rfl hlimit (by decide) (by decide) (by decide) hpossible (by decide) hhigh
  refine ⟨hst, rfl, rfl, hlimit, by decide, by decide, hpossible, by decide, hhigh, ?_, by decide +kernel⟩
  exact hsettled 10000 (by decide) (by decide +kernel) (by rw [hend]; decide)

/-- **Where the deadline fails.** A limit beyond the longest delay is over after one millisecond; and lines that come
at the deadline and a millisecond later, just before the alarm, keep a read waiting beyond that. -/
theorem deadline_overrun :
    (let s : Settings := { Settings.submission with readTimeout := .number (.finite 2147483648) }
      let es : List Event := [.read, .pass 1, .ring (.read 1)]
      s.problems = [] ∧ (start s 0).Possible es ∧ ((start s 0).run es).1.now = 1 ∧
        ((start s 0).run es).2.answers = [(1, .error "Timed out after 2147483648 ms waiting for reply")]) ∧
    (let s : Settings := { Settings.submission with readTimeout := .number (.finite 10) }
      let es : List Event :=
        [.read, .pass 10, .arrive (utf8 "220-a\r\n"), .pass 1, .arrive (utf8 "220-b\r\n"), .pass 1]
      s.problems = [] ∧ (start s 0).Possible es ∧ ((start s 0).run es).1.now = 12 ∧
        ((start s 0).run es).2.answers = []) := by
  decide +kernel

end Clocked

end EnquiryMail.Smtp
