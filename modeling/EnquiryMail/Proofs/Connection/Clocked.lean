/-
A connection in time. The connection stands with a clock and the alarms it has set; events are what the client does
with it, what the relay does to it, alarms that go off, and time that passes. Time does not pass over an alarm that is
due, and an alarm does not go off before it is; otherwise events come in any order, also at one instant.

- `run_append`: a run in two parts.
- `Orderly.act`, `Orderly.run`: what every event keeps: no line feed in the bytes of the line under way, no alarm
  overdue, and each read that was started either waits or was answered, once.
- `reading_iff`: a read is in progress exactly when one that was started has no answer yet.
-/
import EnquiryMail.Net.Agenda
import EnquiryMail.Proofs.Connection.Intake
import EnquiryMail.Proofs.Session.Conformance

namespace EnquiryMail.Smtp

open Text.Utf8 (Bytes)

/-- something that is done with a connection or happens to it -/
inductive Event
  | pass (ms : Nat)
  | ring (a : Alarm)
  | arrive (bytes : Bytes)
  | hangUp (error : Option String)
  | refuseWrites (error : String)
  | read
  | line (text : String) (secret : Bool)
  | raw (text : String)
  | startTls (anchor : Except String (Option String))
  | shaken (id : Nat)
  | shakeFailed (id : Nat) (error : String)
  | close

/-- what is seen of a connection: what it does, and how a write went -/
inductive Sight
  | did (e : Effect)
  | written (r : Except String Unit)

/-- what was seen, and when -/
abbrev Trace := List (Int × Sight)

/-- a connection with a clock and the alarms it has set; reads count from 1, handshakes from 0 -/
structure Clocked where
  now : Int
  connection : Connection
  alarms : Net.Agenda Alarm
  /-- reads started so far -/
  reads : Nat
  /-- handshakes started so far -/
  handshakes : Nat

namespace Clocked

/-- a fresh connection at an instant -/
def start (s : Settings) (now : Int) : Clocked := ⟨now, Connection.start s, [], 0, 0⟩

/-- an effect sets or cancels an alarm, or it does not -/
def setting (now : Int) (alarms : Net.Agenda Alarm) : Effect → Net.Agenda Alarm
  | .arm a delay => alarms.set (now + delay) a
  | .disarm a => alarms.cancel (· == a)
  | _ => alarms

/-- the alarms after some effects -/
def settings (now : Int) (alarms : Net.Agenda Alarm) (es : List Effect) : Net.Agenda Alarm :=
  es.foldl (setting now) alarms

/-- carries out what the connection does -/
def after (st : Clocked) (o : Connection.Outcome) : Clocked × List Sight :=
  ({ st with connection := o.1, alarms := settings st.now st.alarms o.2 }, o.2.map .did)

/-- a write leaves the connection as it is -/
def wrote (st : Clocked) (w : Except String Unit × List Effect) : Clocked × List Sight :=
  ({ st with alarms := settings st.now st.alarms w.2 }, w.2.map .did ++ [.written w.1])

/-- what an event leads to -/
def act (st : Clocked) : Event → Clocked × List Sight
  | .pass ms => ({ st with now := st.now + ms }, [])
  | .ring a => after { st with alarms := st.alarms.cancel (· == a) } (st.connection.alarm a)
  | .arrive bytes => st.after (st.connection.arrive st.now bytes)
  | .hangUp error => st.after (st.connection.hangUp st.now error)
  | .refuseWrites error => st.after (st.connection.refuseWrites error, [])
  | .read => after { st with reads := st.reads + 1 } (st.connection.read st.now (st.reads + 1))
  | .line text secret => st.wrote (st.connection.writeLine text secret)
  | .raw text => st.wrote (st.connection.writeRaw text)
  | .startTls anchor =>
    after { st with handshakes := st.handshakes + 1 } (st.connection.startTls st.handshakes anchor)
  | .shaken id => st.after (st.connection.shaken id)
  | .shakeFailed id error => st.after (st.connection.shakeFailed st.now id error)
  | .close => st.after (st.connection.close st.now)

/-- events one after another -/
def run (st : Clocked) : List Event → Clocked × Trace
  | [] => (st, [])
  | e :: es => (((st.act e).1.run es).1, (st.act e).2.map (st.now, ·) ++ ((st.act e).1.run es).2)

/-- time passes up to the next alarm at most, and only an alarm that is due goes off -/
def Allows (st : Clocked) : Event → Prop
  | .pass ms => ∀ e ∈ st.alarms, st.now + ms ≤ e.1
  | .ring a => ∃ e ∈ st.alarms, e.2 = a ∧ e.1 ≤ st.now
  | _ => True

/-- each event is allowed when it comes -/
def Possible (st : Clocked) : List Event → Prop
  | [] => True
  | e :: es => st.Allows e ∧ (st.act e).1.Possible es

instance (st : Clocked) (e : Event) : Decidable (st.Allows e) :=
  match e with
  | .pass ms => inferInstanceAs (Decidable (∀ e ∈ st.alarms, st.now + ms ≤ e.1))
  | .ring a => inferInstanceAs (Decidable (∃ e ∈ st.alarms, e.2 = a ∧ e.1 ≤ st.now))
  | .arrive _ | .hangUp _ | .refuseWrites _ | .read | .line .. | .raw _ | .startTls _ | .shaken _ | .shakeFailed .. |
    .close => inferInstanceAs (Decidable True)

instance decidablePossible (st : Clocked) : (es : List Event) → Decidable (st.Possible es)
  | [] => inferInstanceAs (Decidable True)
  | e :: es =>
    have := decidablePossible (st.act e).1 es
    inferInstanceAs (Decidable (_ ∧ _))

/-- the alarm of a read -/
def isRead : Alarm → Bool
  | .read _ => true
  | _ => false

/-- a read is in progress: it waits for lines, or at least for its time limit -/
def reading (st : Clocked) : Bool := st.connection.pending.isSome || st.alarms.any (isRead ·.2)

end Clocked

/-- the answer to a read, if an effect is one -/
def Effect.answer? : Effect → Option (Nat × Except String Reply)
  | .answered id r => some (id, r)
  | _ => none

/-- the answer to a read, if that is what is seen -/
def Sight.answer? : Sight → Option (Nat × Except String Reply)
  | .did e => e.answer?
  | .written _ => none

/-- the answers to reads in a trace -/
def Trace.answers (tr : Trace) : List (Nat × Except String Reply) := tr.filterMap (·.2.answer?)

/-- the bytes that events bring -/
def bytesOf (es : List Event) : Bytes :=
  (es.map fun e => match e with | .arrive bytes => bytes | _ => []).flatten

namespace Clocked

/-! ## Runs -/

theorem run_append (st : Clocked) (as bs : List Event) :
    st.run (as ++ bs) = (((st.run as).1.run bs).1, (st.run as).2 ++ ((st.run as).1.run bs).2) := by
  induction as generalizing st with
  | nil => rfl
  | cons e as ih => simp only [List.cons_append, run, ih, List.append_assoc]

theorem answers_append (as bs : Trace) : (as ++ bs : Trace).answers = as.answers ++ bs.answers := List.filterMap_append

/-- the answers in what is seen at an instant -/
theorem answers_map (now : Int) (seen : List Sight) :
    Trace.answers (seen.map (now, ·)) = seen.filterMap Sight.answer? := List.filterMap_map

/-! ## Alarms and answers -/

theorem settings_append (now : Int) (alarms : Net.Agenda Alarm) (es fs : List Effect) :
    settings now alarms (es ++ fs) = settings now (settings now alarms es) fs := List.foldl_append

theorem mem_set {alarms : Net.Agenda Alarm} {due : Int} {a : Alarm} {e : Int × Alarm} :
    e ∈ alarms.set due a ↔ e ∈ alarms ∨ e = (due, a) := by
  rw [Net.Agenda.set, List.mem_append, List.mem_singleton]

theorem mem_cancel {alarms : Net.Agenda Alarm} {a : Alarm} {e : Int × Alarm} :
    e ∈ alarms.cancel (· == a) ↔ e ∈ alarms ∧ e.2 ≠ a := by
  simp [Net.Agenda.cancel]

/-- the alarm of a read is set -/
def Waits (alarms : Net.Agenda Alarm) (id : Nat) : Prop := ∃ due, (due, .read id) ∈ alarms

/-- the reads that effects answer -/
def answeredBy (es : List Effect) : List Nat := (es.filterMap Effect.answer?).map Prod.fst

theorem answeredBy_append (es fs : List Effect) : answeredBy (es ++ fs) = answeredBy es ++ answeredBy fs := by
  rw [answeredBy, List.filterMap_append, List.map_append]
  rfl

theorem waits_set {alarms : Net.Agenda Alarm} {due : Int} {a : Alarm} {id : Nat} :
    Waits (alarms.set due a) id ↔ Waits alarms id ∨ a = .read id := by
  have hnew : (∃ d, (d, Alarm.read id) = (due, a)) ↔ a = .read id := by
    simp only [Prod.mk.injEq, exists_and_right, exists_eq, true_and]
    exact eq_comm
  rw [Waits, ← hnew, Waits, ← exists_or]
  exact exists_congr fun d => mem_set

theorem waits_cancel {alarms : Net.Agenda Alarm} {a : Alarm} {id : Nat} :
    Waits (alarms.cancel (· == a)) id ↔ Waits alarms id ∧ a ≠ .read id := by
  simp only [Waits, mem_cancel, exists_and_right, ne_comm, ne_eq]

/-- effects that set alarms only for instants to come -/
def Ahead (es : List Effect) : Prop := ∀ a delay, .arm a delay ∈ es → 1 ≤ delay

/-- effects that have nothing to do with reads -/
def Unread (es : List Effect) : Prop :=
  ∀ e ∈ es, e.answer? = none ∧ ∀ id, e ≠ .disarm (.read id) ∧ ∀ delay, e ≠ .arm (.read id) delay

theorem waits_settings_of_unread (now : Int) {es : List Effect} (h : Unread es) (alarms : Net.Agenda Alarm) (id : Nat) :
    Waits (settings now alarms es) id ↔ Waits alarms id := by
  induction es generalizing alarms with
  | nil => exact Iff.rfl
  | cons e es ih =>
    obtain ⟨⟨-, he⟩, hes⟩ := List.forall_mem_cons.1 h
    refine (ih hes (setting now alarms e)).trans ?_
    cases e with
    | arm a delay =>
      have ha : a ≠ .read id := fun ha => (he id).2 delay (by rw [ha])
      simp only [setting, waits_set, ha, or_false]
    | disarm a =>
      have ha : a ≠ .read id := fun ha => (he id).1 (by rw [ha])
      simp only [setting, waits_cancel, ne_eq, ha, not_false_iff, and_true]
    | _ => exact Iff.rfl

theorem answeredBy_of_unread {es : List Effect} (h : Unread es) : answeredBy es = [] := by
  rw [answeredBy, List.filterMap_eq_nil_iff.2 fun e he => (h e he).1]
  rfl

/-! ## What every transition does about reads -/

/-- what an outcome has to do with the reads that wait: those answered have waited, and no longer do; the others go on,
and whoever is to get the next line is among them -/
structure Accounts (alarms : Net.Agenda Alarm) (o : Connection.Outcome) (alarms' : Net.Agenda Alarm) : Prop where
  served : ∀ r, o.1.pending = some r → Waits alarms' r.id
  waits : ∀ id, Waits alarms' id ↔ Waits alarms id ∧ id ∉ answeredBy o.2
  answered : ∀ id ∈ answeredBy o.2, Waits alarms id
  once : (answeredBy o.2).Nodup

/-- an outcome that keeps a connection in order -/
structure Regular (c : Connection) (o : Connection.Outcome) : Prop where
  whole : 10 ∉ c.buffer → 10 ∉ o.1.buffer
  ahead : Ahead o.2
  accounts : ∀ now alarms, (∀ r, c.pending = some r → Waits alarms r.id) →
    Accounts alarms o (settings now alarms o.2)

/-- nothing is done about reads -/
theorem regular_of_unread {c : Connection} {o : Connection.Outcome} (hwhole : 10 ∉ c.buffer → 10 ∉ o.1.buffer)
    (hpending : o.1.pending = c.pending) (hahead : Ahead o.2) (hunread : Unread o.2) : Regular c o where
  whole := hwhole
  ahead := hahead
  accounts now alarms hc :=
    { served := fun r hr => (waits_settings_of_unread now hunread alarms r.id).2 (hc r (hpending ▸ hr))
      waits := fun id => by
        rw [waits_settings_of_unread now hunread, answeredBy_of_unread hunread]
        simp
      answered := by
        rw [answeredBy_of_unread hunread]
        exact List.forall_mem_nil _
      once := by
        rw [answeredBy_of_unread hunread]
        exact List.nodup_nil }

theorem regular_refl (c : Connection) : Regular c (c, []) :=
  regular_of_unread id rfl (fun _ _ h => nomatch h) (List.forall_mem_nil _)

theorem Regular.andThen {c : Connection} {o : Connection.Outcome} {f : Connection → Connection.Outcome}
    (ho : Regular c o) (hf : ∀ c', Regular c' (f c')) : Regular c (Connection.andThen o f) where
  whole h := (hf o.1).whole (ho.whole h)
  ahead a delay h := by
    rcases List.mem_append.1 h with h | h
    · exact ho.ahead a delay h
    · exact (hf o.1).ahead a delay h
  accounts now alarms hc := by
    have h₁ := ho.accounts now alarms hc
    have h₂ := (hf o.1).accounts now _ h₁.served
    have hboth : answeredBy (Connection.andThen o f).2 = answeredBy o.2 ++ answeredBy (f o.1).2 :=
      answeredBy_append _ _
    have hend : settings now alarms (Connection.andThen o f).2 =
      settings now (settings now alarms o.2) (f o.1).2 := settings_append ..
    rw [hend]
    refine ⟨h₂.served, fun id => ?_, fun id hid => ?_, ?_⟩
    · rw [h₂.waits, h₁.waits, hboth, List.mem_append, not_or, and_assoc]
    · rw [hboth] at hid
      rcases List.mem_append.1 hid with hid | hid
      · exact h₁.answered id hid
      · exact ((h₁.waits id).1 (h₂.answered id hid)).1
    · rw [hboth]
      refine List.nodup_append.2 ⟨h₁.once, h₂.once, fun a ha b hb hab => ?_⟩
      exact ((h₁.waits b).1 (h₂.answered b hb)).2 (hab ▸ ha)

/-- the reader that waits is answered -/
theorem regular_answered {c : Connection} {o : Connection.Outcome} {r : Reader} (hr : c.pending = some r)
    (hwhole : 10 ∉ c.buffer → 10 ∉ o.1.buffer) (hpending : o.1.pending = none) (es : List Effect) (hahead : Ahead es)
    (hunread : Unread es) {answer : Except String Reply}
    (ho : o.2 = .disarm (.read r.id) :: es ++ [.answered r.id answer]) : Regular c o where
  whole := hwhole
  ahead a delay h := by
    rw [ho, List.mem_append, List.mem_cons, List.mem_singleton] at h
    rcases h with (h | h) | h
    · cases h
    · exact hahead a delay h
    · cases h
  accounts now alarms hc := by
    have hids : answeredBy o.2 = [r.id] := by
      rw [ho, answeredBy_append, ← List.singleton_append, answeredBy_append, answeredBy_of_unread hunread]
      rfl
    have hend : ∀ id, Waits (settings now alarms o.2) id ↔ Waits alarms id ∧ r.id ≠ id := fun id => by
      rw [ho, settings_append, ← List.singleton_append, settings_append]
      refine (waits_settings_of_unread now hunread _ id).trans (waits_cancel.trans (and_congr_right fun _ => ?_))
      exact not_congr ⟨fun h => by injection h, fun h => by rw [h]⟩
    refine ⟨fun r' hr' => ?_, fun id => ?_, fun id hid => ?_, ?_⟩
    · rw [hpending] at hr'
      cases hr'
    · rw [hend, hids, List.mem_singleton, ne_comm]
    · rw [hids] at hid
      rw [List.mem_singleton.1 hid]
      exact hc r hr
    · rw [hids]
      exact List.nodup_singleton _

theorem unread_traceReply (lines : List String) : Unread (Connection.traceReply lines) := by
  intro e he
  obtain ⟨l, -, rfl⟩ := List.mem_map.1 he
  exact ⟨rfl, fun id => ⟨nofun, nofun⟩⟩

theorem ahead_traceReply (lines : List String) : Ahead (Connection.traceReply lines) := by
  intro a delay h
  obtain ⟨l, -, hl⟩ := List.mem_map.1 h
  cases hl

theorem remaining_pos (now : Int) (deadline : Number) : 1 ≤ Connection.remaining now deadline := by
  have := Time.delayOf_pos (if Number.lt (Number.sub deadline (Number.ofInt now)) 0 then 0
    else Number.sub deadline (Number.ofInt now))
  rw [Connection.remaining]
  omega

theorem regular_pushLine (now : Int) (line : String) (c : Connection) : Regular c (Connection.pushLine now line c) := by
  cases hr : c.pending with
  | none =>
    rw [Connection.pushLine_unread now line hr]
    exact regular_of_unread id rfl (fun _ _ h => nomatch h) (List.forall_mem_nil _)
  | some r =>
    cases hline : isFinalLine line with
    | true =>
      rw [Connection.pushLine_final now hline hr]
      exact regular_answered hr id rfl _ (ahead_traceReply _) (unread_traceReply _) rfl
    | false =>
      rw [Connection.pushLine_more now hline hr]
      refine ⟨id, ?_, fun now' alarms hc => ?_⟩
      · intro a delay h
        rw [List.mem_cons, List.mem_singleton] at h
        rcases h with h | h
        · cases h
        · cases h
          exact remaining_pos now r.deadline
      · have hend : ∀ id, Waits (settings now' alarms [.disarm (.read r.id),
            .arm (.read r.id) (Connection.remaining now r.deadline)]) id ↔ Waits alarms id := fun id => by
          refine waits_set.trans ((or_congr_left waits_cancel).trans ⟨?_, fun h => ?_⟩)
          · rintro (⟨h, -⟩ | h)
            · exact h
            · cases h
              exact hc r hr
          · exact or_iff_not_imp_right.2 fun hne => ⟨h, hne⟩
        refine ⟨fun r' hr' => ?_, fun id => ?_, List.forall_mem_nil _, List.nodup_nil⟩
        · cases hr'
          exact (hend r.id).2 (hc r hr)
        · exact (hend id).trans (and_iff_left List.not_mem_nil).symm

/-- the bytes of the line under way do not matter to what is done about reads -/
theorem Regular.of_buffer {c : Connection} {bs : Bytes} {o : Connection.Outcome} (hbs : 10 ∉ bs)
    (h : Regular { c with buffer := bs } o) : Regular c o :=
  ⟨fun _ => h.whole hbs, h.ahead, h.accounts⟩

theorem regular_feed (now : Int) (bytes : Bytes) (c : Connection) : Regular c (Connection.feed now bytes c) := by
  induction bytes generalizing c with
  | nil => exact regular_refl c
  | cons b bytes ih =>
    rw [Connection.feed_cons]
    refine Regular.andThen ?_ ih
    unfold Connection.feedByte
    split
    · exact .of_buffer List.not_mem_nil (regular_pushLine now _ _)
    · rename_i hb
      refine regular_of_unread (fun h hm => ?_) rfl (fun _ _ h => nomatch h) (List.forall_mem_nil _)
      rcases List.mem_cons.1 hm with hm | hm
      · exact hb hm.symm
      · exact h hm

theorem regular_reject (error : String) (c : Connection) : Regular c (Connection.reject error c) := by
  unfold Connection.reject
  cases hr : c.pending with
  | none => exact regular_of_unread id hr.symm (fun _ _ h => nomatch h) (List.forall_mem_nil _)
  | some r =>
    exact regular_answered hr id rfl [] (fun _ _ h => nomatch h) (List.forall_mem_nil _) rfl

theorem regular_pushLines (now : Int) (lines : List String) (c : Connection) :
    Regular c (Connection.pushLines now lines c) := by
  induction lines generalizing c with
  | nil => exact regular_refl c
  | cons line lines ih =>
    rw [Connection.pushLines_cons]
    exact (regular_pushLine now line c).andThen ih

theorem regular_finish (now : Int) (error : String) (c : Connection) : Regular c (Connection.finish now error c) := by
  by_cases hc : c.ended = none
  · rw [Connection.finish_eq now error hc]
    exact Regular.andThen (.of_buffer List.not_mem_nil (regular_pushLines now _ _)) (regular_reject error)
  · rw [Connection.finish_ended now error hc]
    exact regular_refl c

theorem regular_arrive (now : Int) (bytes : Bytes) (c : Connection) : Regular c (Connection.arrive now bytes c) := by
  unfold Connection.arrive
  split
  · exact regular_feed now bytes c
  · exact regular_refl c

theorem regular_hangUp (now : Int) (error : Option String) (c : Connection) :
    Regular c (Connection.hangUp now error c) := by
  unfold Connection.hangUp
  dsimp only
  split
  · obtain ⟨hwhole, hahead, haccounts⟩ := regular_finish now (error.getD ConnectionError.closedByRelay.message)
      { c with socket := { c.socket with live := false } }
    exact ⟨hwhole, hahead, haccounts⟩
  · exact regular_of_unread id rfl (fun _ _ h => nomatch h) (List.forall_mem_nil _)

theorem regular_close (now : Int) (c : Connection) : Regular c (Connection.close now c) := by
  unfold Connection.close
  refine Regular.andThen (regular_of_unread id rfl ?_ ?_) (regular_finish now _)
  · intro a delay h
    split at h
    · cases List.mem_singleton.1 h
    · cases h
  · intro e he
    split at he
    · rw [List.mem_singleton.1 he]
      exact ⟨rfl, fun id => ⟨nofun, nofun⟩⟩
    · cases he

theorem regular_startTls (id : Nat) (anchor : Except String (Option String)) (c : Connection) :
    Regular c (Connection.startTls id anchor c) := by
  have hlimit : 1 ≤ c.settings.readTimeout.delay := Int.ofNat_le.2 (Time.delayOf_pos _)
  unfold Connection.startTls
  cases anchor with
  | error m => exact regular_of_unread (fun _ => List.not_mem_nil) rfl (by simp [Ahead]) (by simp [Unread, Effect.answer?])
  | ok text =>
    refine regular_of_unread (fun _ => List.not_mem_nil) rfl ?_ (by simp [Unread, Effect.answer?])
    intro a delay h
    simp only [List.mem_cons, List.mem_nil_iff, or_false, reduceCtorEq, false_or, Effect.arm.injEq] at h
    rw [h.2]
    exact hlimit

theorem regular_shaken (id : Nat) (c : Connection) : Regular c (Connection.shaken id c) := by
  unfold Connection.shaken
  cases c.upgrade? id with
  | none => exact regular_refl c
  | some u =>
    dsimp only
    split
    · exact regular_refl c
    · refine regular_of_unread (fun h => h) rfl ?_ ?_
      · intro a delay h
        split at h <;> simp [Connection.note] at h
      · intro e he
        split at he <;> simp [Connection.note] at he <;> grind [Effect.answer?]

theorem regular_abandon (id : Nat) (error : String) (c : Connection) : Regular c (Connection.abandon id error c) := by
  unfold Connection.abandon
  cases (c.upgrade? id).filter (·.phase == .underWay) with
  | none => exact regular_refl c
  | some u =>
    refine regular_of_unread (fun h => h) rfl ?_ ?_
    · intro a delay h
      dsimp only at h
      split at h <;> simp at h
    · intro e he
      dsimp only at he
      split at he <;> simp at he <;> grind [Effect.answer?]

theorem regular_shakeFailed (now : Int) (id : Nat) (error : String) (c : Connection) :
    Regular c (Connection.shakeFailed now id error c) := by
  unfold Connection.shakeFailed
  split
  · refine Regular.andThen (regular_of_unread (fun h => h) rfl (by simp [Ahead]) ?_) (regular_abandon id error)
    simp [Unread, Effect.answer?]
  · split
    · exact regular_finish now error c
    · exact regular_refl c
  · exact regular_refl c

/-! ## What holds on every run -/

/-- the reads that are answered in what is seen -/
def answeredIn (seen : List Sight) : List Nat := (seen.filterMap Sight.answer?).map Prod.fst

theorem answeredIn_append (as bs : List Sight) : answeredIn (as ++ bs) = answeredIn as ++ answeredIn bs := by
  rw [answeredIn, List.filterMap_append, List.map_append]
  rfl

theorem answeredIn_did (es : List Effect) : answeredIn (es.map .did) = answeredBy es := by
  rw [answeredIn, List.filterMap_map]
  rfl

/-- no line feed is kept, no alarm is overdue, and each read that was started either waits or was answered, once -/
structure Orderly (st : Clocked) (answered : List Nat) : Prop where
  whole : 10 ∉ st.connection.buffer
  timely : ∀ e ∈ st.alarms, st.now ≤ e.1
  served : ∀ r, st.connection.pending = some r → Waits st.alarms r.id
  once : answered.Nodup
  started : ∀ id, Waits st.alarms id ∨ id ∈ answered ↔ 1 ≤ id ∧ id ≤ st.reads
  apart : ∀ id ∈ answered, ¬Waits st.alarms id

theorem orderly_start (s : Settings) (now : Int) : Orderly (start s now) [] where
  whole := List.not_mem_nil
  timely := List.forall_mem_nil _
  served := nofun
  once := List.nodup_nil
  started id := by
    simp only [start, Waits, List.not_mem_nil, exists_false, or_false, false_iff]
    omega
  apart := List.forall_mem_nil _

theorem timely_settings {now : Int} {alarms : Net.Agenda Alarm} {es : List Effect} (hes : Ahead es)
    (h : ∀ e ∈ alarms, now ≤ e.1) : ∀ e ∈ settings now alarms es, now ≤ e.1 := by
  induction es generalizing alarms with
  | nil => exact h
  | cons f es ih =>
    refine ih (fun a delay hm => hes a delay (List.mem_cons_of_mem f hm)) ?_
    cases f with
    | arm a delay =>
      intro e he
      rcases mem_set.1 he with he | he
      · exact h e he
      · have := hes a delay List.mem_cons_self
        rw [he]
        dsimp only
        omega
    | disarm a => exact fun e he => h e (mem_cancel.1 he).1
    | _ => exact h

/-- what is done about reads that wait keeps the accounts -/
theorem Orderly.settle {st st' : Clocked} {answered : List Nat} {o : Connection.Outcome} (h : Orderly st answered)
    (ho : Accounts st.alarms o st'.alarms) (hwhole : 10 ∉ o.1.buffer) (htimely : ∀ e ∈ st'.alarms, st'.now ≤ e.1)
    (hconnection : st'.connection = o.1) (hreads : st'.reads = st.reads) :
    Orderly st' (answered ++ answeredBy o.2) where
  whole := hconnection ▸ hwhole
  timely := htimely
  served r hr := ho.served r (hconnection ▸ hr)
  once := List.nodup_append.2 ⟨h.once, ho.once, fun a ha b hb hab => h.apart a ha (hab ▸ ho.answered b hb)⟩
  started id := by
    rw [hreads, ← h.started id, ho.waits, List.mem_append]
    have := ho.answered id
    tauto
  apart id hid := by
    rw [ho.waits]
    rcases List.mem_append.1 hid with hid | hid
    · exact fun hw => h.apart id hid hw.1
    · exact fun hw => hw.2 hid

theorem Orderly.after {st : Clocked} {answered : List Nat} {o : Connection.Outcome} (h : Orderly st answered)
    (ho : Regular st.connection o) : Orderly (st.after o).1 (answered ++ answeredIn (st.after o).2) := by
  rw [Clocked.after, answeredIn_did]
  exact h.settle (ho.accounts st.now st.alarms h.served) (ho.whole h.whole) (timely_settings ho.ahead h.timely) rfl rfl

/-- an alarm goes off -/
theorem Orderly.ring {st : Clocked} {answered : List Nat} (h : Orderly st answered) {a : Alarm}
    (ha : st.Allows (.ring a)) : Orderly (st.act (.ring a)).1 (answered ++ answeredIn (st.act (.ring a)).2) := by
  have htimely : ∀ f ∈ st.alarms.cancel (· == a), st.now ≤ f.1 := fun f hf => h.timely f (mem_cancel.1 hf).1
  -- cancelling the alarm of a handshake or of connecting leaves the reads as they are
  have hother (hne : ∀ id, a ≠ .read id) : Orderly { st with alarms := st.alarms.cancel (· == a) } answered := by
    have hwaits : ∀ id, Waits (st.alarms.cancel (· == a)) id ↔ Waits st.alarms id := fun id =>
      waits_cancel.trans (and_iff_left (hne id))
    exact ⟨h.whole, htimely, fun r hr => (hwaits r.id).2 (h.served r hr), h.once,
      fun id => by rw [hwaits]; exact h.started id, fun id hid => by rw [hwaits]; exact h.apart id hid⟩
  cases a with
  | connect => exact (hother fun id => nofun).after (regular_refl _)
  | handshake id => exact (hother fun id' => nofun).after (regular_abandon id _ _)
  | read id =>
    obtain ⟨⟨due, a⟩, he, rfl, -⟩ := ha
    rw [Clocked.act, Clocked.after, answeredIn_did]
    refine h.settle (o := st.connection.alarm (.read id)) ⟨nofun, fun id' => ?_, ?_, List.nodup_singleton id⟩ h.whole
      htimely rfl rfl
    · refine waits_cancel.trans (and_congr_right fun _ => ?_)
      show Alarm.read id ≠ .read id' ↔ id' ∉ [id]
      rw [List.mem_singleton, ne_eq, Alarm.read.injEq, eq_comm]
    · intro id' hid'
      rw [List.mem_singleton.1 hid']
      exact ⟨due, he⟩

/-- a read that is answered as soon as it starts -/
theorem Orderly.answeredAtOnce {st : Clocked} {answered : List Nat} (h : Orderly st answered) {c : Connection}
    (hbuffer : c.buffer = st.connection.buffer) (hpending : c.pending = st.connection.pending) (lines : List String)
    (answer : Except String Reply) :
    Orderly ({ st with reads := st.reads + 1 }.after
      (c, Connection.traceReply lines ++ [Effect.answered (st.reads + 1) answer])).1 (answered ++ [st.reads + 1]) := by
  have hnew : ¬(1 ≤ st.reads + 1 ∧ st.reads + 1 ≤ st.reads) := fun h => absurd h.2 (by omega)
  have hstarted : ∀ id, (1 ≤ id ∧ id ≤ st.reads + 1) ↔ (1 ≤ id ∧ id ≤ st.reads) ∨ id = st.reads + 1 := by omega
  have hahead : Ahead (Connection.traceReply lines ++ [.answered (st.reads + 1) answer]) := by
    intro a delay hm
    rcases List.mem_append.1 hm with hm | hm
    · exact ahead_traceReply lines a delay hm
    · cases List.mem_singleton.1 hm
  have hend : ∀ id, Waits (settings st.now st.alarms (Connection.traceReply lines ++
      [.answered (st.reads + 1) answer])) id ↔ Waits st.alarms id := fun id => by
    rw [settings_append]
    exact waits_settings_of_unread st.now (unread_traceReply lines) st.alarms id
  refine ⟨hbuffer ▸ h.whole, timely_settings hahead h.timely, fun r hr => ?_, ?_, fun id => ?_, fun id hid => ?_⟩
  · exact (hend r.id).2 (h.served r (hpending ▸ hr))
  · refine List.nodup_append.2 ⟨h.once, List.nodup_singleton _, fun a ha b hb hab => ?_⟩
    exact hnew ((h.started _).1 (.inr (List.mem_singleton.1 hb ▸ hab ▸ ha)))
  · rw [List.mem_append, List.mem_singleton, ← or_assoc]
    show (Waits (settings _ _ _) id ∨ _) ∨ _ ↔ 1 ≤ id ∧ id ≤ st.reads + 1
    rw [hend, h.started, hstarted]
  · refine fun hw => ?_
    replace hw := (hend id).1 hw
    rcases List.mem_append.1 hid with hid | hid
    · exact h.apart id hid hw
    · exact hnew ((h.started _).1 (.inl (List.mem_singleton.1 hid ▸ hw)))

/-- a read starts -/
theorem Orderly.read {st : Clocked} {answered : List Nat} (h : Orderly st answered) :
    Orderly (st.act .read).1 (answered ++ answeredIn (st.act .read).2) := by
  have hids (lines : List String) (answer : Except String Reply) :
      answeredBy (Connection.traceReply lines ++ [.answered (st.reads + 1) answer]) = [st.reads + 1] := by
    rw [answeredBy_append, answeredBy_of_unread (unread_traceReply lines)]
    rfl
  rw [Clocked.act]
  cases hsplit : Connection.splitReply st.connection.lines with
  | some p =>
    obtain ⟨got, rest⟩ := p
    rw [Connection.read_queued _ _ hsplit, Clocked.after, answeredIn_did, hids]
    exact h.answeredAtOnce (c := { st.connection with lines := rest }) rfl rfl got _
  | none =>
    cases hended : st.connection.ended with
    | some error =>
      rw [Connection.read_ended _ _ hsplit hended]
      exact h.answeredAtOnce (c := { st.connection with lines := [] }) rfl rfl [] (.error error)
    | none =>
      have hnew : ¬(1 ≤ st.reads + 1 ∧ st.reads + 1 ≤ st.reads) := fun h => absurd h.2 (by omega)
      have hstarted : ∀ id, (1 ≤ id ∧ id ≤ st.reads + 1) ↔ (1 ≤ id ∧ id ≤ st.reads) ∨ id = st.reads + 1 := by omega
      rw [Connection.read_open _ _ hsplit hended, Clocked.after, answeredIn_did]
      show Orderly _ (answered ++ [])
      rw [List.append_nil]
      have hend : ∀ id delay, Waits (settings st.now st.alarms [.arm (.read (st.reads + 1)) delay]) id ↔
          Waits st.alarms id ∨ id = st.reads + 1 := fun id delay => by
        refine waits_set.trans (or_congr_right ?_)
        rw [Alarm.read.injEq, eq_comm]
      refine ⟨h.whole, timely_settings ?_ h.timely, fun r hr => ?_, h.once, fun id => ?_, fun id hid hw => ?_⟩
      · intro a delay hm
        cases List.mem_singleton.1 hm
        exact remaining_pos _ _
      · cases hr
        exact (hend _ _).2 (.inr rfl)
      · show Waits (settings _ _ _) id ∨ _ ↔ 1 ≤ id ∧ id ≤ st.reads + 1
        rw [hend, hstarted, ← h.started]
        tauto
      · rcases (hend id _).1 hw with hw | rfl
        · exact h.apart id hid hw
        · exact hnew ((h.started _).1 (.inr hid))

/-- a write does nothing about reads -/
theorem Orderly.wrote {st : Clocked} {answered : List Nat} (h : Orderly st answered)
    {w : Except String Unit × List Effect} (hahead : Ahead w.2) (hunread : Unread w.2) :
    Orderly (st.wrote w).1 (answered ++ answeredIn (st.wrote w).2) := by
  have h' := h.after (o := (st.connection, w.2)) (regular_of_unread id rfl hahead hunread)
  rw [Clocked.wrote, answeredIn_append]
  rwa [show answeredIn [.written w.1] = [] from rfl, List.append_nil]

theorem unread_writeRaw (text : String) (c : Connection) : Ahead (c.writeRaw text).2 ∧ Unread (c.writeRaw text).2 := by
  unfold Connection.writeRaw
  split
  · split
    · exact ⟨nofun, List.forall_mem_nil _⟩
    · exact ⟨by simp [Ahead], by simp [Unread, Effect.answer?]⟩
  · exact ⟨nofun, List.forall_mem_nil _⟩

theorem unread_writeLine (line : String) (secret : Bool) (c : Connection) :
    Ahead (c.writeLine line secret).2 ∧ Unread (c.writeLine line secret).2 := by
  obtain ⟨hahead, hunread⟩ := unread_writeRaw (line ++ "\r\n") c
  refine ⟨fun a delay h => ?_, List.forall_mem_cons.2 ⟨⟨rfl, fun id => ⟨nofun, nofun⟩⟩, hunread⟩⟩
  rcases List.mem_cons.1 h with h | h
  · cases h
  · exact hahead a delay h

/-- **Every event keeps a connection in order.** -/
theorem Orderly.act {st : Clocked} {answered : List Nat} (h : Orderly st answered) {e : Event} (he : st.Allows e) :
    Orderly (st.act e).1 (answered ++ answeredIn (st.act e).2) := by
  cases e with
  | pass ms =>
    show Orderly { st with now := st.now + ms } (answered ++ [])
    rw [List.append_nil]
    exact ⟨h.whole, he, h.served, h.once, h.started, h.apart⟩
  | ring a => exact h.ring he
  | arrive bytes => exact h.after (regular_arrive st.now bytes _)
  | hangUp error => exact h.after (regular_hangUp st.now error _)
  | refuseWrites error => exact h.after (regular_of_unread (fun hw => hw) rfl nofun (List.forall_mem_nil _))
  | read => exact h.read
  | line text secret => exact h.wrote (unread_writeLine text secret _).1 (unread_writeLine text secret _).2
  | raw text => exact h.wrote (unread_writeRaw text _).1 (unread_writeRaw text _).2
  | startTls anchor =>
    have h' : Orderly { st with handshakes := st.handshakes + 1 } answered :=
      ⟨h.whole, h.timely, h.served, h.once, h.started, h.apart⟩
    exact h'.after (regular_startTls st.handshakes anchor _)
  | shaken id => exact h.after (regular_shaken id _)
  | shakeFailed id error => exact h.after (regular_shakeFailed st.now id error _)
  | close => exact h.after (regular_close st.now _)

theorem Orderly.run {st : Clocked} {answered : List Nat} (h : Orderly st answered) {es : List Event}
    (hes : st.Possible es) : Orderly (st.run es).1 (answered ++ (st.run es).2.answers.map Prod.fst) := by
  induction es generalizing st answered with
  | nil =>
    show Orderly st (answered ++ [])
    rwa [List.append_nil]
  | cons e es ih =>
    rw [Clocked.run, answers_append, answers_map, List.map_append, ← List.append_assoc]
    exact ih (h.act hes.1) hes.2

/-- **A read is in progress** exactly when one that was started has no answer yet. -/
theorem reading_iff {s : Settings} {now : Int} {es : List Event} (h : (start s now).Possible es) :
    ((start s now).run es).1.reading = true ↔ ∃ id, 1 ≤ id ∧ id ≤ ((start s now).run es).1.reads ∧
      id ∉ ((start s now).run es).2.answers.map Prod.fst := by
  have horderly := (orderly_start s now).run h
  rw [List.nil_append] at horderly
  have hwaits : ((start s now).run es).1.reading = true ↔ ∃ id, Waits ((start s now).run es).1.alarms id := by
    rw [reading, Bool.or_eq_true, List.any_eq_true]
    constructor
    · rintro (hpending | ⟨⟨due, a⟩, hmem, ha⟩)
      · obtain ⟨r, hr⟩ := Option.isSome_iff_exists.1 hpending
        exact ⟨r.id, horderly.served r hr⟩
      · cases a with
        | read id => exact ⟨id, due, hmem⟩
        | _ => cases ha
    · rintro ⟨id, due, hmem⟩
      exact .inr ⟨(due, .read id), hmem, rfl⟩
  rw [hwaits]
  refine exists_congr fun id => ⟨fun hid => ?_, fun ⟨hpos, hle, hnot⟩ => ?_⟩
  · obtain ⟨hpos, hle⟩ := (horderly.started id).1 (.inl hid)
    exact ⟨hpos, hle, fun hm => horderly.apart id hm hid⟩
  · exact ((horderly.started id).2 ⟨hpos, hle⟩).resolve_right hnot

end Clocked

end EnquiryMail.Smtp
