/-
Readers and their place. A connection has one place for a reader, and whoever has it gets the next line. Nobody has it
while a line is queued or once the connection has ended; and what is kept of the line under way holds no line feed, and
goes into a last line when the connection ends.

A read that starts takes the place from whoever has it, and the alarm of a read clears it whoever has it. So while
reads do not overlap each waits in its place. Of reads that overlap one can lose it and still wait; then nothing but its
own alarm answers it, whatever is queued and whatever becomes of the connection.

- `conduct_act`: what every event but these two does about the place.
- `represented_run`: what holds of a connection at any time.
- `ended_run`: a connection ends once.
- `late_bytes`: bytes that are kept once the connection has ended came after its end.
- `lone_run`: reads that do not overlap wait in their place.
- `Ousted.run`: a read that has lost its place waits for its alarm.
- `readers_in_place`: all of it.
- `readers_passed_over`: reads that overlap wait although a line is queued, and although the connection has ended.
-/
import EnquiryMail.Proofs.Connection.Closing

namespace EnquiryMail.Smtp

open Text.Utf8 (Bytes)
open Clocked (answeredBy answeredBy_append answeredBy_of_unread)

namespace Connection

variable {c c' : Connection}

/-! ## What transitions do about the place -/

/-- nobody waits while a line is queued -/
def Unqueued (c : Connection) : Prop := c.pending ≠ none → c.lines = []

/-- a transition that starts no read and lets none run out: whoever has the place keeps it or is answered, and nobody
else takes it or is answered -/
structure Conduct (c c' : Connection) (answered : List Nat) : Prop where
  settings : c'.settings = c.settings
  taken : ∀ r', c'.pending = some r' → ∃ r, c.pending = some r ∧ r.id = r'.id
  kept : ∀ r, c.pending = some r → r.id ∈ answered ∨ ∃ r', c'.pending = some r' ∧ r'.id = r.id
  answered : ∀ id ∈ answered, ∃ r, c.pending = some r ∧ r.id = id
  unqueued : Unqueued c → Unqueued c'

/-- an outcome of that kind -/
abbrev Conducts (c : Connection) (o : Outcome) : Prop := Conduct c o.1 (answeredBy o.2)

/-- nothing is done about the place -/
theorem conduct_of_pending (hsettings : c'.settings = c.settings) (hpending : c'.pending = c.pending)
    (hlines : c.lines = [] → c'.lines = []) : Conduct c c' [] where
  settings := hsettings
  taken r' hr' := ⟨r', hpending ▸ hr', rfl⟩
  kept r hr := .inr ⟨r, hpending.trans hr, rfl⟩
  answered := List.forall_mem_nil _
  unqueued h hne := hlines (h (hpending ▸ hne))

theorem conduct_refl (c : Connection) : Conduct c c [] := conduct_of_pending rfl rfl id

theorem Conduct.andThen {o : Outcome} {f : Connection → Outcome} (ho : Conducts c o)
    (hf : ∀ c', Conducts c' (f c')) : Conducts c (andThen o f) where
  settings := (hf o.1).settings.trans ho.settings
  taken r' hr' := by
    obtain ⟨r, hr, hid⟩ := (hf o.1).taken r' hr'
    obtain ⟨r₀, hr₀, hid₀⟩ := ho.taken r hr
    exact ⟨r₀, hr₀, hid₀.trans hid⟩
  kept r hr := by
    rw [Connection.andThen, answeredBy_append, List.mem_append]
    rcases ho.kept r hr with hm | ⟨r₁, hr₁, hid₁⟩
    · exact .inl (.inl hm)
    · rcases (hf o.1).kept r₁ hr₁ with hm | ⟨r', hr', hid'⟩
      · exact .inl (.inr (hid₁ ▸ hm))
      · exact .inr ⟨r', hr', hid'.trans hid₁⟩
  answered id hid := by
    rw [Connection.andThen, answeredBy_append, List.mem_append] at hid
    rcases hid with hid | hid
    · exact ho.answered id hid
    · obtain ⟨r, hr, rfl⟩ := (hf o.1).answered id hid
      obtain ⟨r₀, hr₀, hid₀⟩ := ho.taken r hr
      exact ⟨r₀, hr₀, hid₀⟩
  unqueued h := (hf o.1).unqueued (ho.unqueued h)

/-- the reader that has the place is answered -/
theorem conduct_answered {r : Reader} (hr : c.pending = some r) (hsettings : c'.settings = c.settings)
    (hpending : c'.pending = none) : Conduct c c' [r.id] where
  settings := hsettings
  taken r' hr' := by
    rw [hpending] at hr'
    cases hr'
  kept r' hr' := by
    rw [hr] at hr'
    cases hr'
    exact .inl (List.mem_singleton_self _)
  answered id hid := ⟨r, hr, (List.mem_singleton.1 hid).symm⟩
  unqueued _ hne := absurd hpending hne

theorem conduct_pushLine (now : Int) (line : String) (c : Connection) : Conducts c (pushLine now line c) := by
  cases hr : c.pending with
  | none =>
    rw [pushLine_unread now line hr]
    refine ⟨rfl, fun r' hr' => ⟨r', hr', rfl⟩, fun r hr => .inr ⟨r, hr, rfl⟩, List.forall_mem_nil _, ?_⟩
    exact fun _ hne => absurd hr hne
  | some r =>
    cases hline : isFinalLine line with
    | true =>
      have hanswered : answeredBy (delivered r.id (r.got ++ [line])) = [r.id] := by
        rw [answeredBy, Clocked.answer?_delivered]
        rfl
      rw [pushLine_final now hline hr, Conducts, hanswered]
      exact conduct_answered hr rfl rfl
    | false =>
      rw [pushLine_more now hline hr]
      refine ⟨rfl, fun r' hr' => ?_, fun r' hr' => .inr ⟨_, rfl, ?_⟩, List.forall_mem_nil _, fun h _ => ?_⟩
      · cases hr'
        exact ⟨r, hr, rfl⟩
      · rw [hr] at hr'
        cases hr'
        rfl
      · exact h (hr ▸ Option.some_ne_none r)

/-- the bytes of the line under way do not matter to the place -/
theorem Conduct.of_buffer {bs : Bytes} {answered : List Nat} (h : Conduct { c with buffer := bs } c' answered) :
    Conduct c c' answered := ⟨h.settings, h.taken, h.kept, h.answered, h.unqueued⟩

theorem conduct_feed (now : Int) (bytes : Bytes) (c : Connection) : Conducts c (feed now bytes c) := by
  induction bytes generalizing c with
  | nil => exact conduct_refl c
  | cons b bytes ih =>
    rw [feed_cons]
    refine Conduct.andThen ?_ ih
    unfold feedByte
    split
    · exact (conduct_pushLine now _ { c with buffer := [] }).of_buffer
    · exact conduct_of_pending rfl rfl id

theorem conduct_pushLines (now : Int) (lines : List String) (c : Connection) : Conducts c (pushLines now lines c) := by
  induction lines generalizing c with
  | nil => exact conduct_refl c
  | cons line lines ih =>
    rw [pushLines_cons]
    exact (conduct_pushLine now line c).andThen ih

theorem conduct_reject (error : String) (c : Connection) : Conducts c (reject error c) := by
  cases hr : c.pending with
  | none =>
    rw [reject_unread error hr]
    exact conduct_of_pending rfl rfl id
  | some r =>
    rw [reject_waiting error hr]
    exact conduct_answered hr rfl rfl

theorem conduct_finish (now : Int) (error : String) (c : Connection) : Conducts c (finish now error c) := by
  by_cases hc : c.ended = none
  · rw [finish_eq now error hc]
    exact Conduct.andThen (conduct_pushLines now _ { c with buffer := [] }).of_buffer (conduct_reject error)
  · rw [finish_ended now error hc]
    exact conduct_refl c

theorem conduct_arrive (now : Int) (bytes : Bytes) (c : Connection) : Conducts c (arrive now bytes c) := by
  unfold arrive
  split
  · exact conduct_feed now bytes c
  · exact conduct_refl c

/-- nor does the socket -/
theorem Conduct.of_socket {socket : Socket} {answered : List Nat}
    (h : Conduct { c with socket } c' answered) : Conduct c c' answered :=
  ⟨h.settings, h.taken, h.kept, h.answered, h.unqueued⟩

theorem conduct_hangUp (now : Int) (error : Option String) (c : Connection) : Conducts c (hangUp now error c) := by
  unfold hangUp
  dsimp only
  split
  · exact (conduct_finish now _ { c with socket := { c.socket with live := false } }).of_socket
  · exact conduct_of_pending rfl rfl id

theorem conduct_close (now : Int) (c : Connection) : Conducts c (close now c) := by
  have hdestroying : answeredBy c.destroying = [] := by
    unfold destroying
    split <;> rfl
  have hunplugged : Conducts c (c.unplugged, c.destroying) := by
    rw [Conducts, hdestroying]
    exact conduct_of_pending rfl rfl id
  rw [close_eq]
  exact hunplugged.andThen (conduct_finish now _)

theorem conduct_startTls (id : Nat) (anchor : Except String (Option String)) (c : Connection) :
    Conducts c (startTls id anchor c) := by
  cases anchor with
  | error m => exact conduct_of_pending rfl rfl fun _ => rfl
  | ok text => exact conduct_of_pending rfl rfl fun _ => rfl

theorem conduct_shaken (id : Nat) (c : Connection) : Conducts c (shaken id c) := by
  unfold shaken
  cases c.upgrade? id with
  | none => exact conduct_refl c
  | some u =>
    dsimp only
    split
    · exact conduct_refl c
    · split <;> exact conduct_of_pending rfl rfl fun h => h

theorem conduct_abandon (id : Nat) (error : String) (c : Connection) : Conducts c (abandon id error c) := by
  unfold abandon
  cases (c.upgrade? id).filter (·.phase == .underWay) with
  | none => exact conduct_refl c
  | some u =>
    dsimp only
    split <;> exact conduct_of_pending rfl rfl fun h => h

theorem conduct_shakeFailed (now : Int) (id : Nat) (error : String) (c : Connection) :
    Conducts c (shakeFailed now id error c) := by
  unfold shakeFailed
  split
  · exact Conduct.andThen (conduct_of_pending rfl rfl fun h => h) (conduct_abandon id error)
  · split
    · exact conduct_finish now error c
    · exact conduct_refl c
  · exact conduct_refl c

/-! ## What transitions do about the end -/

/-- an error that ended the connection stays; and what is kept of the line under way is given up, or nothing is done
about it and the connection does not end -/
structure Ends (c c' : Connection) : Prop where
  lasts : c.ended ≠ none → c'.ended = c.ended
  flushed : c'.buffer = [] ∨ c'.buffer = c.buffer ∧ c'.ended = c.ended

theorem ends_of_eq (hbuffer : c'.buffer = c.buffer) (hended : c'.ended = c.ended) : Ends c c' :=
  ⟨fun _ => hended, .inr ⟨hbuffer, hended⟩⟩

theorem ends_finish (now : Int) (error : String) (c : Connection) : Ends c (finish now error c).1 := by
  by_cases hc : c.ended = none
  · refine ⟨fun h => absurd hc h, .inl ?_⟩
    have hlines := (agree_pushLines now (lastLine c.buffer.reverse) { c with buffer := [] }).2
    rw [finish_eq now error hc]
    unfold andThen reject
    split <;> exact hlines
  · rw [finish_ended now error hc]
    exact ends_of_eq rfl rfl

theorem ends_abandon (id : Nat) (error : String) (c : Connection) : Ends c (abandon id error c).1 := by
  unfold abandon
  split <;> exact ends_of_eq rfl rfl

theorem ends_read (now : Int) (id : Nat) (c : Connection) : Ends c (read now id c).1 := by
  unfold read
  split
  · exact ends_of_eq rfl rfl
  · split <;> exact ends_of_eq rfl rfl

theorem ends_startTls (id : Nat) (anchor : Except String (Option String)) (c : Connection) :
    Ends c (startTls id anchor c).1 := by
  cases anchor <;> exact ⟨fun _ => rfl, .inl rfl⟩

theorem ends_shaken (id : Nat) (c : Connection) : Ends c (shaken id c).1 := by
  unfold shaken
  split
  · exact ends_of_eq rfl rfl
  · split <;> exact ends_of_eq rfl rfl

theorem ends_shakeFailed (now : Int) (id : Nat) (error : String) (c : Connection) :
    Ends c (shakeFailed now id error c).1 := by
  unfold shakeFailed
  split
  · exact ends_abandon id error c
  · split
    · exact ends_finish now error c
    · exact ends_of_eq rfl rfl
  · exact ends_of_eq rfl rfl

theorem ends_hangUp (now : Int) (error : Option String) (c : Connection) : Ends c (hangUp now error c).1 := by
  unfold hangUp
  dsimp only
  split
  · obtain ⟨hlasts, hflushed⟩ := ends_finish now (error.getD ConnectionError.closedByRelay.message)
      { c with socket := { c.socket with live := false } }
    exact ⟨hlasts, hflushed⟩
  · exact ends_of_eq rfl rfl

theorem ends_close (now : Int) (c : Connection) : Ends c (close now c).1 := by
  obtain ⟨hlasts, hflushed⟩ := ends_finish now ConnectionError.closed.message c.unplugged
  exact ⟨hlasts, hflushed⟩

/-! ## What holds of a connection at any time -/

/-- no line feed in the line under way; nobody waits while a line is queued, or once the connection has ended -/
structure Represented (c : Connection) : Prop where
  whole : 10 ∉ c.buffer
  unqueued : Unqueued c
  told : Told c

theorem represented_start (s : Settings) : Represented (start s) :=
  ⟨List.not_mem_nil, fun h => absurd rfl h, fun h => absurd rfl h⟩

theorem Represented.of_pending (h : Represented c) {r : Reader} (hr : c.pending = some r) :
    c.lines = [] ∧ c.ended = none := by
  refine ⟨h.unqueued (hr ▸ Option.some_ne_none r), by_contra fun hended => ?_⟩
  rw [h.told hended] at hr
  cases hr

theorem unqueued_read (now : Int) (id : Nat) (h : Unqueued c) : Unqueued (read now id c).1 := by
  cases hsplit : splitReply c.lines with
  | some p =>
    rw [read_queued now id hsplit]
    intro hne
    -- whoever has the place would have kept the queue empty, and no reply is split off that
    rw [h hne] at hsplit
    cases hsplit
  | none =>
    cases hended : c.ended with
    | some error =>
      rw [read_ended now id hsplit hended]
      exact fun _ => rfl
    | none =>
      rw [read_open now id hsplit hended]
      exact fun _ => rfl

end Connection

namespace Clocked

open Connection (Conduct Ends Represented Unqueued)

/-! ## What events do about it -/

theorem conduct_after {st : Clocked} {o : Connection.Outcome} (ho : Connection.Conducts st.connection o) :
    Conduct st.connection (st.after o).1.connection (answeredIn (st.after o).2) := by
  rw [Clocked.after, answeredIn_did]
  exact ho

/-- a write does nothing about the place -/
theorem conduct_wrote (st : Clocked) {w : Except String Unit × List Effect} (hw : Unread w.2) :
    Conduct st.connection (st.wrote w).1.connection (answeredIn (st.wrote w).2) := by
  have hnone : answeredIn (st.wrote w).2 = [] := by
    rw [Clocked.wrote, answeredIn_append, answeredIn_did, answeredBy_of_unread hw]
    rfl
  rw [hnone]
  exact Connection.conduct_refl _

/-- **What events do about the place**, but for the start of a read and the alarm of one. -/
theorem conduct_act (st : Clocked) {e : Event} (hread : e.isRead = false) (hring : ∀ id, e ≠ .ring (.read id)) :
    Conduct st.connection (st.act e).1.connection (answeredIn (st.act e).2) := by
  cases e with
  | pass ms => exact Connection.conduct_refl _
  | ring a =>
    cases a with
    | connect => exact Connection.conduct_refl _
    | handshake id => exact conduct_after (Connection.conduct_abandon id _ _)
    | read id => exact absurd rfl (hring id)
  | arrive bytes => exact conduct_after (Connection.conduct_arrive st.now bytes _)
  | hangUp error => exact conduct_after (Connection.conduct_hangUp st.now error _)
  | refuseWrites error => exact Connection.conduct_of_pending rfl rfl id
  | read => cases hread
  | line text secret => exact conduct_wrote st (unread_writeLine text secret _).2
  | raw text => exact conduct_wrote st (unread_writeRaw text _).2
  | startTls anchor => exact conduct_after (Connection.conduct_startTls _ anchor _)
  | shaken id => exact conduct_after (Connection.conduct_shaken id _)
  | shakeFailed id error => exact conduct_after (Connection.conduct_shakeFailed st.now id error _)
  | close => exact conduct_after (Connection.conduct_close st.now _)

/-- an event starts a read, or is the alarm of one, or neither -/
theorem read_or_ring (e : Event) :
    e = .read ∨ (∃ id, e = .ring (.read id)) ∨ e.isRead = false ∧ ∀ id, e ≠ .ring (.read id) := by
  cases e with
  | read => exact .inl rfl
  | ring a =>
    cases a with
    | read id => exact .inr (.inl ⟨id, rfl⟩)
    | _ => exact .inr (.inr ⟨rfl, nofun⟩)
  | _ => exact .inr (.inr ⟨rfl, nofun⟩)

/-- **What events do about the end**, but for bytes that arrive. -/
theorem ends_act (st : Clocked) {e : Event} (he : e.isArrival = false) :
    Ends st.connection (st.act e).1.connection := by
  cases e with
  | ring a =>
    cases a with
    | handshake id => exact Connection.ends_abandon id _ _
    | _ => exact Connection.ends_of_eq rfl rfl
  | arrive bytes => cases he
  | hangUp error => exact Connection.ends_hangUp st.now error _
  | read => exact Connection.ends_read st.now _ _
  | startTls anchor => exact Connection.ends_startTls _ anchor _
  | shaken id => exact Connection.ends_shaken id _
  | shakeFailed id error => exact Connection.ends_shakeFailed st.now id error _
  | close => exact Connection.ends_close st.now _
  | _ => exact Connection.ends_of_eq rfl rfl

/-! ## Runs -/

theorem whole_act {st : Clocked} (h : 10 ∉ st.connection.buffer) (e : Event) : 10 ∉ (st.act e).1.connection.buffer := by
  cases he : e.isArrival with
  | true =>
    obtain ⟨bytes, rfl⟩ := exists_of_isArrival he
    exact (regular_arrive st.now bytes _).whole h
  | false =>
    rcases (ends_act st he).flushed with hnone | ⟨hsame, -⟩
    · rw [hnone]
      exact List.not_mem_nil
    · rwa [hsame]

theorem unqueued_act {st : Clocked} (h : Unqueued st.connection) (e : Event) : Unqueued (st.act e).1.connection := by
  rcases read_or_ring e with rfl | ⟨id, rfl⟩ | ⟨hread, hring⟩
  · exact Connection.unqueued_read st.now _ h
  · exact fun hne => absurd rfl hne
  · exact (conduct_act st hread hring).unqueued h

/-- **Every event keeps a connection as it is to be.** -/
theorem represented_act {st : Clocked} (h : Represented st.connection) (e : Event) :
    Represented (st.act e).1.connection := ⟨whole_act h.whole e, unqueued_act h.unqueued e, told_act h.told e⟩

theorem represented_run {st : Clocked} (h : Represented st.connection) (es : List Event) :
    Represented (st.run es).1.connection := by
  induction es generalizing st with
  | nil => exact h
  | cons e es ih => exact ih (represented_act h e)

/-- an error that ended the connection stays -/
theorem lasts_act {st : Clocked} (h : st.connection.ended ≠ none) (e : Event) :
    (st.act e).1.connection.ended = st.connection.ended := by
  cases he : e.isArrival with
  | true =>
    obtain ⟨bytes, rfl⟩ := exists_of_isArrival he
    exact (Connection.passing_arrive st.now bytes _).agree.ended
  | false => exact (ends_act st he).lasts h

/-- **A connection ends once.** -/
theorem ended_run {st : Clocked} {error : String} (h : st.connection.ended = some error) (es : List Event) :
    (st.run es).1.connection.ended = some error := by
  induction es generalizing st with
  | nil => exact h
  | cons e es ih => exact ih ((lasts_act (h ▸ Option.some_ne_none error) e).trans h)

/-- **Bytes that are kept once the connection has ended** came after its end. -/
theorem late_bytes {st : Clocked} (hopen : st.connection.ended = none) {es : List Event}
    (hended : (st.run es).1.connection.ended ≠ none) (hkept : (st.run es).1.connection.buffer ≠ []) :
    ∃ pre bytes post, es = pre ++ .arrive bytes :: post ∧ (st.run pre).1.connection.ended ≠ none ∧
      (st.run pre).1.connection.socket.heard = true := by
  -- the last event either brought the bytes or left them and the end as they were, so the induction is from behind
  induction es using List.reverseRecOn with
  | nil => exact absurd hopen hended
  | append_singleton es e ih =>
    have hlast : (st.run (es ++ [e])).1.connection = ((st.run es).1.act e).1.connection := by rw [run_append]; rfl
    rw [hlast] at hended hkept
    have hbefore (hsame : ((st.run es).1.act e).1.connection.buffer = (st.run es).1.connection.buffer ∧
        ((st.run es).1.act e).1.connection.ended = (st.run es).1.connection.ended) :
        ∃ pre bytes post, es ++ [e] = pre ++ .arrive bytes :: post ∧ (st.run pre).1.connection.ended ≠ none ∧
          (st.run pre).1.connection.socket.heard = true := by
      obtain ⟨pre, bytes, post, rfl, hlate, hheard⟩ := ih (hsame.2 ▸ hended) (hsame.1 ▸ hkept)
      exact ⟨pre, bytes, post ++ [e], by rw [List.append_assoc, List.cons_append], hlate, hheard⟩
    cases he : e.isArrival with
    | true =>
      obtain ⟨bytes, rfl⟩ := exists_of_isArrival he
      have hended' := (Connection.passing_arrive (st.run es).1.now bytes (st.run es).1.connection).agree.ended
      cases hheard : (st.run es).1.connection.socket.heard with
      | true => exact ⟨es, bytes, [], rfl, hended' ▸ hended, hheard⟩
      | false =>
        refine hbefore ⟨?_, hended'⟩
        show (Connection.arrive _ bytes _).1.buffer = _
        rw [Connection.arrive, hheard, if_neg Bool.false_ne_true]
    | false =>
      rcases (ends_act (st.run es).1 he).flushed with hnone | hsame
      · exact absurd hnone hkept
      · exact hbefore hsame

/-! ## Readers and their place -/

section

variable {st : Clocked} {answered : List Nat} {id : Nat}

/-- who waits is who has no answer -/
theorem Orderly.waits_iff (h : Orderly st answered) (id : Nat) :
    Waits st.alarms id ↔ (1 ≤ id ∧ id ≤ st.reads) ∧ id ∉ answered := by
  constructor
  · intro hw
    exact ⟨(h.started id).1 (.inl hw), fun hm => h.apart id hm hw⟩
  · rintro ⟨hid, hnot⟩
    exact ((h.started id).2 hid).resolve_right hnot

/-- an event ends the wait of those that it answers, and of nobody else -/
theorem waits_act (h : Orderly st answered) {e : Event} (he : st.Allows e) (id : Nat) :
    Waits (st.act e).1.alarms id ↔
      (Waits st.alarms id ∨ st.reads < id ∧ id ≤ st.reads + readsOf [e]) ∧ id ∉ answeredIn (st.act e).2 := by
  have hreads : (st.act e).1.reads = st.reads + readsOf [e] := reads_run [e]
  rw [(h.act he).waits_iff, h.waits_iff, hreads, List.mem_append, not_or]
  constructor
  · rintro ⟨⟨hpos, hle⟩, hold, hnew⟩
    refine ⟨?_, hnew⟩
    by_cases hearly : id ≤ st.reads
    · exact .inl ⟨⟨hpos, hearly⟩, hold⟩
    · exact .inr ⟨by omega, hle⟩
  · rintro ⟨⟨⟨hpos, hearly⟩, hold⟩ | ⟨hlate, hle⟩, hnew⟩
    · exact ⟨⟨hpos, by omega⟩, hold, hnew⟩
    · -- whoever was answered before had started before
      have hold : id ∉ answered := fun hm => absurd ((h.started id).1 (.inr hm)).2 (by omega)
      exact ⟨⟨by omega, hle⟩, hold, hnew⟩

/-- whoever waits after an event that starts no read waited before it, and was not answered -/
theorem waits_of_act (h : Orderly st answered) {e : Event} (he : st.Allows e) (hread : e.isRead = false)
    (hw : Waits (st.act e).1.alarms id) : Waits st.alarms id ∧ id ∉ answeredIn (st.act e).2 := by
  obtain ⟨hwho, hnot⟩ := (waits_act h he id).1 hw
  refine ⟨hwho.resolve_right fun ⟨hlt, hle⟩ => ?_, hnot⟩
  rw [readsOf, List.countP_singleton, if_neg (by rw [hread]; exact Bool.false_ne_true)] at hle
  omega

/-- a read that starts is answered at once and leaves the place to whoever has it, or it takes the place -/
theorem place_read (st : Clocked) :
    (answeredIn (st.act .read).2 = [st.reads + 1] ∧
        (st.act .read).1.connection.pending = st.connection.pending) ∨
      (answeredIn (st.act .read).2 = [] ∧
        ∃ r, (st.act .read).1.connection.pending = some r ∧ r.id = st.reads + 1) := by
  rw [Clocked.act]
  cases hsplit : Connection.splitReply st.connection.lines with
  | some p =>
    rw [Connection.read_queued _ _ hsplit, Clocked.after, answeredIn_did, answeredBy_append,
      answeredBy_of_unread (unread_traceReply p.1)]
    exact .inl ⟨rfl, rfl⟩
  | none =>
    cases hended : st.connection.ended with
    | some error =>
      rw [Connection.read_ended _ _ hsplit hended, Clocked.after, answeredIn_did]
      exact .inl ⟨rfl, rfl⟩
    | none =>
      rw [Connection.read_open _ _ hsplit hended, Clocked.after, answeredIn_did]
      exact .inr ⟨rfl, _, rfl, rfl⟩

/-- everybody who waits has the place -/
def Lone (st : Clocked) : Prop := ∀ id, Waits st.alarms id → ∃ r, st.connection.pending = some r ∧ r.id = id

theorem unwaited_of_not_reading (h : st.reading = false) (id : Nat) : ¬Waits st.alarms id := by
  rintro ⟨due, hm⟩
  rw [← (parts_of_not_reading h).2] at hm
  exact absurd (List.mem_filter.1 hm).2 (by simp [isRead])

theorem lone_act (hl : Lone st) (h : Orderly st answered) {e : Event} (he : st.Allows e)
    (hseq : e.isRead = true → st.reading = false) : Lone (st.act e).1 := by
  intro id hw
  rcases read_or_ring e with rfl | ⟨a, rfl⟩ | ⟨hread, hring⟩
  · -- nobody waited, so it is the new read that does
    obtain ⟨hwho, hnot⟩ := (waits_act h he id).1 hw
    obtain ⟨hlt, hle⟩ := hwho.resolve_left (unwaited_of_not_reading (hseq rfl) id)
    have hid : id = st.reads + 1 := le_antisymm hle hlt
    rcases place_read st with ⟨hanswered, -⟩ | ⟨-, r, hr, hrid⟩
    · rw [hanswered, hid] at hnot
      exact absurd (List.mem_singleton_self _) hnot
    · exact ⟨r, hr, hrid.trans hid.symm⟩
  · -- whose alarm it is has the place, and is answered; nobody else waited
    obtain ⟨hold, hnot⟩ := waits_of_act h he rfl hw
    obtain ⟨⟨due, b⟩, hm, rfl, -⟩ := he
    obtain ⟨r, hr, rfl⟩ := hl id hold
    obtain ⟨r', hr', rfl⟩ := hl a ⟨due, hm⟩
    cases hr.symm.trans hr'
    exact absurd (List.mem_singleton_self _) hnot
  · obtain ⟨hold, hnot⟩ := waits_of_act h he hread hw
    obtain ⟨r, hr, rfl⟩ := hl id hold
    exact ((conduct_act st hread hring).kept r hr).resolve_left hnot

/-- **Reads that do not overlap** wait in their place. -/
theorem lone_run (hl : Lone st) (h : Orderly st answered) {es : List Event} (hes : st.Possible es)
    (hseq : st.Sequential es) : Lone (st.run es).1 := by
  induction es generalizing st answered with
  | nil => exact hl
  | cons e es ih => exact ih (lone_act hl h hes.1 hseq.1) (h.act hes.1) hes.2 hseq.2

/-- a read waits and does not have the place -/
structure Ousted (st : Clocked) (id : Nat) : Prop where
  waits : Waits st.alarms id
  passed : ∀ r, st.connection.pending = some r → r.id ≠ id

/-- what is answered by the alarm of a read -/
theorem answered_ring (st : Clocked) (id : Nat) : (st.act (.ring (.read id))).2.filterMap Sight.answer? =
    [(id, .error (ConnectionError.readTimeout st.connection.settings.readTimeout.shown).message)] := rfl

/-- **A read that has lost its place** does not get it back, and only its own alarm answers it. -/
theorem Ousted.act (ho : Ousted st id) (h : Orderly st answered) {e : Event} (he : st.Allows e)
    (hring : e ≠ .ring (.read id)) : Ousted (st.act e).1 id ∧ id ∉ answeredIn (st.act e).2 := by
  have hold : id ≤ st.reads := ((h.started id).1 (.inl ho.waits)).2
  have hwhat : id ∉ answeredIn (st.act e).2 ∧ ∀ r, (st.act e).1.connection.pending = some r → r.id ≠ id := by
    rcases read_or_ring e with rfl | ⟨a, rfl⟩ | ⟨hread, hother⟩
    · rcases place_read st with ⟨hanswered, hsame⟩ | ⟨hanswered, r, hr, hrid⟩
      · rw [hanswered, hsame, List.mem_singleton]
        exact ⟨by omega, ho.passed⟩
      · refine ⟨hanswered ▸ List.not_mem_nil, fun r' hr' => ?_⟩
        cases hr.symm.trans hr'
        omega
    · exact ⟨fun hm => hring (by rw [List.mem_singleton.1 hm]), nofun⟩
    · have hconduct := conduct_act st hread hother
      refine ⟨fun hm => ?_, fun r' hr' => ?_⟩
      · obtain ⟨r, hr, hrid⟩ := hconduct.answered id hm
        exact ho.passed r hr hrid
      · obtain ⟨r, hr, hrid⟩ := hconduct.taken r' hr'
        exact hrid ▸ ho.passed r hr
  exact ⟨⟨(waits_act h he id).2 ⟨.inl ho.waits, hwhat.1⟩, hwhat.2⟩, hwhat.1⟩

theorem settings_act (st : Clocked) (e : Event) : (st.act e).1.connection.settings = st.connection.settings := by
  rcases read_or_ring e with rfl | ⟨a, rfl⟩ | ⟨hread, hring⟩
  · rw [Clocked.act, Clocked.after]
    unfold Connection.read
    split
    · rfl
    · split <;> rfl
  · rfl
  · exact (conduct_act st hread hring).settings

/-- **The answer to a read that has lost its place** is that its time is up, and it comes with its alarm. -/
theorem Ousted.run (ho : Ousted st id) (h : Orderly st answered) {es : List Event} (hes : st.Possible es)
    {answer : Except String Reply} (hm : (id, answer) ∈ (st.run es).2.answers) :
    .ring (.read id) ∈ es ∧
      answer = .error (ConnectionError.readTimeout st.connection.settings.readTimeout.shown).message := by
  induction es generalizing st answered with
  | nil => cases hm
  | cons e es ih =>
    rw [Clocked.run, answers_append, answers_map] at hm
    by_cases hring : e = .ring (.read id)
    · subst hring
      have hnow : id ∈ answered ++ answeredIn (st.act (.ring (.read id))).2 :=
        List.mem_append_right _ (List.mem_singleton_self id)
      rcases List.mem_append.1 hm with hm | hm
      · rw [answered_ring, List.mem_singleton] at hm
        cases hm
        exact ⟨List.mem_cons_self, rfl⟩
      · -- it has its answer already
        have honce := ((h.act hes.1).run hes.2).once
        have hlater : id ∈ ((st.act (.ring (.read id))).1.run es).2.answers.map Prod.fst := List.mem_map.2 ⟨_, hm, rfl⟩
        exact absurd rfl ((List.nodup_append.1 honce).2.2 id hnow id hlater)
    · obtain ⟨ho', hnot⟩ := ho.act h hes.1 hring
      rcases List.mem_append.1 hm with hm | hm
      · exact absurd (List.mem_map.2 ⟨_, hm, rfl⟩) hnot
      · obtain ⟨hlater, hanswer⟩ := ih ho' (h.act hes.1) hes.2 hm
        rw [settings_act] at hanswer
        exact ⟨List.mem_cons_of_mem e hlater, hanswer⟩

end

/-- **Readers in their place.** After any events, in any order: what is kept of the line under way holds no line feed;
whoever has the place has it only while no line is queued and the connection has not ended; an error that ended it
stays; and bytes that are kept once it has ended came after its end, on a socket it listened to. While reads do not
overlap, nobody waits while a line is queued or once the connection has ended. Where they do, a read without an answer
has the place, or it has lost it: then only its own alarm answers it, with its time limit, whatever else comes. -/
theorem readers_in_place (s : Settings) (now : Int) (es : List Event) :
    let st := ((start s now).run es).1
    10 ∉ st.connection.buffer ∧
      (∀ r, st.connection.pending = some r → st.connection.lines = [] ∧ st.connection.ended = none) ∧
      (∀ error, st.connection.ended = some error → ∀ more, (st.run more).1.connection.ended = some error) ∧
      (st.connection.ended ≠ none → st.connection.buffer ≠ [] →
        ∃ pre bytes post, es = pre ++ .arrive bytes :: post ∧ ((start s now).run pre).1.connection.ended ≠ none ∧
          ((start s now).run pre).1.connection.socket.heard = true) ∧
      ((start s now).Possible es →
        ((start s now).Sequential es → st.reading = true →
          st.connection.lines = [] ∧ st.connection.ended = none) ∧
        ∀ id, 1 ≤ id → id ≤ st.reads → id ∉ ((start s now).run es).2.answers.map Prod.fst →
          (∃ r, st.connection.pending = some r ∧ r.id = id) ∨
          ∀ more, st.Possible more → ∀ answer, (id, answer) ∈ (st.run more).2.answers →
            .ring (.read id) ∈ more ∧
              answer = .error (ConnectionError.readTimeout st.connection.settings.readTimeout.shown).message) := by
  intro st
  have hst : Represented st.connection := represented_run (Connection.represented_start s) es
  refine ⟨hst.whole, fun r => hst.of_pending, fun error hended more => ended_run hended more, late_bytes rfl,
    fun hpossible => ?_⟩
  have horderly : Orderly st (((start s now).run es).2.answers.map Prod.fst) := by
    have h := (orderly_start s now).run hpossible
    rwa [List.nil_append] at h
  refine ⟨fun hseq hreading => ?_, fun id hpos hle hnot => ?_⟩
  · have hlone : Lone st := lone_run (fun id ⟨due, hm⟩ => nomatch hm) (orderly_start s now) hpossible hseq
    obtain ⟨id, hpos, hle, hnot⟩ := (reading_iff hpossible).1 hreading
    obtain ⟨r, hr, -⟩ := hlone id ((horderly.waits_iff id).2 ⟨⟨hpos, hle⟩, hnot⟩)
    exact hst.of_pending hr
  · have hw := (horderly.waits_iff id).2 ⟨⟨hpos, hle⟩, hnot⟩
    by_cases hplace : ∃ r, st.connection.pending = some r ∧ r.id = id
    · exact .inl hplace
    · have houst : Ousted st id := ⟨hw, fun r hr hid => hplace ⟨r, hr, hid⟩⟩
      exact .inr fun more hmore answer hm => houst.run horderly hmore hm

/-- of two reads the first has lost its place; when the relay hangs up only its own time limit answers it -/
theorem readers_in_place_overlapping :
    let es : List Event := [.read, .read, .hangUp none]
    let st := ((start .submission 0).run es).1
    (start .submission 0).Possible es ∧ st.connection.pending = none ∧
      (∀ more, (st.run more).1.connection.ended = some "Connection closed by relay") ∧
      ∀ more, st.Possible more → ∀ answer, (1, answer) ∈ (st.run more).2.answers →
        .ring (.read 1) ∈ more ∧ answer = .error "Timed out after 10000 ms waiting for reply" := by
  intro es st
  have hpossible : (start .submission 0).Possible es := by decide +kernel
  have hplace : st.connection.pending = none := by decide +kernel
  have hended : st.connection.ended = some "Connection closed by relay" := by decide +kernel
  have hlimit : (ConnectionError.readTimeout st.connection.settings.readTimeout.shown).message =
      "Timed out after 10000 ms waiting for reply" := by decide +kernel
  obtain ⟨-, -, hlasts, -, hreaders⟩ := readers_in_place .submission 0 es
  obtain ⟨-, hwaits⟩ := hreaders hpossible
  refine ⟨hpossible, hplace, hlasts _ hended, ?_⟩
  rw [← hlimit]
  refine (hwaits 1 le_rfl (by decide +kernel) (by decide +kernel)).resolve_left ?_
  rintro ⟨r, hr, -⟩
  cases hplace.symm.trans hr

/-- **Where a reader waits out of place.** The alarm of a read clears the place of the next one, whose line is then
queued, and it waits until its own time is up; and a read that took the place of another has that one wait beyond the
end of the connection. -/
theorem readers_passed_over :
    let s : Settings := { Settings.submission with readTimeout := .number (.finite 100) }
    (let es : List Event :=
        [.read, .pass 40, .read, .pass 60, .ring (.read 1), .arrive (utf8 "250 x\r\n")]
      let st := ((start s 0).run es).1
      (start s 0).Possible (es ++ [.pass 40, .ring (.read 2)]) ∧ st.reading = true ∧ st.connection.lines = ["250 x"] ∧
        ((start s 0).run (es ++ [.pass 40, .ring (.read 2)])).2.answers =
          [(1, .error "Timed out after 100 ms waiting for reply"),
            (2, .error "Timed out after 100 ms waiting for reply")]) ∧
    (let es : List Event := [.read, .read, .hangUp none]
      let st := ((start s 0).run es).1
      (start s 0).Possible es ∧ st.reading = true ∧ st.connection.ended = some "Connection closed by relay" ∧
        ((start s 0).run es).2.answers = [(2, .error "Connection closed by relay")]) := by
  decide +kernel

end Clocked

end EnquiryMail.Smtp
