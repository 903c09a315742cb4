/-
Closing a connection. The reader that waits is turned down, unless what had arrived without a line feed is the last
line of its reply: then it has that reply. Whatever comes afterwards, the connection stays closed with the error that
ended it first, nothing is written any more, and no socket is destroyed a second time.

- `told_act`: a connection that has ended has no reader.
- `answers_close`: what the reader is told at the close.
- `shut_act`, `shut_run`: a closed connection stays closed.
- `close_settles`: all of it, from every state without a handshake under way.
- `close_completes_reply`: a close that lets a read succeed.
-/
import EnquiryMail.Proofs.Connection.Deadline
import EnquiryMail.Proofs.Connection.Holdings

namespace EnquiryMail.Smtp

/-- the layer of the socket that an effect destroys, if it destroys one -/
def Effect.destroyed? : Effect → Option Layer
  | .destroyed layer => some layer
  | _ => none

/-- the layer of the socket that is seen to be destroyed, if one is -/
def Sight.destroyed? : Sight → Option Layer
  | .did e => e.destroyed?
  | .written _ => none

/-- the sockets destroyed in a trace -/
def Trace.destroyed (tr : Trace) : List Layer := tr.filterMap (·.2.destroyed?)

namespace Connection

variable {c : Connection} {error : String}

/-! ## Ended connections have no reader -/

/-- whoever waited when the connection ended has been told -/
def Told (c : Connection) : Prop := c.ended ≠ none → c.pending = none

theorem Told.of_pending {c' : Connection} (h : Told c) (hended : c'.ended = c.ended)
    (hpending : c.pending = none → c'.pending = none) : Told c' := fun he => hpending (h (hended ▸ he))

theorem told_pushLine (now : Int) (line : String) (h : Told c) : Told (pushLine now line c).1 := by
  refine h.of_pending (agree_pushLine now line c).1.ended fun hnone => ?_
  rw [pushLine_unread now line hnone]
  exact hnone

theorem told_feed (now : Int) (bytes : Text.Utf8.Bytes) (h : Told c) : Told (feed now bytes c).1 := by
  induction bytes generalizing c with
  | nil => exact h
  | cons b bytes ih =>
    rw [feed_cons]
    refine ih ?_
    unfold feedByte
    split
    · exact told_pushLine now _ (c := { c with buffer := [] }) h
    · exact h

theorem pending_reject (error : String) (c : Connection) : (reject error c).1.pending = none := by
  cases hr : c.pending with
  | none => rw [reject_unread error hr]; exact hr
  | some r => rw [reject_waiting error hr]

theorem told_finish (now : Int) (error : String) (h : Told c) : Told (finish now error c).1 := by
  by_cases hc : c.ended = none
  · rw [finish_eq now error hc]
    exact fun _ => pending_reject error _
  · rw [finish_ended now error hc]
    exact h

theorem told_read (now : Int) (id : Nat) (h : Told c) : Told (read now id c).1 := by
  cases hsplit : splitReply c.lines with
  | some p =>
    rw [read_queued now id hsplit]
    exact h
  | none =>
    cases hended : c.ended with
    | some error =>
      rw [read_ended now id hsplit hended]
      exact h
    | none =>
      rw [read_open now id hsplit hended]
      exact fun he => absurd hended he

theorem told_abandon (id : Nat) (error : String) (h : Told c) : Told (abandon id error c).1 := by
  unfold abandon
  split
  · exact h
  · exact h

theorem told_shaken (id : Nat) (h : Told c) : Told (shaken id c).1 := by
  unfold shaken
  split
  · exact h
  · split
    · exact h
    · exact h

theorem told_shakeFailed (now : Int) (id : Nat) (error : String) (h : Told c) :
    Told (shakeFailed now id error c).1 := by
  unfold shakeFailed
  split
  · exact told_abandon id error h
  · split
    · exact told_finish now error h
    · exact h
  · exact h

theorem told_hangUp (now : Int) (error : Option String) (h : Told c) : Told (hangUp now error c).1 := by
  unfold hangUp
  dsimp only
  split
  · exact told_finish now _ (c := { c with socket := { c.socket with live := false } }) h
  · exact h

theorem told_startTls (id : Nat) (anchor : Except String (Option String)) (h : Told c) :
    Told (startTls id anchor c).1 := by
  cases anchor with
  | error m => exact h
  | ok text => exact h

/-! ## What the reader is told -/

/-- the answer to a reader when its connection is closed: what has arrived without a line feed may be the last line of
its reply -/
def lastAnswer (c : Connection) (r : Reader) : Except String Reply :=
  if c.buffer ≠ [] ∧ isFinalLine (ofUtf8 c.buffer.reverse) = true then
    .ok (Reply.ofLines (r.got ++ [ofUtf8 c.buffer.reverse]))
  else .error ConnectionError.closed.message

theorem answers_reject (error : String) {r : Reader} (hr : c.pending = some r) :
    (reject error c).2.filterMap Effect.answer? = [(r.id, .error error)] := by
  rw [reject_waiting error hr]
  rfl

theorem answers_delivered (id : Nat) (lines : List String) :
    (delivered id lines).filterMap Effect.answer? = [(id, .ok (Reply.ofLines lines))] := by
  rw [delivered, List.filterMap_append, List.filterMap_append, Clocked.answer?_traceReply]
  rfl

/-- **The reader that waits at the end** has the reply that the last line completes, or the error. -/
theorem answers_finish (now : Int) (hc : c.ended = none) {r : Reader} (hr : c.pending = some r) :
    (finish now ConnectionError.closed.message c).2.filterMap Effect.answer? = [(r.id, lastAnswer c r)] := by
  let c' : Connection := { c with buffer := [] }
  have hwaiting : c'.pending = some r := hr
  rw [finish_eq now _ hc, lastAnswer, lastLine]
  by_cases hempty : c.buffer = []
  · have hrest : c.buffer.reverse.isEmpty = true := by rw [hempty]; rfl
    rw [if_pos hrest, if_neg fun h => h.1 hempty]
    exact answers_reject _ hwaiting
  · have hrest : ¬c.buffer.reverse.isEmpty = true := by simpa using hempty
    rw [if_neg hrest, pushLines_cons]
    cases hline : isFinalLine (ofUtf8 c.buffer.reverse) with
    | true =>
      rw [if_pos ⟨hempty, rfl⟩, pushLine_final now hline hwaiting]
      show (delivered r.id _ ++ [] ++ []).filterMap Effect.answer? = _
      rw [List.append_nil, List.append_nil]
      exact answers_delivered r.id _
    | false =>
      have hmore := pushLine_more now hline hwaiting
      rw [if_neg (by simp), hmore]
      rfl

/-- when nobody waits, nobody is told -/
theorem answers_finish_unread (now : Int) (error : String) (hr : c.pending = none) :
    (finish now error c).2.filterMap Effect.answer? = [] := by
  by_cases hc : c.ended = none
  · rw [finish_eq now error hc, pushLines_unread now _ (c := { c with buffer := [] }) hr, andThen,
      reject_unread error (by exact hr)]
    rfl
  · rw [finish_ended now error hc]
    rfl

/-- the connection without its socket -/
def unplugged (c : Connection) : Connection := { c with socket := { c.socket with live := false, heard := false } }

/-- what destroys a socket that is live -/
def destroying (c : Connection) : List Effect := if c.socket.live then [.destroyed c.socket.layer] else []

theorem close_eq (now : Int) (c : Connection) :
    close now c = andThen (c.unplugged, c.destroying) (finish now ConnectionError.closed.message) := rfl

theorem answers_close (now : Int) (h : Told c) :
    (close now c).2.filterMap Effect.answer? = (c.pending.map fun r => (r.id, lastAnswer c r)).toList := by
  have hdestroyed : c.destroying.filterMap Effect.answer? = [] := by
    unfold destroying
    split <;> rfl
  rw [close_eq, andThen, List.filterMap_append, hdestroyed, List.nil_append]
  cases hr : c.pending with
  | none => exact answers_finish_unread now _ (c := c.unplugged) hr
  | some r =>
    have hended : c.ended = none := by
      by_contra he
      rw [h he] at hr
      cases hr
    exact answers_finish (c := c.unplugged) now hended hr

/-! ## Closed connections -/

/-- a connection that has ended with an error and has no socket any more -/
structure Shut (error : String) (c : Connection) : Prop where
  ended : c.ended = some error
  pending : c.pending = none
  dead : c.socket.live = false
  deaf : c.socket.heard = false

/-- no handshake is under way -/
def Unshaken (c : Connection) : Prop := ∀ u ∈ c.upgrades, u.phase ≠ .underWay

instance (c : Connection) : Decidable (Unshaken c) :=
  inferInstanceAs (Decidable (∀ u ∈ c.upgrades, u.phase ≠ .underWay))

/-- an outcome that leaves a connection closed, and does not write; and where no handshake was under way, none is, and
nothing is destroyed -/
structure Rests (error : String) (c : Connection) (o : Outcome) : Prop where
  shut : Shut error o.1
  unwritten : ∀ layer text, .wrote layer text ∉ o.2
  unshaken : Unshaken c → Unshaken o.1 ∧ ∀ layer, .destroyed layer ∉ o.2

theorem unwritten_of_mild {es : List Effect} (h : ∀ e ∈ es, e.mild = true) (layer : Layer) (text : String) :
    .wrote layer text ∉ es := fun he => nomatch h _ he

theorem undestroyed_of_mild {es : List Effect} (h : ∀ e ∈ es, e.mild = true) (layer : Layer) :
    .destroyed layer ∉ es := fun he => nomatch h _ he

/-- an outcome with no new handshake and nothing about sockets -/
theorem Shut.rests {o : Outcome} (h : Shut error o.1) (hupgrades : o.1.upgrades = c.upgrades)
    (hes : ∀ e ∈ o.2, e.mild = true) : Rests error c o where
  shut := h
  unwritten := unwritten_of_mild hes
  unshaken hc := ⟨fun u hu => hc u (hupgrades ▸ hu), undestroyed_of_mild hes⟩

theorem Shut.refl (h : Shut error c) : Rests error c (c, []) := h.rests rfl (List.forall_mem_nil _)

theorem Shut.finish (h : Shut error c) (now : Int) (m : String) : Connection.finish now m c = (c, []) :=
  finish_ended now m (h.ended ▸ Option.some_ne_none error)

/-- **A further close changes nothing.** -/
theorem Shut.close (h : Shut error c) (now : Int) : Connection.close now c = (c, []) := by
  have hsame : c.unplugged = c := by
    obtain ⟨-, -, hdead, hdeaf⟩ := h
    cases c with
    | mk settings buffer lines pending ended secure socket upgrades =>
      cases socket with
      | mk layer live heard refusal =>
        dsimp only at hdead hdeaf
        subst hdead hdeaf
        rfl
  have hnothing : c.destroying = [] := by rw [destroying, h.dead, if_neg Bool.false_ne_true]
  rw [close_eq, hsame, hnothing, andThen, h.finish]
  rfl

theorem Shut.abandon (h : Shut error c) (id : Nat) (m : String) : Rests error c (Connection.abandon id m c) := by
  unfold Connection.abandon
  cases hfound : (c.upgrade? id).filter (·.phase == .underWay) with
  | none => exact h.refl
  | some u =>
    refine ⟨⟨h.ended, h.pending, h.dead, h.deaf⟩, fun layer text he => ?_, fun hc => ?_⟩
    · dsimp only at he
      split at he <;> simp at he
    · obtain ⟨hmem, hphase⟩ := Option.filter_eq_some_iff.1 hfound
      exact absurd (by simpa using hphase) (hc u (List.mem_of_find?_eq_some hmem))

theorem Shut.alarm (h : Shut error c) (a : Alarm) : Rests error c (Connection.alarm a c) := by
  cases a with
  | connect => exact h.refl
  | handshake id => exact h.abandon id _
  | read id =>
    have hshut : Shut error { c with pending := none } := ⟨h.ended, rfl, h.dead, h.deaf⟩
    exact hshut.rests (o := (_, [.answered id _])) rfl (by simp [Effect.mild])

theorem Shut.arrive (h : Shut error c) (now : Int) (bytes : Text.Utf8.Bytes) :
    Connection.arrive now bytes c = (c, []) := by
  rw [Connection.arrive, h.deaf, if_neg Bool.false_ne_true]

theorem Shut.hangUp (h : Shut error c) (now : Int) (m : Option String) : Rests error c (Connection.hangUp now m c) := by
  have hshut : Shut error { c with socket := { c.socket with live := false } } := ⟨h.ended, h.pending, rfl, h.deaf⟩
  have hout : Connection.hangUp now m c = ({ c with socket := { c.socket with live := false } }, []) := by
    unfold Connection.hangUp
    rw [h.deaf]
    rfl
  rw [hout]
  exact hshut.rests rfl (List.forall_mem_nil _)

theorem Shut.read (h : Shut error c) (now : Int) (id : Nat) : Rests error c (Connection.read now id c) := by
  obtain ⟨-, -, hupgrades, hmild⟩ := read_business now id h.pending
  refine Shut.rests ?_ hupgrades hmild
  cases hsplit : splitReply c.lines with
  | some p =>
    rw [read_queued now id hsplit]
    exact ⟨h.ended, h.pending, h.dead, h.deaf⟩
  | none =>
    rw [read_ended now id hsplit h.ended]
    exact ⟨h.ended, h.pending, h.dead, h.deaf⟩

theorem Shut.shakeFailed (h : Shut error c) (now : Int) (id : Nat) (m : String) :
    Rests error c (Connection.shakeFailed now id m c) := by
  unfold Connection.shakeFailed
  split
  · obtain ⟨hshut, hunwritten, hunshaken⟩ := h.abandon id m
    refine ⟨hshut, fun layer text he => ?_, fun hc => ⟨(hunshaken hc).1, fun layer he => ?_⟩⟩
    · rcases List.mem_append.1 he with he | he
      · simp at he
      · exact hunwritten layer text he
    · rcases List.mem_append.1 he with he | he
      · simp at he
      · exact (hunshaken hc).2 layer he
  · split
    · rw [h.finish]
      exact h.refl
    · exact h.refl
  · exact h.refl

theorem Shut.startTls (h : Shut error c) (id : Nat) (anchor : Except String (Option String)) :
    Shut error (Connection.startTls id anchor c).1 ∧
      ∀ layer text, .wrote layer text ∉ (Connection.startTls id anchor c).2 := by
  cases anchor with
  | error m => exact ⟨⟨h.ended, h.pending, h.dead, rfl⟩, by simp [Connection.startTls]⟩
  | ok text => exact ⟨⟨h.ended, h.pending, h.dead, rfl⟩, by simp [Connection.startTls]⟩

theorem Shut.writeRaw (h : Shut error c) (text : String) : c.writeRaw text = (.error error, []) := by
  rw [Connection.writeRaw, h.dead, if_neg Bool.false_ne_true, h.ended]
  rfl

/-- a connection ends with the error that ends it first -/
theorem ended_finish (now : Int) (error : String) (c : Connection) :
    (finish now error c).1.ended = some (c.ended.getD error) := by
  cases hc : c.ended with
  | none =>
    rw [finish_eq now error hc]
    show (reject error _).1.ended = some error
    unfold reject
    split <;> rfl
  | some first =>
    rw [finish_ended now error (hc ▸ Option.some_ne_none first)]
    exact hc

/-- **A close** leaves the connection closed, with the error that ended it first. -/
theorem shut_close (now : Int) (h : Told c) :
    Shut (c.ended.getD ConnectionError.closed.message) (Connection.close now c).1 ∧
      (Unshaken c → Unshaken (Connection.close now c).1) := by
  obtain ⟨-, -, hsocket, hupgrades⟩ := booked_finish now ConnectionError.closed.message c.unplugged
  have hended := ended_finish now ConnectionError.closed.message c.unplugged
  have htold := told_finish now ConnectionError.closed.message (c := c.unplugged) h
  refine ⟨⟨hended, htold (hended ▸ Option.some_ne_none _), congrArg Socket.live hsocket, congrArg Socket.heard hsocket⟩,
    fun hunshaken u hu => hunshaken u ?_⟩
  exact hupgrades ▸ hu

/-- a close destroys the socket, if that is live -/
theorem destroyed_close (now : Int) (c : Connection) :
    (Connection.close now c).2.filterMap Effect.destroyed? = if c.socket.live then [c.socket.layer] else [] := by
  have hmild := (booked_finish now ConnectionError.closed.message c.unplugged).mild
  have hfinish : (Connection.finish now ConnectionError.closed.message c.unplugged).2.filterMap Effect.destroyed? = [] := by
    refine List.filterMap_eq_nil_iff.2 fun e he => ?_
    cases e with
    | destroyed layer => exact absurd he (undestroyed_of_mild hmild layer)
    | _ => rfl
  rw [close_eq, andThen, List.filterMap_append, hfinish, List.append_nil, destroying]
  split <;> rfl

end Connection

namespace Clocked

open Connection (Told Shut Unshaken)

/-! ## Every state -/

theorem told_act {st : Clocked} (h : Told st.connection) (e : Event) : Told (st.act e).1.connection := by
  cases e with
  | pass ms => exact h
  | ring a =>
    cases a with
    | connect => exact h
    | handshake id => exact Connection.told_abandon id _ h
    | read id => exact fun _ => rfl
  | arrive bytes =>
    show Told (st.connection.arrive st.now bytes).1
    unfold Connection.arrive
    split
    · exact Connection.told_feed st.now bytes h
    · exact h
  | hangUp error => exact Connection.told_hangUp st.now error h
  | refuseWrites error => exact h
  | read => exact Connection.told_read st.now _ h
  | line text secret => exact h
  | raw text => exact h
  | startTls anchor => exact Connection.told_startTls _ anchor h
  | shaken id => exact Connection.told_shaken id h
  | shakeFailed id error => exact Connection.told_shakeFailed st.now id error h
  | close =>
    exact Connection.told_finish st.now _
      (c := { st.connection with socket := { st.connection.socket with live := false, heard := false } }) h

theorem told_run {st : Clocked} (h : Told st.connection) (es : List Event) : Told (st.run es).1.connection := by
  induction es generalizing st with
  | nil => exact h
  | cons e es ih => exact ih (told_act h e)

theorem Reachable.told {st : Clocked} (h : Reachable st) : Told st.connection := by
  obtain ⟨s, now, es, -, rfl⟩ := h
  exact told_run (fun he => absurd rfl he) es

/-! ## After a close -/

/-- what a closed connection shows: writes fail with its error, and nothing is written -/
def Refused (error : String) : Sight → Prop
  | .written r => r = .error error
  | .did (.wrote _ _) => False
  | .did _ => True

theorem refused_did {error : String} {es : List Effect} (h : ∀ layer text, .wrote layer text ∉ es) :
    ∀ seen ∈ es.map Sight.did, Refused error seen := by
  intro seen hseen
  obtain ⟨e, he, rfl⟩ := List.mem_map.1 hseen
  cases e with
  | wrote layer text => exact h layer text he
  | _ => trivial

theorem destroyed_did {es : List Effect} (h : ∀ layer, .destroyed layer ∉ es) :
    ∀ seen ∈ es.map Sight.did, seen.destroyed? = none := by
  intro seen hseen
  obtain ⟨e, he, rfl⟩ := List.mem_map.1 hseen
  cases e with
  | destroyed layer => exact absurd he (h layer)
  | _ => rfl

/-- an event after which a closed connection is closed as before -/
structure Stays (error : String) (c : Connection) (o : Clocked × List Sight) : Prop where
  shut : Shut error o.1.connection
  refused : ∀ seen ∈ o.2, Refused error seen
  unshaken : Unshaken c → Unshaken o.1.connection ∧ ∀ seen ∈ o.2, seen.destroyed? = none

theorem stays_after {error : String} {c : Connection} {o : Connection.Outcome} (h : Connection.Rests error c o)
    (st : Clocked) : Stays error c (st.after o) where
  shut := h.shut
  refused := refused_did h.unwritten
  unshaken hc := ⟨(h.unshaken hc).1, destroyed_did (h.unshaken hc).2⟩

theorem stays_raw {error : String} {st : Clocked} (h : Shut error st.connection) (text : String) :
    Stays error st.connection (st.act (.raw text)) := by
  refine ⟨h, ?_, fun hc => ⟨hc, ?_⟩⟩
  · simp [act, wrote, h.writeRaw, Refused]
  · simp [act, wrote, h.writeRaw, Sight.destroyed?]

theorem stays_line {error : String} {st : Clocked} (h : Shut error st.connection) (text : String) (secret : Bool) :
    Stays error st.connection (st.act (.line text secret)) := by
  refine ⟨h, ?_, fun hc => ⟨hc, ?_⟩⟩
  · simp [act, wrote, Connection.writeLine, h.writeRaw, Refused, Connection.note]
  · simp [act, wrote, Connection.writeLine, h.writeRaw, Sight.destroyed?, Effect.destroyed?, Connection.note]

/-- **Whatever comes after a close leaves the connection closed**, but for a handshake that succeeds. -/
theorem shut_act {error : String} {st : Clocked} (h : Shut error st.connection) {e : Event}
    (hshaken : ∀ id, e ≠ .shaken id) (htls : ∀ anchor, e ≠ .startTls anchor) :
    Stays error st.connection (st.act e) := by
  cases e with
  | pass ms => exact ⟨h, List.forall_mem_nil _, fun hc => ⟨hc, List.forall_mem_nil _⟩⟩
  | ring a => exact stays_after (h.alarm a) _
  | arrive bytes =>
    rw [Clocked.act, h.arrive]
    exact stays_after h.refl st
  | hangUp error => exact stays_after (h.hangUp st.now error) st
  | refuseWrites m =>
    have hshut : Shut error (st.connection.refuseWrites m) := ⟨h.ended, h.pending, h.dead, h.deaf⟩
    exact stays_after (hshut.rests (c := st.connection) (o := (_, [])) rfl (List.forall_mem_nil _)) st
  | read => exact stays_after (h.read st.now _) _
  | line text secret => exact stays_line h text secret
  | raw text => exact stays_raw h text
  | startTls anchor => exact absurd rfl (htls anchor)
  | shaken id => exact absurd rfl (hshaken id)
  | shakeFailed id m => exact stays_after (h.shakeFailed st.now id m) st
  | close =>
    rw [Clocked.act, h.close]
    exact stays_after h.refl st

theorem shut_startTls {error : String} {st : Clocked} (h : Shut error st.connection)
    (anchor : Except String (Option String)) : Shut error (st.act (.startTls anchor)).1.connection ∧
      ∀ seen ∈ (st.act (.startTls anchor)).2, Refused error seen := by
  obtain ⟨hshut, hunwritten⟩ := h.startTls st.handshakes anchor
  exact ⟨hshut, refused_did hunwritten⟩

/-- what each event keeps and shows, a run of them keeps and shows -/
theorem run_keeps {P : Clocked → Prop} {Q : Sight → Prop} {es : List Event}
    (hact : ∀ e ∈ es, ∀ st, P st → P (st.act e).1 ∧ ∀ seen ∈ (st.act e).2, Q seen) {st : Clocked} (h : P st) :
    P (st.run es).1 ∧ ∀ p ∈ (st.run es).2, Q p.2 := by
  induction es generalizing st with
  | nil => exact ⟨h, List.forall_mem_nil _⟩
  | cons e es ih =>
    obtain ⟨hfirst, hseen⟩ := hact e List.mem_cons_self st h
    obtain ⟨hlast, hmore⟩ := ih (fun e' he' => hact e' (List.mem_cons_of_mem e he')) hfirst
    refine ⟨hlast, fun p hp => ?_⟩
    rcases List.mem_append.1 hp with hp | hp
    · obtain ⟨seen, hs, rfl⟩ := List.mem_map.1 hp
      exact hseen seen hs
    · exact hmore p hp

theorem shut_run {error : String} {st : Clocked} (h : Shut error st.connection) {es : List Event}
    (hshaken : ∀ id, .shaken id ∉ es) :
    Shut error (st.run es).1.connection ∧ ∀ p ∈ (st.run es).2, Refused error p.2 := by
  refine run_keeps (P := fun st => Shut error st.connection) (fun e he st h => ?_) h
  by_cases htls : ∃ anchor, e = .startTls anchor
  · obtain ⟨anchor, rfl⟩ := htls
    exact shut_startTls h anchor
  · have hstays := shut_act h (fun id hid => hshaken id (hid ▸ he)) fun anchor ha => htls ⟨anchor, ha⟩
    exact ⟨hstays.shut, hstays.refused⟩

/-- without another upgrade nothing is destroyed either -/
theorem shut_run_destroyed {error : String} {st : Clocked} (h : Shut error st.connection)
    (hunshaken : Unshaken st.connection) {es : List Event} (hshaken : ∀ id, .shaken id ∉ es)
    (htls : ∀ anchor, .startTls anchor ∉ es) : (st.run es).2.destroyed = [] := by
  have hact : ∀ e ∈ es, ∀ st : Clocked, (Shut error st.connection ∧ Unshaken st.connection) →
      (Shut error (st.act e).1.connection ∧ Unshaken (st.act e).1.connection) ∧
        ∀ seen ∈ (st.act e).2, seen.destroyed? = none := by
    intro e he st h
    have hstays := shut_act h.1 (fun id hid => hshaken id (hid ▸ he)) fun anchor ha => htls anchor (ha ▸ he)
    obtain ⟨hidle, hnone⟩ := hstays.unshaken h.2
    exact ⟨⟨hstays.shut, hidle⟩, hnone⟩
  have hrun := run_keeps hact ⟨h, hunshaken⟩
  exact List.filterMap_eq_nil_iff.2 hrun.2

/-- **Closing a connection settles it.** From every state without a handshake under way: whoever waits is answered
once, and only what had arrived without a line feed can make that the reply, as its last line; otherwise the answer is
that the connection is closed. Whatever comes later, but for a handshake that succeeds on what is left, the connection
has ended with the error that ended it first; writes fail with that error and nothing is written; the socket is
destroyed if it was live, and nothing else; and another close changes nothing. -/
theorem close_settles {st : Clocked} (hst : Reachable st) (hunshaken : Unshaken st.connection) {later : List Event}
    (hshaken : ∀ id, .shaken id ∉ later) :
    let error := st.connection.ended.getD ConnectionError.closed.message
    let closed := st.act .close
    let run := closed.1.run later
    (st.connection.pending.isSome → st.connection.ended = none) ∧
    closed.2.filterMap Sight.answer? =
      (st.connection.pending.map fun r => (r.id, st.connection.lastAnswer r)).toList ∧
    run.1.connection.ended = some error ∧
    (∀ τ r, (τ, Sight.written r) ∈ run.2 → r = .error error) ∧
    (∀ τ layer text, (τ, Sight.did (.wrote layer text)) ∉ run.2) ∧
    closed.2.filterMap Sight.destroyed? =
      (if st.connection.socket.live then [st.connection.socket.layer] else []) ∧
    ((∀ anchor, .startTls anchor ∉ later) → run.2.destroyed = []) ∧
    run.1.act .close = (run.1, []) := by
  intro error closed run
  have htold := hst.told
  obtain ⟨hshut, hidle⟩ := Connection.shut_close st.now htold
  have hclosed : Shut error closed.1.connection := hshut
  obtain ⟨hend, hseen⟩ := shut_run hclosed hshaken
  refine ⟨fun hpending => ?_, ?_, hend.ended, fun τ r hm => hseen _ hm, fun τ layer text hm => hseen _ hm, ?_,
    fun htls => shut_run_destroyed hclosed (hidle hunshaken) hshaken htls, ?_⟩
  · by_contra hended
    rw [htold hended] at hpending
    cases hpending
  · rw [← Connection.answers_close st.now htold]
    exact answers_after st _
  · rw [← Connection.destroyed_close st.now]
    exact List.filterMap_map
  · rw [Clocked.act, hend.close]
    rfl

/-- a read that has one line of a reply, and part of another that is not its last -/
def halfRead : List Event := [.read, .arrive (utf8 "250-a\r\n250-b")]

/-- what has arrived ends no reply, so the read is told that the connection is closed, and no more happens -/
theorem close_settles_halfRead :
    let st := ((start .submission 0).run halfRead).1
    let later : List Event := [.line "QUIT" false, .read, .arrive (utf8 "\r\n250 ok\r\n"), .hangUp none]
    Reachable st ∧ Unshaken st.connection ∧ (∀ id, .shaken id ∉ later) ∧
      (st.act .close).2.filterMap Sight.answer? = [(1, .error "Connection is closed")] ∧
      (((st.act .close).1.run later).1.connection.ended = some "Connection is closed" ∧
        ((st.act .close).1.run later).2.destroyed = []) := by
  intro st later
  have hst : Reachable st := ⟨.submission, 0, halfRead, by decide +kernel, rfl⟩
  have hunshaken : Unshaken st.connection := by decide +kernel
  have hshaken : ∀ id, .shaken id ∉ later := by simp [later]
  obtain ⟨-, hanswers, hended, -, -, -, hdestroyed, -⟩ := close_settles hst hunshaken hshaken
  exact ⟨hst, hunshaken, hshaken, hanswers.trans (by decide +kernel), hended, hdestroyed (by simp [later])⟩

/-- **Where a close lets a read succeed.** What has arrived without a line feed is the last line of the reply. -/
theorem close_completes_reply :
    let es : List Event := [.read, .arrive (utf8 "250 ok"), .close]
    (start .submission 0).Possible es ∧ Unshaken ((start .submission 0).run [.read, .arrive (utf8 "250 ok")]).1.connection ∧
      ((start .submission 0).run es).2.answers = [(1, .ok (Reply.ofLines ["250 ok"]))] := by
  decide +kernel

end Clocked

end EnquiryMail.Smtp
