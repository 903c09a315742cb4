/-
What a connection has open. Readers and handshakes wait, each with an alarm that is set; sockets are open. Effects take
such business up and settle it, and say which sockets are opened and destroyed; what the relay closes, and what an
alarm or a handshake brings along, is the doing of the thing that happens.

- `Booked`: taking lines in keeps the books on alarms and readers, and leaves sockets and handshakes alone
  (`booked_feed`, `booked_finish`).
- `settles_meets`: whatever happens to a connection, what it has open afterwards is what it had, less what the thing
  and the effects have settled.
- `Spent`: a closed connection, and nothing that comes late brings it back (`Spent.meets`).
-/
import EnquiryMail.Proofs.Connection.Intake
import EnquiryMail.Proofs.Connection.Protection

namespace EnquiryMail.Net

/-- what may still happen when nobody waits for it: the relay sends something, or asking for a socket is answered -/
def Coming.isLate : Coming → Bool
  | .accepted | .refused _ | .delivery .. => true
  | _ => false

end EnquiryMail.Net

namespace EnquiryMail.Smtp

open Net (Coming)

/-! ## Business -/

/-- the alarms that are set, and how many readers and handshakes wait -/
@[ext]
structure Business where
  alarms : List Alarm
  readers : Nat
  handshakes : Nat
  deriving DecidableEq, Repr

namespace Business

/-- nothing waits -/
def rest : Business := ⟨[], 0, 0⟩

/-- an effect takes business up, or settles it -/
def effect (b : Business) : Effect → Business
  | .arm a _ => { b with alarms := b.alarms ++ [a] }
  | .disarm a => { b with alarms := b.alarms.filter (· ≠ a) }
  | .answered _ _ => { b with readers := b.readers - 1 }
  | .upgraded _ => { b with handshakes := b.handshakes - 1 }
  | .shake _ => { b with handshakes := b.handshakes + 1 }
  | _ => b

/-- effects one after another -/
def effects (b : Business) (es : List Effect) : Business := es.foldl effect b

/-- an alarm that goes off is no longer set -/
def less (b : Business) : Coming → Business
  | .alarm a => { b with alarms := b.alarms.erase a }
  | _ => b

theorem effects_append (b : Business) (es fs : List Effect) : b.effects (es ++ fs) = (b.effects es).effects fs :=
  List.foldl_append

theorem effects_trace (b : Business) (lines : List String) : b.effects (Connection.traceReply lines) = b := by
  induction lines with
  | nil => rfl
  | cons line lines ih => exact ih

theorem effects_readers (b : Business) (es : List Effect) : (b.effects es).readers ≤ b.readers := by
  induction es generalizing b with
  | nil => exact le_refl _
  | cons e es ih =>
    refine (ih (b.effect e)).trans ?_
    cases e <;> first | exact le_refl _ | exact Nat.sub_le _ _

end Business

/-! ## Sockets -/

/-- what becomes of a socket -/
inductive Fate
  | opened (layer : Layer)
  /-- the client closes it -/
  | destroyed (layer : Layer)
  /-- the other side closes it -/
  | closed (layer : Layer)
  /-- the encrypted socket takes the plain one over; from then on the two are closed as one -/
  | takenOver
  deriving DecidableEq, Repr

/-- the sockets that are open after something has become of one -/
def Fate.next (held : List Layer) : Fate → List Layer
  | .opened layer => held ++ [layer]
  | .destroyed layer => held.erase layer
  | .closed layer => held.erase layer
  | .takenOver => if .tls ∈ held then held.erase .plain else held

/-- the sockets that are open after all that has become of some -/
def heldAfter (held : List Layer) (fates : List Fate) : List Layer := fates.foldl Fate.next held

theorem heldAfter_append (held : List Layer) (fs gs : List Fate) :
    heldAfter held (fs ++ gs) = heldAfter (heldAfter held fs) gs := List.foldl_append

/-- what an effect does to a socket -/
def Effect.fate? : Effect → Option Fate
  | .shake _ => some (.opened .tls)
  | .destroyed layer => some (.destroyed layer)
  | _ => none

/-- it neither writes nor starts a handshake -/
def Effect.still : Effect → Bool
  | .wrote .. | .shake _ => false
  | _ => true

/-- it has nothing to do with sockets -/
def Effect.mild : Effect → Bool
  | .wrote .. | .shake _ | .destroyed _ => false
  | _ => true

theorem Effect.still_of_mild {e : Effect} (h : e.mild = true) : e.still = true := by
  cases e <;> first | rfl | cases h

theorem fates_of_mild {es : List Effect} (h : ∀ e ∈ es, e.mild = true) : es.filterMap Effect.fate? = [] := by
  refine List.filterMap_eq_nil_iff.2 fun e he => ?_
  have hmild := h e he
  cases e <;> first | rfl | cases hmild

/-- the alarm of a handshake -/
def Upgrade.alarm (u : Upgrade) : Alarm := .handshake u.id

namespace Connection

/-- the handshakes that are under way -/
def underWay (c : Connection) : List Upgrade := c.upgrades.filter (·.phase = .underWay)

/-- what waits at a connection -/
def business (c : Connection) : Business where
  alarms := c.underWay.map Upgrade.alarm ++ c.pending.toList.map (.read ·.id)
  readers := c.pending.toList.length
  handshakes := c.underWay.length

/-- the open sockets: the current one, and those that a handshake has not made current -/
def sockets (c : Connection) : List Layer :=
  (if c.socket.live then [c.socket.layer] else []) ++
    (c.upgrades.filter fun u => u.phase ≠ .done ∧ u.socket.live).map (·.socket.layer)

/-- what a thing that happens makes of a socket by itself -/
def fate? (c : Connection) : Coming → Option Fate
  | .delivery layer _ (some _) => if c.socket.layer = layer ∧ c.socket.live then some (.closed layer) else none
  | .shaken => if c.underWay = [] then none else some .takenOver
  | _ => none

/-! ## Taking lines in -/

/-- the books on alarms and readers are kept; sockets and handshakes are left alone -/
structure Booked (c : Connection) (o : Outcome) : Prop where
  books : c.business.effects o.2 = o.1.business
  mild : ∀ e ∈ o.2, e.mild = true
  socket : o.1.socket = c.socket
  upgrades : o.1.upgrades = c.upgrades

theorem booked_refl (c : Connection) : Booked c (c, []) := ⟨rfl, List.forall_mem_nil _, rfl, rfl⟩

theorem Booked.andThen {c : Connection} {o : Outcome} {f : Connection → Outcome} (ho : Booked c o)
    (hf : ∀ c', Booked c' (f c')) : Booked c (andThen o f) where
  books := by
    calc c.business.effects (o.2 ++ (f o.1).2)
        = (c.business.effects o.2).effects (f o.1).2 := Business.effects_append ..
      _ = o.1.business.effects (f o.1).2 := by rw [ho.books]
      _ = (f o.1).1.business := (hf o.1).books
  mild e he := by
    rcases List.mem_append.1 he with he | he
    · exact ho.mild e he
    · exact (hf o.1).mild e he
  socket := (hf o.1).socket.trans ho.socket
  upgrades := (hf o.1).upgrades.trans ho.upgrades

/-- the books do not tell of the bytes of the line under way -/
theorem Booked.of_buffer {c : Connection} {bs : Text.Utf8.Bytes} {o : Outcome} (h : Booked { c with buffer := bs } o) :
    Booked c o := ⟨h.books, h.mild, h.socket, h.upgrades⟩

theorem Booked.sockets {c : Connection} {o : Outcome} (h : Booked c o) : o.1.sockets = c.sockets := by
  simp only [Connection.sockets, h.socket, h.upgrades]

theorem mild_trace {lines : List String} {e : Effect} (h : e ∈ traceReply lines) : e.mild = true := by
  obtain ⟨line, -, rfl⟩ := List.mem_map.1 h
  rfl

theorem business_waiting {c : Connection} {r : Reader} (hr : c.pending = some r) :
    c.business = ⟨c.underWay.map Upgrade.alarm ++ [.read r.id], 1, c.underWay.length⟩ := by
  simp only [business, hr]
  rfl

theorem business_unread {c : Connection} (hr : c.pending = none) :
    c.business = ⟨c.underWay.map Upgrade.alarm, 0, c.underWay.length⟩ := by
  simp only [business, hr]
  simp

/-- cancelling a reader's alarm leaves those of handshakes -/
theorem filter_read (us : List Upgrade) (id : Nat) :
    (us.map Upgrade.alarm ++ [Alarm.read id]).filter (· ≠ Alarm.read id) =
      us.map Upgrade.alarm := by
  have hothers : ∀ a ∈ us.map Upgrade.alarm, decide (a ≠ .read id) = true := by
    intro a ha
    obtain ⟨u, -, rfl⟩ := List.mem_map.1 ha
    exact decide_eq_true (by simp [Upgrade.alarm])
  rw [List.filter_append, List.filter_eq_self.2 hothers]
  simp

/-- a reader that is answered is struck off with its alarm -/
theorem effects_answered {c : Connection} {r : Reader} (hr : c.pending = some r) (lines : List String)
    (answer : Except String Reply) :
    c.business.effects (.disarm (.read r.id) :: traceReply lines ++ [.answered r.id answer]) =
      ⟨c.underWay.map Upgrade.alarm, 0, c.underWay.length⟩ := by
  rw [← List.singleton_append, Business.effects_append, Business.effects_append, Business.effects_trace,
    business_waiting hr]
  simp only [Business.effects, List.foldl_cons, List.foldl_nil, Business.effect, filter_read]

theorem booked_pushLine (now : Int) (line : String) (c : Connection) : Booked c (pushLine now line c) := by
  cases hr : c.pending with
  | none =>
    rw [pushLine_unread now line hr]
    exact ⟨rfl, List.forall_mem_nil _, rfl, rfl⟩
  | some r =>
    cases hline : isFinalLine line with
    | true =>
      rw [pushLine_final now hline hr]
      refine ⟨(effects_answered hr _ _).trans (business_unread (c := { c with pending := none }) rfl).symm,
        fun e he => ?_, rfl, rfl⟩
      rcases List.mem_append.1 he with he | he
      · rcases List.mem_cons.1 he with rfl | he
        · rfl
        · exact mild_trace he
      · rw [List.mem_singleton.1 he]
        rfl
    | false =>
      rw [pushLine_more now hline hr]
      refine ⟨?_, by simp [Effect.mild], rfl, rfl⟩
      refine Eq.trans ?_ (business_waiting (c := { c with pending := some { r with got := r.got ++ [line] } }) rfl).symm
      rw [business_waiting hr]
      simp only [Business.effects, List.foldl_cons, List.foldl_nil, Business.effect, filter_read]
      rfl

theorem booked_pushLines (now : Int) (lines : List String) (c : Connection) : Booked c (pushLines now lines c) := by
  induction lines generalizing c with
  | nil => exact booked_refl c
  | cons line lines ih =>
    rw [pushLines_cons]
    exact (booked_pushLine now line c).andThen ih

theorem booked_feed (now : Int) (bytes : Text.Utf8.Bytes) (c : Connection) : Booked c (feed now bytes c) := by
  induction bytes generalizing c with
  | nil => exact booked_refl c
  | cons b bytes ih =>
    rw [feed_cons]
    refine Booked.andThen ?_ ih
    unfold feedByte
    split
    · exact (booked_pushLine now _ _).of_buffer
    · exact ⟨rfl, List.forall_mem_nil _, rfl, rfl⟩

theorem booked_reject (error : String) (c : Connection) : Booked c (reject error c) := by
  cases hr : c.pending with
  | none =>
    rw [reject_unread error hr]
    exact ⟨rfl, List.forall_mem_nil _, rfl, rfl⟩
  | some r =>
    rw [reject_waiting error hr]
    exact ⟨(effects_answered hr [] _).trans (business_unread (c := { c with ended := some error, pending := none })
      rfl).symm, by simp [Effect.mild], rfl, rfl⟩

theorem booked_finish (now : Int) (error : String) (c : Connection) : Booked c (finish now error c) := by
  by_cases hc : c.ended = none
  · rw [finish_eq now error hc]
    exact ((booked_pushLines now _ _).andThen (booked_reject error)).of_buffer
  · rw [finish_ended now error hc]
    exact booked_refl c

theorem booked_arrive (now : Int) (bytes : Text.Utf8.Bytes) (c : Connection) : Booked c (arrive now bytes c) := by
  unfold arrive
  split
  · exact booked_feed now bytes c
  · exact booked_refl c

/-- a reader comes: it is answered at once, or waits with its alarm -/
theorem read_business (now : Int) (id : Nat) {c : Connection} (hr : c.pending = none) :
    ({ c.business with readers := 1 } : Business).effects (read now id c).2 = (read now id c).1.business ∧
      (read now id c).1.socket = c.socket ∧ (read now id c).1.upgrades = c.upgrades ∧
      ∀ e ∈ (read now id c).2, e.mild = true := by
  have hbusiness := business_unread hr
  cases hsplit : splitReply c.lines with
  | some p =>
    obtain ⟨got, rest⟩ := p
    rw [read_queued now id hsplit, Business.effects_append, Business.effects_trace]
    refine ⟨?_, rfl, rfl, fun e he => ?_⟩
    · exact (congrArg (fun b : Business => { b with readers := 0 }) hbusiness).trans (business_unread hr).symm
    · rcases List.mem_append.1 he with he | he
      · exact mild_trace he
      · rw [List.mem_singleton.1 he]
        rfl
  | none =>
    cases hended : c.ended with
    | some error =>
      rw [read_ended now id hsplit hended]
      refine ⟨?_, rfl, rfl, by simp [Effect.mild]⟩
      exact (congrArg (fun b : Business => { b with readers := 0 }) hbusiness).trans (business_unread hr).symm
    | none =>
      rw [read_open now id hsplit hended]
      refine ⟨?_, rfl, rfl, by simp [Effect.mild]⟩
      rw [hbusiness, business_waiting rfl]
      rfl

/-! ## What happens to a connection -/

/-- what a thing that happens does to a connection; what becomes of asking for a socket does nothing to it -/
def meets (now : Int) (x : Coming) (c : Connection) : Outcome :=
  match x with
  | .alarm a => c.alarm a
  | .delivery layer packets ending => Net.Network.receive now layer packets ending c
  | .shaken => c.shaken 0
  | .shakeFailed m => c.shakeFailed now 0 m
  | .accepted => (c, [])
  | .refused _ => (c, [])

/-- the upgrade of a session in a phase -/
def upgradeAt (phase : HandshakePhase) : Upgrade := ⟨0, ⟨.tls, phase ≠ .givenUp, false, none⟩, phase⟩

/-- a connection that has not been upgraded, or whose one upgrade is in a phase -/
structure Placed (c : Connection) (phase? : Option HandshakePhase) : Prop where
  upgrades : c.upgrades = (phase?.map upgradeAt).toList
  layer : c.socket.layer = if phase? = some .done then .tls else .plain

variable {c : Connection} {phase? : Option HandshakePhase}

theorem Placed.unstarted (h : Placed c phase?) (hu : c.upgrades = []) : phase? = none := by
  have hnil := h.upgrades.symm.trans hu
  exact Option.map_eq_none_iff.1 (Option.toList_eq_nil_iff.1 hnil)

theorem Placed.underWay (h : Placed c phase?) :
    c.underWay = if phase? = some .underWay then [upgradeAt .underWay] else [] := by
  rw [Connection.underWay, h.upgrades]
  rcases phase? with _ | _ | _ | _ <;> rfl

theorem Placed.business (h : Placed c phase?) :
    c.business =
      ⟨(if phase? = some .underWay then [.handshake 0] else []) ++ c.pending.toList.map (.read ·.id),
        c.pending.toList.length, if phase? = some .underWay then 1 else 0⟩ := by
  rw [Connection.business, h.underWay]
  split <;> rfl

theorem Placed.sockets (h : Placed c phase?) :
    c.sockets = (if c.socket.live then [c.socket.layer] else []) ++
      if phase? = some .underWay then [.tls] else [] := by
  rw [Connection.sockets, h.upgrades]
  rcases phase? with _ | _ | _ | _ <;> rfl

/-- what a connection has open after a thing is what it had, less what the thing and the effects have settled -/
structure Settles (x : Coming) (c : Connection) (o : Outcome) : Prop where
  business : (c.business.less x).effects o.2 = o.1.business
  sockets : heldAfter c.sockets ((c.fate? x).toList ++ o.2.filterMap Effect.fate?) = o.1.sockets
  still : ∀ e ∈ o.2, e.still = true
  placed : ∃ phase?, Placed o.1 phase?
  /-- neither what the relay sends nor asking for a socket ends a handshake -/
  underWay : x.isLate = true → o.1.underWay = c.underWay

theorem Booked.placed {o : Outcome} (h : Booked c o) (hc : Placed c phase?) : Placed o.1 phase? :=
  ⟨h.upgrades.trans hc.upgrades, by rw [h.socket]; exact hc.layer⟩

theorem Booked.settles {o : Outcome} (h : Booked c o) (hc : Placed c phase?) {x : Coming}
    (hless : c.business.less x = c.business) (hfate : c.fate? x = none) : Settles x c o where
  business := by rw [hless]; exact h.books
  sockets := by
    rw [hfate, fates_of_mild h.mild, h.sockets]
    rfl
  still e he := Effect.still_of_mild (h.mild e he)
  placed := ⟨phase?, h.placed hc⟩
  underWay _ := congrArg (List.filter _) h.upgrades

/-- the relay closes the current socket -/
theorem settles_hangUp (now : Int) (error : Option String) (hlive : c.socket.live = true) :
    c.business.effects (hangUp now error c).2 = (hangUp now error c).1.business ∧
      (hangUp now error c).1.sockets = c.sockets.erase c.socket.layer ∧
      (∀ e ∈ (hangUp now error c).2, e.mild = true) ∧
      (hangUp now error c).1.socket.layer = c.socket.layer ∧ (hangUp now error c).1.upgrades = c.upgrades := by
  have hbooked : Booked { c with socket := { c.socket with live := false } } (hangUp now error c) := by
    unfold hangUp
    dsimp only
    split
    · exact booked_finish now _ _
    · exact booked_refl _
  refine ⟨hbooked.books, ?_, hbooked.mild, by rw [hbooked.socket], hbooked.upgrades⟩
  rw [hbooked.sockets]
  simp [Connection.sockets, hlive]

/-- packets and then the end of the current socket -/
theorem settles_ended (now : Int) (packets : List Text.Utf8.Bytes) (ending : Net.Ending) (error : Option String)
    (hc : Placed c phase?) {layer : Layer} (hcurrent : c.socket.layer = layer ∧ c.socket.live = true) :
    Settles (.delivery layer packets (some ending)) c
      (andThen (arrive now packets.flatten c) (hangUp now error)) := by
  have harrive := booked_arrive now packets.flatten c
  obtain ⟨hbooks, hsockets, hmild, hlayer, hupgrades⟩ := settles_hangUp now error
    (c := (arrive now packets.flatten c).1) (by rw [harrive.socket]; exact hcurrent.2)
  have hall : ∀ e ∈ (andThen (arrive now packets.flatten c) (hangUp now error)).2, e.mild = true := by
    intro e he
    rcases List.mem_append.1 he with he | he
    · exact harrive.mild e he
    · exact hmild e he
  refine ⟨?_, ?_, fun e he => Effect.still_of_mild (hall e he), ⟨phase?, ?_, ?_⟩, fun _ => ?_⟩
  · calc c.business.effects (_ ++ _) = _ := Business.effects_append ..
      _ = (arrive now packets.flatten c).1.business.effects _ := by rw [harrive.books]
      _ = _ := hbooks
  · rw [fates_of_mild hall, List.append_nil, Connection.fate?, if_pos hcurrent]
    refine Eq.trans ?_ hsockets.symm
    rw [harrive.sockets, harrive.socket, hcurrent.1]
    rfl
  · exact hupgrades.trans (harrive.upgrades.trans hc.upgrades)
  · exact (hlayer.trans (congrArg Socket.layer harrive.socket)).trans hc.layer
  · exact congrArg (List.filter _) (hupgrades.trans harrive.upgrades)

theorem settles_receive (now : Int) (layer : Layer) (packets : List Text.Utf8.Bytes) (ending : Option Net.Ending)
    (hc : Placed c phase?) :
    Settles (.delivery layer packets ending) c (Net.Network.receive now layer packets ending c) := by
  by_cases hcurrent : c.socket.layer = layer ∧ c.socket.live = true
  · rw [Net.Network.receive, if_pos hcurrent]
    cases ending with
    | none => exact ((booked_arrive now packets.flatten c).andThen booked_refl).settles hc rfl rfl
    | some ending =>
      cases ending with
      | hangUp => exact settles_ended now packets .hangUp none hc hcurrent
      | error m => exact settles_ended now packets (.error m) (some m) hc hcurrent
  · rw [Net.Network.receive, if_neg hcurrent]
    refine (booked_refl c).settles hc rfl ?_
    cases ending with
    | none => rfl
    | some ending => exact if_neg hcurrent

/-! ### The upgrade -/

theorem abandon_underWay (error : String) (hc : Placed c (some .underWay)) :
    abandon 0 error c =
      ({ c with upgrades := [upgradeAt .givenUp] }, [.destroyed .tls, .upgraded (.error error)]) := by
  simp only [abandon, upgrade?, withUpgrade, hc.upgrades]
  rfl

theorem shaken_underWay (hc : Placed c (some .underWay)) :
    shaken 0 c = ({ c with upgrades := [upgradeAt .done], socket := ⟨.tls, true, true, none⟩, secure := true },
      [.disarm (.handshake 0),
        note .debug "TLS established" [("protocol", .str "TLSv1.3"), ("cipher", .str "TLS_AES_256_GCM_SHA384")],
        .upgraded (.ok ())]) := by
  simp [shaken, upgrade?, withUpgrade, hc.upgrades, upgradeAt]

/-- a handshake that is given up closes its socket; the current one stays -/
theorem settles_abandon (error : String) (es : List Effect) (hc : Placed c (some .underWay)) {x : Coming}
    (halarm : (c.business.less x).effects es = { c.business with alarms := c.pending.toList.map (.read ·.id) })
    (hfate : c.fate? x = none) (hes : ∀ e ∈ es, e.mild = true) (hx : x.isLate = false) :
    Settles x c (andThen (c, es) (abandon 0 error)) := by
  have hplaced : Placed { c with upgrades := [upgradeAt .givenUp] } (some .givenUp) := ⟨rfl, hc.layer⟩
  rw [andThen, abandon_underWay error hc]
  refine ⟨?_, ?_, fun e he => ?_, ⟨_, hplaced⟩, fun h => ?_⟩
  · rw [Business.effects_append, halarm, hplaced.business, hc.business]
    rfl
  · rw [hfate, List.filterMap_append, fates_of_mild hes, hplaced.sockets, hc.sockets]
    show (_ ++ [Layer.tls]).erase .tls = _ ++ []
    rw [hc.layer]
    cases c.socket.live <;> rfl
  · rcases List.mem_append.1 he with he | he
    · exact Effect.still_of_mild (hes e he)
    · simp only [List.mem_cons, List.not_mem_nil, or_false] at he
      rcases he with rfl | rfl <;> rfl
  · rw [hx] at h
    cases h

/-- an alarm that is set goes off, and whoever waited is told -/
theorem settles_alarm (a : Alarm) (hc : Placed c phase?) (ha : a ∈ c.business.alarms) :
    Settles (.alarm a) c (c.alarm a) ∧ (c.alarm a).1.business.alarms = c.business.alarms.erase a := by
  rcases List.mem_append.1 ha with ha | ha
  · rw [hc.underWay] at ha
    split at ha
    · rename_i hphase
      subst hphase
      obtain rfl := List.mem_singleton.1 ha
      have hbusiness := hc.business
      refine ⟨?_, ?_⟩
      · refine settles_abandon _ [] hc ?_ rfl (List.forall_mem_nil _) rfl
        rw [hbusiness]
        rfl
      · have hplaced : Placed { c with upgrades := [upgradeAt .givenUp] } (some .givenUp) := ⟨rfl, hc.layer⟩
        show (abandon 0 _ c).1.business.alarms = _
        rw [abandon_underWay _ hc, hbusiness, hplaced.business]
        rfl
    · cases ha
  · obtain ⟨r, hr, rfl⟩ := List.mem_map.1 ha
    rw [Option.mem_toList] at hr
    have halarms : c.business.alarms.erase (.read r.id) = c.underWay.map Upgrade.alarm := by
      have hothers : Alarm.read r.id ∉ c.underWay.map Upgrade.alarm := by
        intro hm
        obtain ⟨u, -, hu⟩ := List.mem_map.1 hm
        cases hu
      rw [business_waiting hr, List.erase_append_right _ hothers, List.erase_cons_head, List.append_nil]
    have hafter : (c.alarm (.read r.id)).1.business = ⟨c.underWay.map Upgrade.alarm, 0, c.underWay.length⟩ :=
      business_unread (c := { c with pending := none }) rfl
    refine ⟨⟨?_, rfl, by simp [alarm, readExpired, Effect.still], ⟨phase?, hc.upgrades, hc.layer⟩, fun _ => rfl⟩, ?_⟩
    · rw [hafter, Business.less, halarms, business_waiting hr]
      rfl
    · rw [hafter, halarms]

/-- a handshake that is not given up succeeds, or has done so before -/
theorem settles_shaken (hc : Placed c phase?) (hphase : phase? ≠ some .givenUp) : Settles .shaken c (shaken 0 c) := by
  rcases phase? with _ | _ | _ | _
  · have hshaken : shaken 0 c = (c, []) := by
      simp only [shaken, upgrade?, hc.upgrades]
      rfl
    rw [hshaken]
    exact (booked_refl c).settles hc rfl (if_pos hc.underWay)
  · have hplaced : Placed (shaken 0 c).1 (some .done) := by
      rw [shaken_underWay hc]
      exact ⟨rfl, rfl⟩
    refine ⟨?_, ?_, ?_, ⟨_, hplaced⟩, Bool.noConfusion⟩
    · show c.business.effects _ = _
      rw [hplaced.business, hc.business, shaken_underWay hc]
      cases c.pending <;> rfl
    · have hfate : c.fate? .shaken = some .takenOver := if_neg (by rw [hc.underWay]; exact List.cons_ne_nil _ _)
      rw [hplaced.sockets, hfate, hc.sockets, shaken_underWay hc, hc.layer]
      cases c.socket.live <;> rfl
    · rw [shaken_underWay hc]
      simp [Effect.still, note]
  · exact absurd rfl hphase
  · have hshaken : shaken 0 c = (c, []) := by
      simp only [shaken, upgrade?, hc.upgrades]
      rfl
    rw [hshaken]
    exact (booked_refl c).settles hc rfl (if_pos hc.underWay)

theorem settles_shakeFailed (now : Int) (error : String) (hc : Placed c phase?) :
    Settles (.shakeFailed error) c (shakeFailed now 0 error c) := by
  have hphase : (c.upgrade? 0).map Upgrade.phase = phase? := by
    rw [upgrade?, hc.upgrades]
    rcases phase? with _ | _ | _ | _ <;> rfl
  rw [shakeFailed, hphase]
  rcases phase? with _ | _ | _ | _
  · exact (booked_refl c).settles hc rfl rfl
  · refine settles_abandon error [.disarm (.handshake 0)] hc ?_ rfl (by simp [Effect.mild]) rfl
    rw [hc.business]
    cases c.pending <;> rfl
  · exact (booked_refl c).settles hc rfl rfl
  · dsimp only
    split
    · exact (booked_finish now error c).settles hc rfl rfl
    · exact (booked_refl c).settles hc rfl rfl

/-- **Whatever happens to a connection** is accounted for, when only alarms go off that are set, and no handshake
succeeds that was given up. -/
theorem settles_meets (now : Int) (x : Coming) (hc : Placed c phase?)
    (halarm : ∀ a, x = .alarm a → a ∈ c.business.alarms) (hshaken : x = .shaken → phase? ≠ some .givenUp) :
    Settles x c (meets now x c) := by
  cases x with
  | alarm a => exact (settles_alarm a hc (halarm a rfl)).1
  | accepted => exact (booked_refl c).settles hc rfl rfl
  | refused m => exact (booked_refl c).settles hc rfl rfl
  | delivery layer packets ending => exact settles_receive now layer packets ending hc
  | shaken => exact settles_shaken hc (hshaken rfl)
  | shakeFailed m => exact settles_shakeFailed now m hc

/-- an upgrade starts, unless the trust anchor cannot be read -/
theorem startTls_business (anchor : Except String (Option String)) (hc : Placed c none) (hr : c.pending = none) :
    c.business.effects (startTls 0 anchor c).2 = (startTls 0 anchor c).1.business ∧
      heldAfter c.sockets ((startTls 0 anchor c).2.filterMap Effect.fate?) = (startTls 0 anchor c).1.sockets ∧
      Placed (startTls 0 anchor c).1 (anchor.toOption.map fun _ => .underWay) := by
  cases anchor with
  | error m =>
    refine ⟨?_, ?_, hc.upgrades, hc.layer⟩
    · have hplaced : Placed (startTls 0 (.error m) c).1 none := ⟨hc.upgrades, hc.layer⟩
      rw [hplaced.business, hc.business]
      rfl
    · have hplaced : Placed (startTls 0 (.error m) c).1 none := ⟨hc.upgrades, hc.layer⟩
      rw [hplaced.sockets, hc.sockets]
      rfl
  | ok text =>
    have hplaced : Placed (startTls 0 (.ok text) c).1 (some .underWay) :=
      ⟨congrArg (upgradeAt .underWay :: ·) hc.upgrades, hc.layer⟩
    refine ⟨?_, ?_, hplaced⟩
    · rw [hplaced.business, hc.business, startTls, hr]
      rfl
    · rw [hplaced.sockets, hc.sockets]
      show (_ ++ []) ++ [Layer.tls] = _
      rw [List.append_nil]
      rfl

/-! ## Closing -/

theorem finish_isSome (now : Int) (error : String) (c : Connection) : (finish now error c).1.ended.isSome := by
  by_cases hended : c.ended = none
  · rw [finish_eq now error hended]
    show (reject error _).1.ended.isSome
    unfold reject
    split <;> rfl
  · rw [finish_ended now error hended]
    exact Option.isSome_iff_ne_none.2 hended

/-- a closed connection: whoever waited knows, and no socket is open -/
structure Spent (c : Connection) : Prop where
  ended : c.ended.isSome
  pending : c.pending = none
  dead : c.socket.live = false
  ceased : ∀ u ∈ c.upgrades, u.phase ≠ .underWay ∧ (u.phase = .done ∨ u.socket.live = false)

theorem Spent.sockets (h : Spent c) : c.sockets = [] := by
  have hceased : c.upgrades.filter (fun u => u.phase ≠ .done ∧ u.socket.live) = [] := by
    refine List.filter_eq_nil_iff.2 fun u hu => ?_
    rcases (h.ceased u hu).2 with hdone | hdead
    · simp [hdone]
    · simp [hdead]
  rw [Connection.sockets, h.dead, hceased]
  rfl

theorem pending_eq_none {c : Connection} : c.pending = none ↔ c.business.readers = 0 := by
  rw [business]
  cases c.pending <;> simp

theorem Placed.idle_of_rest (h : Placed c phase?) (hrest : c.business = .rest) : phase? ≠ some .underWay := by
  intro hphase
  have hwaits := congrArg Business.handshakes (h.business.symm.trans hrest)
  simp only [if_pos hphase] at hwaits
  cases hwaits

/-- when nothing waits, the end of a connection is nobody's concern -/
theorem finish_rest (now : Int) (error : String) (hc : Placed c phase?) (hrest : c.business = .rest) :
    Business.rest.effects (finish now error c).2 = .rest ∧ (finish now error c).1.business = .rest := by
  have hfinish := booked_finish now error c
  have hbooks : Business.rest.effects (finish now error c).2 = (finish now error c).1.business := by
    rw [← hfinish.books, hrest]
  have hpending : (finish now error c).1.pending = none := by
    rw [pending_eq_none, ← hbooks]
    exact Nat.le_zero.1 (Business.effects_readers _ _)
  have hbusiness : (finish now error c).1.business = .rest := by
    rw [(hfinish.placed hc).business, hpending, if_neg (hc.idle_of_rest hrest), if_neg (hc.idle_of_rest hrest)]
    rfl
  exact ⟨hbooks.trans hbusiness, hbusiness⟩

/-- a connection at which nothing waits is closed: what was open is destroyed, and nobody is told -/
structure Closes (c : Connection) (phase? : Option HandshakePhase) (o : Outcome) : Prop where
  sockets : heldAfter c.sockets (o.2.filterMap Effect.fate?) = []
  books : Business.rest.effects o.2 = .rest
  still : ∀ e ∈ o.2, e.still = true
  business : o.1.business = .rest
  spent : Spent o.1
  placed : Placed o.1 phase?

/-- **Closing** a connection at which nothing waits destroys the socket that is still open. -/
theorem closes_close (now : Int) (hc : Placed c phase?) (hrest : c.business = .rest) :
    Closes c phase? (close now c) := by
  let c' : Connection := { c with socket := { c.socket with live := false, heard := false } }
  let destroyed : List Effect := if c.socket.live then [.destroyed c.socket.layer] else []
  have hclose : close now c = andThen (c', destroyed) (finish now ConnectionError.closed.message) := rfl
  have hc' : Placed c' phase? := ⟨hc.upgrades, hc.layer⟩
  have hfinish := booked_finish now ConnectionError.closed.message c'
  obtain ⟨hbooks, hbusiness⟩ := finish_rest now ConnectionError.closed.message hc' hrest
  have hplaced := hfinish.placed hc'
  have hidle := hc.idle_of_rest hrest
  have hdestroyed : heldAfter c.sockets (destroyed.filterMap Effect.fate?) = [] ∧
      Business.rest.effects destroyed = .rest ∧ ∀ e ∈ destroyed, e.still = true := by
    rw [hc.sockets, if_neg hidle, List.append_nil]
    simp only [destroyed]
    cases c.socket.live with
    | false => exact ⟨rfl, rfl, List.forall_mem_nil _⟩
    | true => exact ⟨by simp [heldAfter, Effect.fate?, Fate.next], rfl, by simp [Effect.still]⟩
  have hspent : Spent (finish now ConnectionError.closed.message c').1 := by
    refine ⟨finish_isSome _ _ _, ?_, by rw [hfinish.socket], ?_⟩
    · rw [pending_eq_none, hbusiness]
      rfl
    · rw [hplaced.upgrades]
      rcases phase? with _ | _ | _ | _
      · exact List.forall_mem_nil _
      · exact absurd rfl hidle
      all_goals simp [upgradeAt]
  rw [hclose]
  refine ⟨?_, ?_, fun e he => ?_, hbusiness, hspent, hplaced⟩
  · rw [andThen, List.filterMap_append, fates_of_mild hfinish.mild, List.append_nil]
    exact hdestroyed.1
  · rw [andThen, Business.effects_append, hdestroyed.2.1]
    exact hbooks
  · rcases List.mem_append.1 he with he | he
    · exact hdestroyed.2.2 e he
    · exact Effect.still_of_mild (hfinish.mild e he)

/-- it takes an alarm off or logs -/
def vain : Effect → Bool
  | .disarm _ | .log _ => true
  | _ => false

/-- **Nothing that comes late** brings a closed connection back, makes it write or answers anybody. -/
theorem Spent.meets (h : Spent c) (now : Int) {x : Coming} (hx : ∀ id, x ≠ .alarm (.read id)) :
    Spent (c.meets now x).1 ∧ ∀ e ∈ (c.meets now x).2, vain e = true := by
  have hsame {o : Outcome} (ho : o = (c, [])) : Spent o.1 ∧ ∀ e ∈ o.2, vain e = true := by
    rw [ho]
    exact ⟨h, List.forall_mem_nil _⟩
  cases x with
  | alarm a =>
    cases a with
    | connect => exact hsame rfl
    | handshake id =>
      have hover : (c.upgrade? id).filter (·.phase == .underWay) = none := by
        refine Option.filter_eq_none_iff.2 fun u hu => ?_
        have hphase := (h.ceased u (List.mem_of_find?_eq_some hu)).1
        simpa using hphase
      refine hsame (o := c.abandon id _) ?_
      rw [abandon, hover]
    | read id => exact absurd rfl (hx id)
  | accepted => exact hsame rfl
  | refused m => exact hsame rfl
  | delivery layer packets ending =>
    have hcurrent : ¬(c.socket.layer = layer ∧ c.socket.live = true) := by
      rw [h.dead]
      exact fun hlive => Bool.false_ne_true hlive.2
    exact hsame (if_neg hcurrent)
  | shaken =>
    show Spent (shaken 0 c).1 ∧ ∀ e ∈ (shaken 0 c).2, vain e = true
    cases hu : c.upgrade? 0 with
    | none =>
      refine hsame ?_
      rw [shaken, hu]
    | some u =>
      obtain ⟨hwaits, hdone⟩ := h.ceased u (List.mem_of_find?_eq_some hu)
      simp only [shaken, hu]
      split
      · exact hsame rfl
      rename_i hphase
      refine ⟨⟨h.ended, h.pending, hdone.resolve_left hphase, fun v hv => ?_⟩, ?_⟩
      · obtain ⟨v', hv', rfl⟩ := List.mem_map.1 hv
        split
        · exact ⟨by simp, .inl rfl⟩
        · exact h.ceased v' hv'
      · simp [vain, note]
  | shakeFailed m =>
    show Spent (shakeFailed now 0 m c).1 ∧ ∀ e ∈ (shakeFailed now 0 m c).2, vain e = true
    unfold shakeFailed
    split
    · rename_i hphase
      obtain ⟨u, hu, hwaits⟩ := Option.map_eq_some_iff.1 hphase
      exact absurd hwaits (h.ceased u (List.mem_of_find?_eq_some hu)).1
    · split
      · exact hsame (finish_ended now m (Option.isSome_iff_ne_none.1 h.ended))
      · exact hsame rfl
    · exact hsame rfl

end Connection

end EnquiryMail.Smtp
