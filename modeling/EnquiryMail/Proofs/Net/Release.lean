/-
What a session leaves behind: an answer, and nothing else. Each of its requests is answered, and when it is over every
socket that it opened has been destroyed or was closed by the relay, no alarm is set, and nothing that happens later
does anything.

- `sessionFates`: what becomes of the sockets during a session, in order; by the wire they are opened and destroyed,
  and what the relay sends closes them.
- `Released`: a session that ends like that; `released_of_concludes`: so does each that closes what it has opened.
- `sessions_released`: deliveries and tries do, with any relays.
-/
import EnquiryMail.Proofs.Net.Confidentiality
import EnquiryMail.Proofs.Net.Waiting
import EnquiryMail.Proofs.Session.Turn

namespace EnquiryMail.Net.Network

open EnquiryMail.Smtp
open Mail (Message)
open Connection (Placed Spent)

variable {α : Type} {n m : Network} {held : List Layer} {s : Settings}

/-! ## Sessions and what they leave -/

/-- what becomes of the sockets from a request to its answer -/
def requestFates (s : Settings) (r : Request) (n : Network) : List Fate :=
  (n.fresh (n.asked s r)).filterMap WireEvent.fate? ++ (n.during s r).dropLast.flatMap turnFates

/-- what becomes of the sockets during a session -/
def sessionFates (s : Settings) : Script α → Network → List Fate
  | .done _, _ => []
  | .ask r next, n => n.requestFates s r ++ sessionFates s (next (handle s r n).1) (handle s r n).2

/-- something holds of every request of a session, with the state that it is made in and the one it leads to -/
def Along (s : Settings) (P : Request → Network → Network → Prop) : Script α → Network → Prop
  | .done _, _ => True
  | .ask r next, n => P r n (handle s r n).2 ∧ Along s P (next (handle s r n).1) (handle s r n).2

/-- nothing is written, nobody is told anything, and no alarm is set -/
structure Unmoved (n n' : Network) : Prop where
  wire : n'.wire = n.wire
  dialed : n'.dialed = n.dialed
  answer : n'.answer = n.answer
  upgraded : n'.upgraded = n.upgraded
  armed : n'.armed = []

/-- whatever may still come moves nothing; the alarm of a reader cannot, for none is set -/
def Deaf (n : Network) : Prop :=
  ∀ xs : List (Nat × Coming), (∀ x ∈ xs, ∀ id, x.2 ≠ .alarm (.read id)) → Unmoved n (xs.foldl happen n)

/-- a session that ends with an answer, and leaves nothing behind -/
structure Released (s : Settings) (session : Script α) (n : Network) : Prop where
  /-- no request is left without its answer -/
  answered : Along s (fun r _ n' => settled r n' = true) session n
  /-- of the sockets opened none is left open -/
  sockets : heldAfter [] (sessionFates s session n) = []
  alarms : (session.run (handle s) n).2.armed = []
  /-- a connection that has been closed takes nothing in and puts nothing out -/
  deaf : Along s (fun r m _ => r = .close → Deaf (m.onConnection (Connection.close m.world.now))) session n
  /-- once the session is over, nothing that happens changes anything -/
  after : ∀ xs : List (Nat × Coming), xs.foldl happen (session.run (handle s) n).2 = (session.run (handle s) n).2

/-! ## A closed connection -/

theorem vain_effects {es : List Effect} (hes : ∀ e ∈ es, Connection.vain e = true) (hn : n.armed = []) :
    Unmoved n (n.effects es) := by
  induction es generalizing n with
  | nil => exact ⟨rfl, rfl, rfl, rfl, hn⟩
  | cons e es ih =>
    obtain ⟨he, hes⟩ := List.forall_mem_cons.1 hes
    obtain ⟨hqueue, hset⟩ := List.append_eq_nil_iff.1 hn
    have hfirst : Unmoved n (n.effect e) := by
      cases e with
      | disarm a =>
        refine ⟨rfl, rfl, rfl, rfl, List.append_eq_nil_iff.2 ⟨hqueue, ?_⟩⟩
        show (n.agenda.cancel _).filterMap _ = []
        rw [set_cancel, show (n.agenda.filterMap fun e => alarm? e.2) = [] from hset]
        rfl
      | log call => exact ⟨rfl, rfl, rfl, rfl, hn⟩
      | _ => cases he
    have hrest := ih hes hfirst.armed
    exact ⟨hrest.wire.trans hfirst.wire, hrest.dialed.trans hfirst.dialed, hrest.answer.trans hfirst.answer,
      hrest.upgraded.trans hfirst.upgraded, hrest.armed⟩

/-- **A closed connection is deaf.** -/
theorem deaf_of_spent {c : Connection} (hline : n.line = .up c) (hc : Spent c) (hn : n.armed = []) : Deaf n := by
  intro xs hxs
  induction xs generalizing n c with
  | nil => exact ⟨rfl, rfl, rfl, rfl, hn⟩
  | cons x xs ih =>
    obtain ⟨hx, hxs⟩ := List.forall_mem_cons.1 hxs
    obtain ⟨c', hline', hc', hfirst⟩ :
        ∃ c', (n.happen x).line = .up c' ∧ Spent c' ∧ Unmoved n (n.happen x) := by
      by_cases hnumber : x.1 = n.number
      · obtain ⟨number, x⟩ := x
        obtain rfl : number = n.number := hnumber
        obtain ⟨hspent, hvain⟩ := hc.meets n.world.now hx
        have hmoves := vain_effects (n := { n with line := .up (c.meets n.world.now x).1 }) hvain hn
        rw [happen_up hline]
        exact ⟨_, effects_line _ _, hspent, hmoves.wire, hmoves.dialed, hmoves.answer, hmoves.upgraded, hmoves.armed⟩
      · rw [happen_other hnumber]
        exact ⟨c, hline, hc, rfl, rfl, rfl, rfl, hn⟩
    have hrest := ih hline' hc' hfirst.armed hxs
    exact ⟨hrest.wire.trans hfirst.wire, hrest.dialed.trans hfirst.dialed, hrest.answer.trans hfirst.answer,
      hrest.upgraded.trans hfirst.upgraded, hrest.armed⟩

theorem foldl_happen_idle (h : n.line = .idle) (xs : List (Nat × Coming)) : xs.foldl happen n = n := by
  induction xs with
  | nil => rfl
  | cons x xs ih =>
    have hsame : n.happen x = n := by
      by_cases hnumber : x.1 = n.number
      · obtain ⟨number, x⟩ := x
        obtain rfl : number = n.number := hnumber
        exact happen_idle h x
      · exact happen_other hnumber
    rw [List.foldl_cons, hsame]
    exact ih

/-! ## What a request does at once -/

theorem kept_start (w : World) (relays : List Relay) : Kept [] (start w relays) where
  set := List.Perm.nil
  queue := List.forall_mem_nil _
  agenda := List.forall_mem_nil _
  verdicts := le_refl _
  sockets := rfl
  placed c hc := by cases hc

theorem fuel_enough (n : Network) : n.burden < 2 * (n.queue.length + n.agenda.length) + 2 := by
  have hqueue := List.countP_le_length (p := fun x => (alarm? x).isNone) (l := n.queue)
  have hagenda := List.countP_le_length (p := fun e => (alarm? e.2).isNone) (l := n.agenda)
  rw [burden]
  omega

/-- a socket is asked for under a time limit -/
theorem kept_dial (h : Kept held n) (hline : n.line = .idle) (s : Settings) :
    Kept (heldAfter held ((n.fresh (n.dial s)).filterMap WireEvent.fate?)) (n.dial s) := by
  have hset := h.set
  have hverdicts := h.verdicts
  rw [hline] at hset hverdicts
  let m : Network := { n with
    relays := n.relays.tail
    settings := s
    number := n.number + 1
    replies := (n.relays.headD .nobody).replies
    greeting := (n.relays.headD .nobody).greeting
    shaking := (n.relays.headD .nobody).shaking
    wire := .connect s.relayName :: n.wire
    dialed := none }
  have hasked : Kept [.plain] (n.dialing s) :=
    kept_effects (m := m) (b := .rest) .dialing (Dial.started s) hset h.queue h.agenda
      (by simp [Dial.started, Effect.still])
      rfl hverdicts (fun c hc => by cases hc)
  have hkept : Kept [.plain] (n.dial s) := by
    rw [dial_eq]
    split
    · exact hasked.enqueue rfl
    · exact hasked.enqueue rfl
    · exact hasked.schedule _ rfl
    · exact hasked
  have hwire : (n.dial s).wire = [.connect s.relayName].reverse ++ n.wire := by
    rw [dial_eq]
    split <;> rfl
  have hfresh : n.fresh (n.dial s) = [.connect s.relayName] := fresh_of_wire hwire
  have hheld : held = [] := by
    rw [← h.sockets, hline]
    rfl
  rw [hfresh, hheld]
  exact hkept

/-- a reader comes to a connection at which nothing waits -/
theorem kept_read (h : Kept held n) {c : Connection} (hline : n.line = .up c) (hrest : c.business = .rest)
    (s : Settings) :
    Kept (heldAfter held ((n.fresh (n.asked s .read)).filterMap WireEvent.fate?)) (n.asked s .read) ∧
      Awaits .read (n.asked s .read) := by
  have hunread : c.pending = none := Connection.pending_eq_none.2 (congrArg Business.readers hrest)
  have hidle : c.underWay = [] := List.length_eq_zero_iff.1 (congrArg Business.handshakes hrest)
  obtain ⟨hbooks, hsocket, hupgrades, hmild⟩ := Connection.read_business n.world.now 0 hunread
  obtain ⟨phase?, hphase⟩ := h.placed c hline
  let o := Connection.read n.world.now 0 c
  have hunder : o.1.underWay = c.underWay := congrArg (List.filter _) hupgrades
  have hsockets : c.sockets = o.1.sockets := by simp only [Connection.sockets, o, hsocket, hupgrades]
  have hopen : Kept held { n with answer := none } := ⟨h.set, h.queue, h.agenda, h.verdicts, h.sockets, h.placed⟩
  refine ⟨?_, o.1, ?_, hunder.trans hidle, ?_⟩
  · refine hopen.onConnection (f := Connection.read n.world.now 0) (b := { c.business with readers := 1 }) hline rfl
      hbooks ?_ ?_ ⟨phase?, ?_, ?_⟩ ?_
    · exact fun e he => Effect.still_of_mild (hmild e he)
    · exact le_of_eq (congrArg List.length hunder.symm)
    · exact hupgrades.trans hphase.upgrades
    · exact (congrArg Socket.layer hsocket).trans hphase.layer
    · rw [fates_of_mild hmild]
      exact hsockets
  · exact (onConnection_up (n := { n with answer := none }) hline _).2.1
  · rw [asked, onConnection_of_line (n := { n with answer := none }) hline, (told_effects _ _).1,
      Connection.pending_eq_none, ← hbooks, readers_effects]
    exact any_iff_of_sub rfl

/-- an upgrade starts, unless the trust anchor cannot be read -/
theorem kept_startTls (h : Kept held n) {c : Connection} (hline : n.line = .up c) (hrest : c.business = .rest)
    (hunstarted : c.upgrades = []) (s : Settings) :
    Kept (heldAfter held ((n.fresh (n.asked s .startTls)).filterMap WireEvent.fate?)) (n.asked s .startTls) ∧
      Awaits .startTls (n.asked s .startTls) := by
  have hunread : c.pending = none := Connection.pending_eq_none.2 (congrArg Business.readers hrest)
  have hc : Placed c none := by
    obtain ⟨phase?, hphase⟩ := h.placed c hline
    obtain rfl := hphase.unstarted hunstarted
    exact hphase
  let anchor := trustAnchor n.world s
  let o := Connection.startTls 0 anchor c
  obtain ⟨hbooks, hsockets, hplaced⟩ := Connection.startTls_business anchor hc hunread
  have hasked : n.asked s .startTls = ({ n with upgraded := none, line := .up o.1 } : Network).effects o.2 :=
    onConnection_of_line (n := { n with upgraded := none }) hline _
  have hset := h.set
  have hverdicts := h.verdicts
  rw [hline] at hset hverdicts
  have hnone : n.queue.countP isVerdict = 0 :=
    Nat.le_zero.1 (hverdicts.trans (le_of_eq (congrArg Business.handshakes hrest)))
  have hqueue : (∀ x ∈ (n.asked s .startTls).queue, alarm? x = none) ∧
      (n.asked s .startTls).queue.countP isVerdict ≤ o.1.business.handshakes := by
    rw [hasked, hplaced.business]
    cases hanchor : anchor with
    | error message =>
      simp only [o, hanchor]
      exact ⟨h.queue, le_of_eq hnone⟩
    | ok text =>
      simp only [o, hanchor]
      obtain ⟨q, hq, halarm, hone⟩ := queue_shake
        { n with upgraded := none, line := .up (Connection.startTls 0 (.ok text) c).1 }
        (Connection.handshakeOf c.settings text)
      show (∀ x ∈ (effect _ (.shake _)).queue, _) ∧ (effect _ (.shake _)).queue.countP isVerdict ≤ 1
      rw [hq, List.countP_append]
      refine ⟨fun x hx => ?_, Nat.add_le_add (le_of_eq hnone) hone⟩
      rcases List.mem_append.1 hx with hx | hx
      · exact h.queue x hx
      · exact halarm x hx
  rw [hasked] at hqueue
  have hkept := kept_carried (m := { n with upgraded := none }) (.up o.1) hset h.agenda hbooks hqueue.1 hqueue.2
    (fun c' hc' => by cases hc'; exact ⟨_, hplaced⟩)
  have hfresh : (n.fresh (n.asked s .startTls)).filterMap WireEvent.fate? = o.2.filterMap Effect.fate? := by
    rw [hasked]
    exact fates_effects { n with upgraded := none, line := .up o.1 } o.2
  refine ⟨?_, o.1, by rw [hasked]; exact effects_line _ _, ?_, ?_⟩
  · rw [hfresh, hasked, ← h.sockets, hline]
    show Kept (heldAfter c.sockets (o.2.filterMap Effect.fate?)) _
    rw [hsockets]
    exact hkept
  · simp only [o]
    cases anchor <;> exact hunread
  · rw [hasked, (told_effects _ _).2, hplaced.underWay]
    simp only [o]
    cases anchor with
    | error message => exact iff_of_true rfl rfl
    | ok text => exact iff_of_false Bool.false_ne_true (List.cons_ne_nil _ _)

/-- nothing is done but writing and logging -/
def Writes (es : List Effect) : Prop := ∀ e ∈ es, (∃ layer text, e = .wrote layer text) ∨ ∃ call, e = .log call

/-- writing leaves the connection as it is -/
theorem kept_writes {es : List Effect} (h : Kept held n) (hes : Writes es) : Kept held (n.effects es) := by
  induction es generalizing n with
  | nil => exact h
  | cons e es ih =>
    obtain ⟨he, hes⟩ := List.forall_mem_cons.1 hes
    refine ih ?_ hes
    rcases he with ⟨layer, text, rfl⟩ | ⟨call, rfl⟩
    · simp only [effect, reply]
      split
      · exact ⟨h.set, h.queue, h.agenda, h.verdicts, h.sockets, h.placed⟩
      · refine Kept.deliver ?_ layer _
        exact ⟨h.set, h.queue, h.agenda, h.verdicts, h.sockets, h.placed⟩
    · exact ⟨h.set, h.queue, h.agenda, h.verdicts, h.sockets, h.placed⟩

/-- the connection is closed, and the channel is gone -/
theorem kept_close (h : Kept held n) {c : Connection} (hline : n.line = .up c) (hrest : c.business = .rest)
    (s : Settings) :
    Kept (heldAfter held ((n.fresh (n.asked s .close)).filterMap WireEvent.fate?)) (n.asked s .close) ∧
      Deaf (n.onConnection (Connection.close n.world.now)) := by
  obtain ⟨phase?, hc⟩ := h.placed c hline
  have hcloses := Connection.closes_close n.world.now hc hrest
  have hkept := h.onConnection (f := Connection.close n.world.now) (b := .rest) hline
    (congrArg Business.alarms hrest.symm) (hcloses.books.trans hcloses.business.symm) hcloses.still
    (le_of_eq (congrArg Business.handshakes (hrest.trans hcloses.business.symm))) ⟨phase?, hcloses.placed⟩
    (hcloses.sockets.trans hcloses.spent.sockets.symm)
  have hup : (n.onConnection (Connection.close n.world.now)).line = .up (Connection.close n.world.now c).1 :=
    (onConnection_up hline _).2.1
  have hset := hkept.set
  have hverdicts := hkept.verdicts
  have hsockets := hkept.sockets
  have harmed := hkept.armed
  rw [hup, Line.business, hcloses.business] at hset hverdicts harmed
  rw [hup, Line.sockets, hcloses.spent.sockets] at hsockets
  refine ⟨⟨hset, hkept.queue, hkept.agenda, hverdicts, hsockets, fun c' hc' => ?_⟩, ?_⟩
  · cases hc'
  · exact deaf_of_spent hup hcloses.spent harmed.eq_nil

/-! ## A request and its answer -/

theorem drifts_getLastD (ready : Network → Bool) (fuel : Nat) (n : Network) :
    Drifts n ((turns ready fuel n).getLastD n) := by
  induction fuel generalizing n with
  | zero => exact drifts_refl n
  | succ fuel ih =>
    rw [turns]
    split
    · exact drifts_refl n
    · split
      · rename_i n' hnext
        rw [List.getLastD_cons]
        exact (drifts_next hnext).trans (ih n')
      · exact drifts_refl n

/-- how the line stands in a turn between two requests -/
def Rests : Turn → Network → Prop
  | .unopened, n => n.line = .idle
  | .due upgraded, n => ∃ c, n.line = .up c ∧ c.business = .rest ∧ (upgraded = false → c.upgrades = [])
  | .free upgraded, n => ∃ c, n.line = .up c ∧ c.business = .rest ∧ (upgraded = false → c.upgrades = [])
  | .broken, n => ∃ c, n.line = .up c ∧ c.business = .rest
  | .closed, n => n.line = .idle

theorem Rests.up {φ : Turn} (h : Rests φ n) (hopen : φ.isOpen = true) :
    ∃ c, n.line = .up c ∧ c.business = .rest := by
  cases φ with
  | unopened => cases hopen
  | due upgraded =>
    obtain ⟨c, hline, hrest, -⟩ := h
    exact ⟨c, hline, hrest⟩
  | free upgraded =>
    obtain ⟨c, hline, hrest, -⟩ := h
    exact ⟨c, hline, hrest⟩
  | broken => exact h
  | closed => cases hopen

theorem Rests.idle {φ : Turn} (h : Rests φ n) (hclosed : φ.isOpen = false) : n.line = .idle := by
  cases φ with
  | unopened => exact h
  | closed => exact h
  | _ => cases hclosed

/-- an answer leads on from a line that rests, or breaks the session off -/
theorem rests_onward {β : Type} {ψ : Turn} (x : Except String β) {c : Connection} (hline : n.line = .up c)
    (hrest : c.business = .rest) (hψ : Rests ψ n) : Rests (Turn.onward ψ x) n := by
  cases x with
  | ok a => exact hψ
  | error message => exact ⟨c, hline, hrest⟩

/-- a request is answered, the books are kept, and the line rests -/
structure Answered (s : Settings) (held : List Layer) (r : Request) (ψ : Turn) (n : Network) : Prop where
  settled : settled r (handle s r n).2 = true
  kept : Kept (heldAfter held (n.requestFates s r)) (handle s r n).2
  rests : Rests ψ (handle s r n).2
  deaf : r = .close → Deaf (n.onConnection (Connection.close n.world.now))

/-- **Waiting brings the answer.** -/
theorem kept_handle {r : Request}
    (h : Kept (heldAfter held ((n.fresh (n.asked s r)).filterMap WireEvent.fate?)) (n.asked s r))
    (hn : Awaits r (n.asked s r)) :
    Kept (heldAfter held (n.requestFates s r)) (handle s r n).2 ∧ Awaits r (handle s r n).2 ∧
      settled r (handle s r n).2 = true := by
  rw [handle_eq_getLastD, during, List.getLastD_cons, requestFates, heldAfter_append]
  exact settled_turns h hn (.inr (fuel_enough _))

theorem business_rest {c : Connection} (hidle : c.underWay = []) (hunread : c.pending = none) : c.business = .rest := by
  rw [Connection.business_unread hunread, hidle]
  rfl

theorem answered_openChannel (h : Kept held n) (hline : n.line = .idle) {ψ : Turn}
    (hafter : Turn.after .unopened ⟨.openChannel, (handle s .openChannel n).1⟩ = some ψ) :
    Answered s held .openChannel ψ n := by
  have hasked : Awaits .openChannel (n.asked s .openChannel) := .inl ⟨(asked_dial s n).1, dialed_dial s n⟩
  obtain ⟨hkept, hwaits, hsettled⟩ := kept_handle (r := .openChannel) (kept_dial h hline s) hasked
  refine ⟨hsettled, hkept, ?_, fun hr => by cases hr⟩
  rcases hwaits with ⟨-, hdialed⟩ | ⟨c, hup, hrest, hunstarted, hdialed⟩ | ⟨hidle, message, hdialed⟩
  · rw [Network.settled, hdialed] at hsettled
    cases hsettled
  · have hready : (handle s .openChannel n).1 = .ready := by
      simp only [handle] at hdialed ⊢
      rw [hdialed]
    rw [hready] at hafter
    cases hafter
    exact ⟨c, hup, hrest, fun _ => hunstarted⟩
  · have hfailed : (handle s .openChannel n).1 = .failed message := by
      simp only [handle] at hdialed ⊢
      rw [hdialed]
    rw [hfailed] at hafter
    cases hafter
    exact hidle

theorem answered_read (h : Kept held n) {upgraded : Bool} (hn : Rests (.due upgraded) n) {ψ : Turn}
    (hafter : Turn.after (.due upgraded) ⟨.read, (handle s .read n).1⟩ = some ψ) : Answered s held .read ψ n := by
  obtain ⟨c, hline, hrest, hunstarted⟩ := hn
  obtain ⟨hasked, hwaits⟩ := kept_read h hline hrest s
  obtain ⟨hkept, ⟨c', hup, hidle, hanswer⟩, hsettled⟩ := kept_handle hasked hwaits
  have hrest' : c'.business = .rest := business_rest hidle (hanswer.1 hsettled)
  cases hafter
  refine ⟨hsettled, hkept, rests_onward _ hup hrest' ⟨c', hup, hrest', fun hupgraded => ?_⟩, fun hr => by cases hr⟩
  have hdrifts : Drifts n (handle s .read n).2 := by
    rw [handle_eq_getLastD, during, List.getLastD_cons]
    exact (drifts_read s n).trans (drifts_getLastD _ _ _)
  have hon := hdrifts.line
  rw [hline, hup] at hon
  obtain ⟨c'', hc'', hon⟩ := hon
  cases hc''
  exact hon.unstarted (hunstarted hupgraded)

theorem answered_startTls (h : Kept held n) (hn : Rests (.free false) n) {ψ : Turn}
    (hafter : Turn.after (.free false) ⟨.startTls, (handle s .startTls n).1⟩ = some ψ) :
    Answered s held .startTls ψ n := by
  obtain ⟨c, hline, hrest, hunstarted⟩ := hn
  obtain ⟨hasked, hwaits⟩ := kept_startTls h hline hrest (hunstarted rfl) s
  obtain ⟨hkept, ⟨c', hup, hunread, hupgraded⟩, hsettled⟩ := kept_handle hasked hwaits
  have hrest' : c'.business = .rest := business_rest (hupgraded.1 hsettled) hunread
  cases hafter
  refine ⟨hsettled, hkept, rests_onward _ hup hrest' ⟨c', hup, hrest', fun htrue => ?_⟩, fun hr => by cases hr⟩
  cases htrue

/-- a request that nobody has to wait for -/
theorem answered_atOnce {r : Request} {ψ : Turn} (hsettled : settled r (n.asked s r) = true)
    (hkept : Kept held (n.asked s r)) (hfates : (n.fresh (n.asked s r)).filterMap WireEvent.fate? = [])
    (hwaits : Awaits r (n.asked s r)) (hrests : Rests ψ (n.asked s r)) (hr : r ≠ .close) : Answered s held r ψ n := by
  have hasked : (handle s r n).2 = n.asked s r := by
    rw [handle_eq_getLastD, during, List.getLastD_cons, waits, turns, if_pos hsettled]
    rfl
  have hheld : Kept (heldAfter held ((n.fresh (n.asked s r)).filterMap WireEvent.fate?)) (n.asked s r) := by
    rw [hfates]
    exact hkept
  obtain ⟨hkept', -, hsettled'⟩ := kept_handle hheld hwaits
  exact ⟨hsettled', hkept', by rw [hasked]; exact hrests, fun h => absurd h hr⟩

theorem Rests.of_line {φ : Turn} {n' : Network} (h : Rests φ n) (hline : n'.line = n.line) : Rests φ n' := by
  cases φ <;> simp only [Rests, hline] <;> exact h

theorem answered_writes {r : Request} {ψ : Turn} (es : List Effect) (h : Kept held n) (hes : Writes es)
    (hasked : n.asked s r = n.effects es) (hsettled : settled r (n.asked s r) = true)
    (hwaits : Awaits r (n.asked s r)) (hrests : Rests ψ n) (hr : r ≠ .close) : Answered s held r ψ n := by
  refine answered_atOnce hsettled ?_ ?_ hwaits ?_ hr
  · rw [hasked]
    exact kept_writes h hes
  · rw [hasked, fates_effects]
    refine List.filterMap_eq_nil_iff.2 fun e he => ?_
    rcases hes e he with ⟨layer, text, rfl⟩ | ⟨call, rfl⟩ <;> rfl
  · exact hrests.of_line (by rw [hasked]; exact effects_line n es)

theorem writes_writeRaw (text : String) (c : Connection) : Writes (c.writeRaw text).2 := by
  unfold Connection.writeRaw
  split
  · split
    · exact List.forall_mem_nil _
    · intro e he
      exact .inl ⟨_, _, List.mem_singleton.1 he⟩
  · exact List.forall_mem_nil _

theorem writes_writeLine (line : String) (secret : Bool) (c : Connection) : Writes (c.writeLine line secret).2 := by
  intro e he
  rcases List.mem_cons.1 he with he | he
  · exact .inr ⟨_, he⟩
  · exact writes_writeRaw _ c e he

theorem answered_write (h : Kept held n) {upgraded : Bool} (hn : Rests (.free upgraded) n) {r : Request}
    {x : Except String Unit} {es : List Effect} (hes : Writes es) (hasked : n.asked s r = n.effects es)
    (hsettled : settled r (n.asked s r) = true) (hwaits : Awaits r (n.asked s r)) (hr : r ≠ .close) :
    Answered s held r (Turn.onward (.due upgraded) x) n := by
  obtain ⟨c, hline, hrest, hunstarted⟩ := hn
  exact answered_writes es h hes hasked hsettled hwaits (rests_onward x hline hrest ⟨c, hline, hrest, hunstarted⟩) hr

theorem answered_close (h : Kept held n) {φ ψ : Turn} (hn : Rests φ n) (hopen : φ.isOpen = true)
    (hψ : ψ.isOpen = false) : Answered s held .close ψ n := by
  obtain ⟨c, hline, hrest⟩ := hn.up hopen
  obtain ⟨hasked, hdeaf⟩ := kept_close h hline hrest s
  obtain ⟨hkept, -, hsettled⟩ := kept_handle (r := .close) hasked trivial
  refine ⟨hsettled, hkept, ?_, fun _ => hdeaf⟩
  cases ψ <;> first | exact rfl | cases hψ

/-- **Every request that is in turn** is answered, and the books are kept. -/
theorem answered_request (h : Kept held n) {φ ψ : Turn} (hn : Rests φ n) {r : Request}
    (hafter : Turn.after φ ⟨r, (handle s r n).1⟩ = some ψ) : Answered s held r ψ n := by
  cases r with
  | openChannel =>
    cases φ with
    | unopened => exact answered_openChannel h hn hafter
    | _ => cases hafter
  | read =>
    cases φ with
    | due upgraded => exact answered_read h hn hafter
    | _ => cases hafter
  | startTls =>
    cases φ with
    | free upgraded =>
      cases upgraded with
      | false => exact answered_startTls h hn hafter
      | true => cases hafter
    | _ => cases hafter
  | writeLine text secret =>
    cases φ with
    | free upgraded =>
      cases hafter
      obtain ⟨c, hline, -, -⟩ := id hn
      refine answered_write h hn (writes_writeLine text secret c) ?_ rfl trivial (by simp)
      simp only [asked, handle, hline]
    | _ => cases hafter
  | writeRaw text =>
    cases φ with
    | free upgraded =>
      cases hafter
      obtain ⟨c, hline, -, -⟩ := id hn
      refine answered_write h hn (writes_writeRaw text c) ?_ rfl trivial (by simp)
      simp only [asked, handle, hline]
    | _ => cases hafter
  | isSecure =>
    cases φ with
    | free upgraded =>
      cases hafter
      exact answered_writes [] h (List.forall_mem_nil _) rfl rfl trivial hn (by simp)
    | _ => cases hafter
  | close =>
    cases φ with
    | unopened => cases hafter
    | closed => cases hafter
    | _ =>
      cases hafter
      exact answered_close h hn rfl rfl
  | log call =>
    obtain rfl : φ = ψ := Option.some.inj ((Turn.after_of_not_channel φ _ rfl).symm.trans hafter)
    exact answered_writes [.log call] h (by simp [Writes]) rfl rfl trivial hn (by simp)
  | clock =>
    obtain rfl : φ = ψ := Option.some.inj ((Turn.after_of_not_channel φ _ rfl).symm.trans hafter)
    exact answered_writes [] h (List.forall_mem_nil _) rfl rfl trivial hn (by simp)
  | freshId =>
    obtain rfl : φ = ψ := Option.some.inj ((Turn.after_of_not_channel φ _ rfl).symm.trans hafter)
    have hkept : Kept held (n.asked s .freshId) := ⟨h.set, h.queue, h.agenda, h.verdicts, h.sockets, h.placed⟩
    have hfresh : n.fresh (n.asked s .freshId) = [] := fresh_of_same rfl
    exact answered_atOnce rfl hkept (by rw [hfresh]; rfl) trivial (hn.of_line rfl) (by simp)

/-! ## Sessions -/

/-- what holds all along a session that closes what it has opened, and behind it -/
structure Ends (s : Settings) (held : List Layer) (p : Script α) (n : Network) : Prop where
  answered : Along s (fun r _ n' => settled r n' = true) p n
  deaf : Along s (fun r m _ => r = .close → Deaf (m.onConnection (Connection.close m.world.now))) p n
  kept : Kept (heldAfter held (sessionFates s p n)) (p.run (handle s) n).2
  idle : (p.run (handle s) n).2.line = .idle

/-- **A session from one of its turns on**, by induction on what is left of it. -/
theorem ends_of_concludes {φ : Turn} {p : Script α} (hp : Concludes φ p) (h : Kept held n) (hn : Rests φ n) :
    Ends s held p n := by
  induction p generalizing φ n held with
  | done a =>
    obtain ⟨ψ, hfollow, hclosed⟩ := hp [] a (.done a)
    cases hfollow
    exact ⟨trivial, trivial, h, hn.idle hclosed⟩
  | ask r next ih =>
    obtain ⟨ψ, hafter, hnext⟩ := hp.after (handle s r n).1
    have hanswered := answered_request h hn hafter
    have hrest := ih (handle s r n).1 hnext hanswered.kept hanswered.rests
    refine ⟨⟨hanswered.settled, hrest.answered⟩, ⟨hanswered.deaf, hrest.deaf⟩, ?_, hrest.idle⟩
    rw [sessionFates, heldAfter_append]
    exact hrest.kept

/-- a session over a network on which nothing is open leaves nothing open, and so does the next one -/
theorem released_of_concludes {p : Script α} (hp : Concludes .unopened p) (h : Kept [] n) (hn : n.line = .idle) :
    Released s p n ∧ Kept [] (p.run (handle s) n).2 ∧ (p.run (handle s) n).2.line = .idle := by
  have hends : Ends s [] p n := ends_of_concludes hp h hn
  have hsockets : heldAfter [] (sessionFates s p n) = [] := by
    rw [← hends.kept.sockets, hends.idle]
    rfl
  have harmed := hends.kept.armed
  rw [hends.idle] at harmed
  have hkept := hends.kept
  rw [hsockets] at hkept
  exact ⟨⟨hends.answered, hsockets, harmed.eq_nil, hends.deaf, foldl_happen_idle hends.idle⟩, hkept, hends.idle⟩

/-- **No session leaves a socket or an alarm behind.** With any settings, any message and any relays, deliveries and
tries get an answer to each of their requests and end with a result; then each socket that they opened has been
destroyed or was closed by the relay, no alarm is set, and nothing that happens later changes anything. -/
theorem sessions_released (s : Settings) (w : World) (relays : List Relay) :
    (∀ (m : Message) (offset : Int) (dating : Session.Dating),
      Released s (sendMail s m offset dating) (start w relays)) ∧
    Released s (verifyRelay s) (start w relays) :=
  ⟨fun m offset dating => (released_of_concludes (concludes_sendMail s m offset dating) (kept_start w relays) rfl).1,
    (released_of_concludes (concludes_verifyRelay s) (kept_start w relays) rfl).1⟩

/-- a socket that nobody answers for is destroyed when the time is up -/
example (s : Settings) (w : World) (relay : Relay) :
    requestFates s .openChannel (start w [{ relay with welcome := .hangs }]) =
      [.opened .plain, .destroyed .plain] := rfl

end EnquiryMail.Net.Network
