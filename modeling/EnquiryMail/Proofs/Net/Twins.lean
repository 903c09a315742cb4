/-
Two networks side by side. They have the same relays to come, the same to come on the connections under way, and
connections that differ in their credentials at most; what they have taken down differs as the books allow. Sessions
that run in parallel are answered alike by them.

- `Books`: what two networks may have taken down, and in what their surroundings may differ.
- `Twin`: two networks side by side; `twin_effects`, `twin_happen`, `twin_wait` keep them so.
- `sustains_handle`: two networks answer alike what may stand for each other.
-/
import EnquiryMail.Proofs.Connection.Masked
import EnquiryMail.Proofs.Net.Own
import EnquiryMail.Proofs.Net.Release

namespace EnquiryMail.Net

open EnquiryMail.Smtp
open Connection (Outcome Blind)

/-- a line whose connection has no credentials -/
def Line.masked : Line → Line
  | .up c => .up c.masked
  | l => l

/-- what two networks may have taken down on the wire, given the secret lines so far, newest first, and in what their
surroundings may differ -/
structure Books (w : Leeway) where
  wires : List (String × String) → List WireEvent → List WireEvent → Prop
  worlds : World → World → Prop
  same {ps : List (String × String)} {l l' : List WireEvent} (e : WireEvent) (h : wires ps l l') :
    wires ps (e :: l) (e :: l')
  /-- a secret line need not get through -/
  unwritten {ps : List (String × String)} {l l' : List WireEvent} (p : String × String) (h : wires ps l l') :
    wires (p :: ps) l l'
  secret {ps : List (String × String)} {l l' : List WireEvent} (layer : Layer) (p : String × String)
    (h : wires ps l l') : wires (p :: ps) (.wrote layer (p.1 ++ "\r\n") :: l) (.wrote layer (p.2 ++ "\r\n") :: l')
  raw {ps : List (String × String)} {l l' : List WireEvent} {text text' : String} (layer : Layer)
    (htext : w.raws text text') (h : wires ps l l') : wires ps (.wrote layer text :: l) (.wrote layer text' :: l')
  now {v v' : World} (h : worlds v v') : v.now = v'.now
  anchor {v v' : World} (h : worlds v v') (s : Settings) : trustAnchor v s = trustAnchor v' s
  jump {v v' : World} (h : worlds v v') (t : Int) : worlds { v with now := t } { v' with now := t }
  noted {v v' : World} (h : worlds v v') (c : Log.Call) : worlds (v.log c) (v'.log c)
  logged {v v' : World} {c c' : Log.Call} (hc : w.calls c c') (h : worlds v v') : worlds (v.log c) (v'.log c')
  fresh {v v' : World} (h : worlds v v') : w.ids v.fresh.1 v'.fresh.1 ∧ worlds v.fresh.2 v'.fresh.2

namespace Network

variable {w : Leeway} {B : Books w} {ps qs : List (String × String)} {r : Request} {n n' m m' : Network}

/-- whoever waits for the answer to a request has been told the same in both -/
def Hears : Request → Network → Network → Prop
  | .openChannel, n, n' => n.dialed = n'.dialed
  | .read, n, n' => n.answer = n'.answer
  | .startTls, n, n' => n.upgraded = n'.upgraded
  | _, _, _ => True

/-- two networks before a connection is asked for -/
structure Poised (B : Books w) (ps : List (String × String)) (n n' : Network) : Prop where
  relays : n.relays = n'.relays
  wires : B.wires ps n.wire n'.wire
  worlds : B.worlds n.world n'.world

/-- two networks side by side while a request is answered -/
structure Twin (B : Books w) (ps : List (String × String)) (r : Request) (n n' : Network) : Prop
    extends Poised B ps n n' where
  line : n.line.masked = n'.line.masked
  settings : n.settings.masked = n'.settings.masked
  replies : n.replies = n'.replies
  greeting : n.greeting = n'.greeting
  shaking : n.shaking = n'.shaking
  soon : n.soon = n'.soon
  later : n.later = n'.later
  hears : Hears r n n'

theorem Hears.settled (h : Hears r n n') : settled r n = settled r n' := by
  cases r with
  | openChannel => exact congrArg Option.isSome h
  | read => exact congrArg Option.isSome h
  | startTls => exact congrArg Option.isSome h
  | _ => rfl

/-- the next things on both connections are the same -/
theorem Twin.first? (h : Twin B ps r n n') : n.first? = n'.first? := by
  simp only [Network.first?, h.soon, h.later, B.now h.worlds]

/-- what is told to nobody who waits -/
theorem Twin.still (h : Twin B ps r n n') : Twin B ps .close n n' := { h with hears := trivial }

/-! ## Carrying effects out -/

theorem Twin.record (h : Twin B ps r n n') {e e' : WireEvent} (hwires : B.wires qs (e :: n.wire) (e' :: n'.wire)) :
    Twin B qs r (n.record e) (n'.record e') := by
  refine { h with wires := hwires, hears := ?_ }
  cases r <;> exact h.hears

theorem Twin.enqueue (h : Twin B ps r n n') (x : Coming) : Twin B ps r (n.enqueue x) (n'.enqueue x) := by
  refine { h with soon := ?_, hears := ?_ }
  · rw [soon_enqueue, soon_enqueue, h.soon]
  · cases r <;> exact h.hears

theorem Twin.schedule (h : Twin B ps r n n') (delay : Int) (x : Coming) :
    Twin B ps r (n.schedule delay x) (n'.schedule delay x) := by
  refine { h with later := ?_, hears := ?_ }
  · rw [later_schedule, later_schedule, h.later, B.now h.worlds]
  · cases r <;> exact h.hears

theorem Twin.deliver (h : Twin B ps r n n') (layer : Layer) {d d' : Delivery} (hd : d = d') :
    Twin B ps r (n.deliver layer d) (n'.deliver layer d') := by
  subst hd
  unfold Network.deliver
  split
  · exact h
  · split
    · exact h.schedule _ _
    · exact h.enqueue _

theorem Twin.reply (h : Twin B ps r n n') (layer : Layer) : Twin B ps r (n.reply layer) (n'.reply layer) := by
  unfold Network.reply
  rw [← h.replies]
  split
  · exact h
  · refine Twin.deliver ?_ layer rfl
    refine { h with replies := rfl, hears := ?_ }
    cases r <;> exact h.hears

theorem Twin.shake (h : Twin B ps r n n') : Twin B ps r n.shake n'.shake := by
  unfold Network.shake
  rw [← h.shaking]
  split
  · exact h.enqueue _
  · exact h.enqueue _
  · exact h

theorem Twin.effect (h : Twin B ps r n n') (e : Effect) : Twin B ps r (n.effect e) (n'.effect e) := by
  cases e with
  | wrote layer text => exact (h.record (B.same _ h.wires)).reply layer
  | shake hs => exact (h.record (B.same _ h.wires)).shake
  | destroyed layer => exact h.record (B.same _ h.wires)
  | arm a delay => exact h.schedule delay _
  | disarm a =>
    refine { h with later := ?_, hears := ?_ }
    · rw [later_disarm, later_disarm, h.later]
    · cases r <;> exact h.hears
  | answered id x =>
    refine { h with hears := ?_ }
    cases r <;> first | rfl | exact h.hears
  | upgraded x =>
    refine { h with hears := ?_ }
    cases r <;> first | rfl | exact h.hears
  | log c =>
    refine { h with worlds := B.noted h.worlds c, hears := ?_ }
    cases r <;> exact h.hears

/-- **Effects** carried out on both sides -/
theorem twin_effects (h : Twin B ps r n n') (es : List Effect) : Twin B ps r (n.effects es) (n'.effects es) := by
  induction es generalizing n n' with
  | nil => exact h
  | cons e es ih => exact ih (h.effect e)

theorem Twin.on (h : Twin B ps r n n') (l l' : Line) (hline : l.masked = l'.masked) :
    Twin B ps r { n with line := l } { n' with line := l' } := by
  refine { h with line := hline, hears := ?_ }
  cases r <;> exact h.hears

/-- both connections do the same -/
theorem Twin.acts (h : Twin B ps r n n') {c c' : Connection} (hc : c.masked = c'.masked) (es : List Effect) :
    Twin B ps r (({ n with line := .up c } : Network).effects es) (({ n' with line := .up c' } : Network).effects es) :=
  twin_effects (h.on (.up c) (.up c') (congrArg Line.up hc)) es

/-- the connections, when there is one on one side -/
theorem Twin.up (h : Twin B ps r n n') {c : Connection} (hline : n.line = .up c) :
    ∃ c', n'.line = .up c' ∧ c.masked = c'.masked := by
  have hmasked := h.line
  rw [hline] at hmasked
  cases hline' : n'.line with
  | idle =>
    rw [hline'] at hmasked
    cases hmasked
  | dialing =>
    rw [hline'] at hmasked
    cases hmasked
  | up c' =>
    rw [hline'] at hmasked
    exact ⟨c', rfl, Line.up.inj hmasked⟩

theorem Twin.idle (h : Twin B ps r n n') (hline : n.line = .idle) : n'.line = .idle := by
  have hmasked := h.line
  rw [hline] at hmasked
  cases hline' : n'.line <;> rw [hline'] at hmasked <;> first | rfl | cases hmasked

theorem Twin.dialing (h : Twin B ps r n n') (hline : n.line = .dialing) : n'.line = .dialing := by
  have hmasked := h.line
  rw [hline] at hmasked
  cases hline' : n'.line <;> rw [hline'] at hmasked <;> first | rfl | cases hmasked

/-- a transition that does not look at the credentials -/
theorem Twin.onConnection (h : Twin B ps r n n') {f : Connection → Outcome} (hf : Blind f) :
    Twin B ps r (n.onConnection f) (n'.onConnection f) := by
  cases hline : n.line with
  | idle =>
    rw [onConnection_down (n := n) (by simp [hline]), onConnection_down (n := n') (by simp [h.idle hline])]
    exact h
  | dialing =>
    rw [onConnection_down (n := n) (by simp [hline]), onConnection_down (n := n') (by simp [h.dialing hline])]
    exact h
  | up c =>
    obtain ⟨c', hline', hc⟩ := h.up hline
    obtain ⟨hnext, hes⟩ := hf.alike hc
    rw [onConnection_of_line hline, onConnection_of_line hline', ← hes]
    exact h.acts hnext _

/-! ## What happens -/

theorem Twin.dialed (h : Twin B ps r n n') (x : Except String Unit) :
    Twin B ps r { n with dialed := some x } { n' with dialed := some x } := by
  refine { h with hears := ?_ }
  cases r <;> first | rfl | exact h.hears

theorem Twin.connected (h : Twin B ps r n n') {c c' : Connection} (hc : c.masked = c'.masked) (es : List Effect) :
    Twin B ps r (n.dialedAs (.connected c, es)) (n'.dialedAs (.connected c', es)) :=
  ((h.acts hc es).deliver .plain h.greeting).dialed (.ok ())

theorem Twin.failed (h : Twin B ps r n n') (message : String) (es : List Effect) :
    Twin B ps r (n.dialedAs (.failed message, es)) (n'.dialedAs (.failed message, es)) :=
  (twin_effects (h.on .idle .idle rfl) es).dialed (.error message)

/-- asking for a socket comes to its end; what is logged and told does not depend on the credentials -/
theorem Twin.happen_dialing (h : Twin B ps r n n') (hline : n.line = .dialing) (x : Coming) :
    Twin B ps r (n.happen (n.number, x)) (n'.happen (n'.number, x)) := by
  rw [Network.happen_dialing hline, Network.happen_dialing (h.dialing hline)]
  cases x with
  | accepted =>
    have hes : (Dial.accepted n.settings (.start n.settings)).2 =
        (Dial.accepted n'.settings (.start n'.settings)).2 :=
      (congrArg (fun s => (Dial.accepted s (.start s)).2) h.settings :)
    have hstart : (Connection.start n.settings).masked = (Connection.start n'.settings).masked :=
      congrArg Connection.start h.settings
    have hconnected := h.connected hstart (Dial.accepted n.settings (.start n.settings)).2
    rw [show n'.dialedAs (.connected (.start n'.settings), (Dial.accepted n.settings (.start n.settings)).2) =
      n'.dialedAs (Dial.accepted n'.settings (.start n'.settings)) from congrArg _ (congrArg _ hes)] at hconnected
    exact hconnected
  | refused message => exact h.failed message _
  | alarm a =>
    cases a with
    | connect =>
      have hexpired : Dial.expired n.settings.masked true = Dial.expired n'.settings.masked true := by
        rw [h.settings]
      show Twin B ps r (n.dialedAs (Dial.expired n.settings.masked true))
        (n'.dialedAs (Dial.expired n'.settings.masked true))
      rw [← hexpired]
      exact h.failed _ _
    | _ => exact h
  | _ => exact h

/-- **A thing happens** on both connections under way. -/
theorem twin_happen (h : Twin B ps r n n') (x : Coming) :
    Twin B ps r (n.happen (n.number, x)) (n'.happen (n'.number, x)) := by
  cases hline : n.line with
  | idle =>
    rw [happen_idle hline, happen_idle (h.idle hline)]
    exact h
  | dialing => exact h.happen_dialing hline x
  | up c =>
    obtain ⟨c', hline', hc⟩ := h.up hline
    obtain ⟨hnext, hes⟩ := (Connection.blind_meets n.world.now x).alike hc
    rw [happen_up hline, happen_up hline', ← B.now h.worlds, ← hes]
    exact h.acts hnext _

/-! ## Waiting -/

theorem twin_comes (h : Twin B ps r n n') {x x' : Coming} (hx : Comes n x m) (hx' : Comes n' x' m') :
    x = x' ∧ Twin B ps r m m' := by
  have hfirst := hx'.first
  rw [← h.first?, hx.first] at hfirst
  obtain ⟨rfl, hnow, hsoon, hlater⟩ : x = x' ∧ m.world.now = m'.world.now ∧ m.soon = m'.soon ∧ m.later = m'.later := by
    simpa using hfirst
  refine ⟨rfl, ?_⟩
  obtain ⟨q, a, now, rfl⟩ := hx.frame
  obtain ⟨q', a', now', rfl⟩ := hx'.frame
  obtain rfl : now = now' := hnow
  refine { h with worlds := B.jump h.worlds now, soon := hsoon, later := hlater, hears := ?_ }
  cases r <;> exact h.hears

/-- **Two waits that both end with an answer** end alike, by induction on what one of them may still take. -/
theorem twin_wait {fuel fuel' : Nat} (h : Twin B ps r n n') (hend : settled r (wait (settled r) fuel n) = true)
    (hend' : settled r (wait (settled r) fuel' n') = true) :
    Twin B ps r (wait (settled r) fuel n) (wait (settled r) fuel' n') := by
  induction fuel using Nat.strong_induction_on generalizing fuel' n n' with
  | _ fuel ih =>
    cases hopen : settled r n with
    | true =>
      rw [wait_of_settled hopen, wait_of_settled (h.hears.settled ▸ hopen)]
      exact h
    | false =>
      have hopen' : settled r n' = false := h.hears.settled ▸ hopen
      obtain ⟨x, m, less, hless, hx, hwait⟩ := comes_of_wait hopen hend
      obtain ⟨x', m', less', -, hx', hwait'⟩ := comes_of_wait hopen' hend'
      obtain ⟨rfl, hm⟩ := twin_comes h hx hx'
      rw [hwait] at hend ⊢
      rw [hwait'] at hend' ⊢
      rw [← hx.number] at hend ⊢
      rw [← hx'.number] at hend' ⊢
      exact ih less hless (twin_happen hm x) hend hend'

/-! ## Requests -/

variable {s s' : Settings} {φ ψ : Turn}

/-- what belongs to earlier connections does not belong to the one that is asked for -/
theorem soon_dialing (hn : Dated n) (s : Settings) : (n.dialing s).soon = [] := by
  apply List.filterMap_eq_nil_iff.2
  intro x hx
  exact own?_eq_none.2 (Nat.ne_of_lt (Nat.lt_succ_of_le (hn.queue x hx)))

theorem later_dialing (hn : Dated n) (s : Settings) :
    (n.dialing s).later = [(n.world.now + s.connectTimeout.delay, .alarm .connect)] := by
  have hnone : Agenda.pick (own? (n.number + 1)) n.agenda = [] := by
    apply List.filterMap_eq_nil_iff.2
    intro e he
    rw [own?_eq_none.2 (Nat.ne_of_lt (Nat.lt_succ_of_le (hn.agenda e he)))]
    rfl
  show Agenda.pick (own? (n.number + 1)) (n.agenda.set _ (n.number + 1, _)) = _
  rw [Agenda.pick_set, hnone, own?_self]
  rfl

/-- **A connection is asked for** on both sides. -/
theorem Poised.dial (h : Poised B ps n n') (hn : Dated n) (hn' : Dated n') (hs : s.masked = s'.masked) :
    Twin B ps .openChannel (n.dial s) (n'.dial s') := by
  have hname : s.relayName = s'.relayName := (congrArg Settings.relayName hs :)
  have hlimit : s.connectTimeout = s'.connectTimeout := (congrArg Settings.connectTimeout hs :)
  have hdialing : Twin B ps .openChannel (n.dialing s) (n'.dialing s') :=
    { relays := congrArg List.tail h.relays
      wires := by
        show B.wires ps (.connect s.relayName :: n.wire) (.connect s'.relayName :: n'.wire)
        rw [hname]
        exact B.same _ h.wires
      worlds := h.worlds
      line := rfl
      settings := hs
      replies := congrArg (fun relays => (relays.headD Relay.nobody).replies) h.relays
      greeting := congrArg (fun relays => (relays.headD Relay.nobody).greeting) h.relays
      shaking := congrArg (fun relays => (relays.headD Relay.nobody).shaking) h.relays
      soon := by rw [soon_dialing hn, soon_dialing hn']
      later := by rw [later_dialing hn, later_dialing hn', B.now h.worlds, hlimit]
      hears := rfl }
  rw [dial_eq, dial_eq, ← h.relays]
  split
  · exact hdialing.enqueue _
  · exact hdialing.enqueue _
  · exact hdialing.schedule _ _
  · exact hdialing

theorem handle_eq_wait (s : Settings) (r : Request) (n : Network) :
    ∃ fuel, (handle s r n).2 = wait (settled r) fuel (n.asked s r) := by
  cases r with
  | openChannel => exact ⟨_, rfl⟩
  | read => exact ⟨_, rfl⟩
  | startTls => exact ⟨_, rfl⟩
  | _ => exact ⟨0, rfl⟩

/-- what is asked alike is answered alike, when it is answered -/
theorem twin_answered (h : Twin B ps r (n.asked s r) (n'.asked s' r)) (hend : settled r (handle s r n).2 = true)
    (hend' : settled r (handle s' r n').2 = true) : Twin B ps r (handle s r n).2 (handle s' r n').2 := by
  obtain ⟨fuel, hwait⟩ := handle_eq_wait s r n
  obtain ⟨fuel', hwait'⟩ := handle_eq_wait s' r n'
  rw [hwait] at hend ⊢
  rw [hwait'] at hend' ⊢
  exact twin_wait h hend hend'

theorem twin_asked_read (h : Twin B ps .close n n') : Twin B ps .read (n.asked s .read) (n'.asked s' .read) := by
  have hopen : Twin B ps .read { n with answer := none } { n' with answer := none } := { h with hears := rfl }
  have hasked := hopen.onConnection (Connection.blind_read n.world.now 0)
  show Twin B ps .read _ (({ n' with answer := none } : Network).onConnection (Connection.read n'.world.now 0))
  rw [← B.now h.worlds]
  exact hasked

theorem twin_asked_startTls (h : Twin B ps .close n n') (hs : s.masked = s'.masked) :
    Twin B ps .startTls (n.asked s .startTls) (n'.asked s' .startTls) := by
  have hopen : Twin B ps .startTls { n with upgraded := none } { n' with upgraded := none } := { h with hears := rfl }
  have hanchor : trustAnchor n.world s = trustAnchor n'.world s' := by
    rw [B.anchor h.worlds s]
    have hmasked := congrArg (trustAnchor n'.world) hs
    exact hmasked
  have hasked := hopen.onConnection (Connection.blind_startTls 0 (trustAnchor n.world s))
  show Twin B ps .startTls _
    (({ n' with upgraded := none } : Network).onConnection (Connection.startTls 0 (trustAnchor n'.world s')))
  rw [← hanchor]
  exact hasked

/-- a text is written on both sides, or on neither -/
theorem twin_writeRaw (h : Twin B ps .close n n') {c c' : Connection} (hc : c.masked = c'.masked) {text text' : String}
    (hwritten : ∀ layer, B.wires qs (.wrote layer text :: n.wire) (.wrote layer text' :: n'.wire))
    (hunwritten : B.wires qs n.wire n'.wire) :
    (c.writeRaw text).1 = (c'.writeRaw text').1 ∧
      Twin B qs .close (n.effects (c.writeRaw text).2) (n'.effects (c'.writeRaw text').2) := by
  have hstill : Twin B qs .close n n' := { h with wires := hunwritten }
  have hsocket : c.socket = c'.socket := (congrArg Connection.socket hc :)
  have hended : c.ended = c'.ended := (congrArg Connection.ended hc :)
  unfold Connection.writeRaw
  rw [← hsocket, ← hended]
  split
  · split
    · exact ⟨rfl, hstill⟩
    · exact ⟨rfl, (h.record (hwritten _)).reply _⟩
  · exact ⟨rfl, hstill⟩

/-- **A line is written** on both sides; where it is shown in the log it is the same. -/
theorem twin_writeLine (h : Twin B ps .close n n') {c c' : Connection} (hc : c.masked = c'.masked)
    {text text' : String} {secret : Bool} (htext : secret = false → text = text') :
    (c.writeLine text secret).1 = (c'.writeLine text' secret).1 ∧
      Twin B ((Request.writeLine text secret).secrets.zip (Request.writeLine text' secret).secrets ++ ps) .close
        (n.effects (c.writeLine text secret).2) (n'.effects (c'.writeLine text' secret).2) := by
  cases secret with
  | false =>
    obtain rfl := htext rfl
    have hlogged := h.effect (Connection.note .trace ("C: " ++ text) [])
    exact twin_writeRaw hlogged hc (fun layer => B.same _ hlogged.wires) hlogged.wires
  | true =>
    have hlogged := h.effect (Connection.note .trace ("C: " ++ "***") [])
    exact twin_writeRaw hlogged hc (fun layer => B.secret layer (text, text') hlogged.wires)
      (B.unwritten (text, text') hlogged.wires)

/-! ## Sessions -/

/-- two networks in a turn of a session -/
def Alike (B : Books w) (ps : List (String × String)) (φ : Turn) (n n' : Network) : Prop :=
  Poised B ps n n' ∧ (φ ≠ .unopened → Twin B ps .close n n')

theorem Twin.alike (h : Twin B ps r n n') : Alike B ps φ n n' := ⟨h.toPoised, fun _ => h.still⟩

theorem Alike.world (h : Alike B ps φ n n') {v v' : World} (hv : B.worlds v v') :
    Alike B ps φ { n with world := v } { n' with world := v' } :=
  ⟨{ h.1 with worlds := hv }, fun hφ => { h.2 hφ with worlds := hv }⟩

/-- two networks in a turn of a session, with their books kept -/
structure Abreast (B : Books w) (ps : List (String × String)) (φ : Turn) (n n' : Network) : Prop where
  alike : Alike B ps φ n n'
  kept : ∃ held, Kept held n
  kept' : ∃ held, Kept held n'
  rests : Rests φ n
  rests' : Rests φ n'
  dated : Dated n
  dated' : Dated n'

theorem Abreast.open (h : Abreast B ps φ n n') (hφ : φ.isOpen = true) : Twin B ps .close n n' :=
  h.alike.2 fun hunopened => by
    rw [hunopened] at hφ
    cases hφ

/-- while a channel is open both have a connection, alike -/
theorem Abreast.up (h : Abreast B ps φ n n') (hφ : φ.isOpen = true) :
    ∃ c c', n.line = .up c ∧ n'.line = .up c' ∧ c.masked = c'.masked := by
  obtain ⟨c, hline, -⟩ := h.rests.up hφ
  obtain ⟨c', hline', hc⟩ := (h.open hφ).up hline
  exact ⟨c, c', hline, hline', hc⟩

/-- what a session asks for in turn is answered on both sides -/
theorem Abreast.settled (h : Abreast B ps φ n n') {r r' : Request} {ψ' : Turn}
    (hψ : Turn.after φ ⟨r, (handle s r n).1⟩ = some ψ) (hψ' : Turn.after φ ⟨r', (handle s' r' n').1⟩ = some ψ') :
    Network.settled r (handle s r n).2 = true ∧ Network.settled r' (handle s' r' n').2 = true := by
  obtain ⟨held, hkept⟩ := h.kept
  obtain ⟨held', hkept'⟩ := h.kept'
  exact ⟨(answered_request hkept h.rests hψ).settled, (answered_request hkept' h.rests' hψ').settled⟩

/-- the same request on both sides -/
theorem Abreast.same (h : Abreast B ps φ n n') (hs : s.masked = s'.masked) {r : Request} (hr : r ≠ .freshId)
    {ψ' : Turn} (hψ : Turn.after φ ⟨r, (handle s r n).1⟩ = some ψ)
    (hψ' : Turn.after φ ⟨r, (handle s' r n').1⟩ = some ψ') :
    (handle s r n).1 = (handle s' r n').1 ∧
      Alike B (r.secrets.zip r.secrets ++ ps) ψ (handle s r n).2 (handle s' r n').2 := by
  obtain ⟨hend, hend'⟩ := h.settled hψ hψ'
  cases r with
  | openChannel =>
    cases φ with
    | unopened =>
      have htwin := twin_answered (h.alike.1.dial h.dated h.dated' hs) hend hend'
      refine ⟨?_, htwin.alike⟩
      have hears := htwin.hears
      simp only [Hears, handle_open] at hears
      rw [handle_open, handle_open, hears]
    | _ => cases hψ
  | read =>
    cases φ with
    | due upgraded =>
      have htwin := twin_answered (twin_asked_read (h.open rfl)) hend hend'
      exact ⟨(congrArg (fun x => x.getD (.error ConnectionError.closed.message)) htwin.hears :), htwin.alike⟩
    | _ => cases hψ
  | startTls =>
    cases φ with
    | free upgraded =>
      have htwin := twin_answered (twin_asked_startTls (h.open rfl) hs) hend hend'
      exact ⟨(congrArg (fun x => x.getD (.error ConnectionError.closed.message)) htwin.hears :), htwin.alike⟩
    | _ => cases hψ
  | writeLine text secret =>
    cases φ with
    | free upgraded =>
      obtain ⟨c, c', hline, hline', hc⟩ := h.up rfl
      simp only [handle, hline, hline']
      obtain ⟨hanswer, htwin⟩ := twin_writeLine (h.open rfl) hc (fun _ => rfl : secret = false → text = text)
      exact ⟨hanswer, htwin.alike⟩
    | _ => cases hψ
  | writeRaw text =>
    cases φ with
    | free upgraded =>
      obtain ⟨c, c', hline, hline', hc⟩ := h.up rfl
      simp only [handle, hline, hline']
      have htwin := h.open rfl
      have hwritten (layer : Layer) := B.same (.wrote layer text) htwin.wires
      obtain ⟨hanswer, hnext⟩ := twin_writeRaw htwin hc hwritten htwin.wires
      exact ⟨hanswer, hnext.alike⟩
    | _ => cases hψ
  | isSecure =>
    cases φ with
    | free upgraded =>
      obtain ⟨c, c', hline, hline', hc⟩ := h.up rfl
      have hsecure : c.secure = c'.secure := (congrArg Connection.secure hc :)
      simp only [handle, hline, hline']
      exact ⟨hsecure, (h.open rfl).alike⟩
    | _ => cases hψ
  | close =>
    have hopen : φ.isOpen = true := by
      cases φ <;> first | rfl | cases hψ
    have htwin := h.open hopen
    have hcloses := htwin.onConnection (Connection.blind_close n.world.now)
    refine ⟨rfl, ?_⟩
    show Alike B ps ψ _ { n'.onConnection (Connection.close n'.world.now) with line := .idle }
    rw [← B.now htwin.worlds]
    exact (hcloses.on .idle .idle rfl).alike
  | log c =>
    obtain rfl : φ = ψ := Option.some.inj ((Turn.after_of_not_channel φ _ rfl).symm.trans hψ)
    exact ⟨rfl, h.alike.world (B.noted h.alike.1.worlds c)⟩
  | clock =>
    obtain rfl : φ = ψ := Option.some.inj ((Turn.after_of_not_channel φ _ rfl).symm.trans hψ)
    exact ⟨B.now h.alike.1.worlds, h.alike⟩
  | freshId => exact absurd rfl hr

/-- requests that may stand for each other -/
theorem Abreast.pairs (h : Abreast B ps φ n n') (hs : s.masked = s'.masked) {r r' : Request}
    {A : r.Answer → r'.Answer → Prop} (hr : w.Pairs r r' A) {ψ' : Turn}
    (hψ : Turn.after φ ⟨r, (handle s r n).1⟩ = some ψ) (hψ' : Turn.after φ ⟨r', (handle s' r' n').1⟩ = some ψ') :
    A (handle s r n).1 (handle s' r' n').1 ∧
      Alike B (r.secrets.zip r'.secrets ++ ps) ψ (handle s r n).2 (handle s' r' n').2 := by
  cases hr with
  | same r hne => exact h.same hs hne hψ hψ'
  | secret htext =>
    cases φ with
    | free upgraded =>
      obtain ⟨c, c', hline, hline', hc⟩ := h.up rfl
      simp only [handle, hline, hline']
      obtain ⟨hanswer, htwin⟩ := twin_writeLine (h.open rfl) hc (absurd · Bool.false_ne_true.symm)
      exact ⟨hanswer, htwin.alike⟩
    | _ => cases hψ
  | raw htext =>
    cases φ with
    | free upgraded =>
      obtain ⟨c, c', hline, hline', hc⟩ := h.up rfl
      simp only [handle, hline, hline']
      have htwin := h.open rfl
      obtain ⟨hanswer, hnext⟩ := twin_writeRaw htwin hc (fun layer => B.raw layer htext htwin.wires) htwin.wires
      exact ⟨hanswer, hnext.alike⟩
    | _ => cases hψ
  | log hcalls =>
    obtain rfl : φ = ψ := Option.some.inj ((Turn.after_of_not_channel φ _ rfl).symm.trans hψ)
    exact ⟨rfl, h.alike.world (B.logged hcalls h.alike.1.worlds)⟩
  | freshId =>
    obtain rfl : φ = ψ := Option.some.inj ((Turn.after_of_not_channel φ _ rfl).symm.trans hψ)
    obtain ⟨hids, hworlds⟩ := B.fresh h.alike.1.worlds
    exact ⟨hids, h.alike.world hworlds⟩

/-- **Two networks answer alike** what may stand for each other. -/
theorem sustains_handle (B : Books w) (hs : s.masked = s'.masked) :
    Sustains w (handle s) (handle s') (Abreast B) where
  step := by
    intro r r' A hr ps φ ψ ψ' n n' h hψ hψ'
    obtain ⟨hanswer, halike⟩ := h.pairs hs hr hψ hψ'
    obtain ⟨held, hkept⟩ := h.kept
    obtain ⟨held', hkept'⟩ := h.kept'
    have hside := answered_request hkept h.rests hψ
    have hside' := answered_request hkept' h.rests' hψ'
    have hsame : ψ = ψ' := by
      rw [after_of_pairs hr hanswer φ] at hψ
      exact Option.some.inj (hψ.symm.trans hψ')
    subst hsame
    exact ⟨hanswer, halike, ⟨_, hside.kept⟩, ⟨_, hside'.kept⟩, hside.rests, hside'.rests, h.dated.handle s r,
      h.dated'.handle s' r'⟩

/-- networks on which nothing is open, with the same relays to come -/
theorem abreast_of_poised {held held' : List Layer} (h : Poised B ps n n') (hkept : Kept held n)
    (hkept' : Kept held' n') (hline : n.line = .idle) (hline' : n'.line = .idle) (hn : Dated n) (hn' : Dated n') :
    Abreast B ps .unopened n n' :=
  ⟨⟨h, fun hφ => absurd rfl hφ⟩, ⟨held, hkept⟩, ⟨held', hkept'⟩, hline, hline', hn, hn'⟩

end Network

end EnquiryMail.Net
