/-
The network refines the scripted channel. Over a relay that answers the greeting and every write with one complete
reply sooner than the time limit, or with silence, a session comes to the same result over the network, byte by byte,
as over a channel that plays the same replies line by line; and it makes the same uses of both.

- `Matches`: what relates the network and the scripted channel in each turn; `matches_step` keeps it through a request,
  and shows that the answers are the same.
- `matches_run`: so a session that keeps to its turns is the same over both, however the clock reads.
- `sessions_refine`: deliveries with a fixed date and tries are such sessions.
-/
import EnquiryMail.Proofs.Net.Answering
import EnquiryMail.Proofs.Session.Alike
import EnquiryMail.Proofs.Session.Turn

namespace EnquiryMail.Net

open EnquiryMail.Smtp
open EnquiryMail.Mail (Message)
open Connection (resting spoken)

/-! ## The scripted channel of a relay -/

/-- what goes over the wire to a relay: a text, or the opening of a handshake -/
inductive Sent
  | text (t : String)
  | handshake
  deriving DecidableEq, Repr

/-- what an event on the wire sends -/
def WireEvent.sent? : WireEvent → Option Sent
  | .wrote _ t => some (.text t)
  | .shake _ => some .handshake
  | _ => none

/-- what an act sends; an upgrade opens a handshake if the trust anchor can be read -/
def sentBy? (anchored : Bool) : Act → Option Sent
  | .line t => some (.text (t ++ "\r\n"))
  | .secret t => some (.text (t ++ "\r\n"))
  | .raw t => some (.text t)
  | .startTls => if anchored then some .handshake else none
  | _ => none

/-- why an upgrade with a relay fails, if it does -/
def upgradeError? (anchor : Except String (Option String)) (shaking : Shaking) : Option String :=
  match anchor, shaking with
  | .error m, _ => some m
  | .ok _, .fails m => some m
  | .ok _, _ => none

/-- what a read brings of what a relay says -/
def heard (s : Settings) : Option (List String) → Except String (List String)
  | some lines => .ok lines
  | none => .error s.timedOut

/-- the channel that plays what a relay says, and then nothing -/
def Relay.script (s : Settings) (w : World) (relay : Relay) (said : List (Option (List String))) : Scripted :=
  { opening := relay.welcome.opening s
    replies := (said ++ [none]).map (heard s)
    tlsError := upgradeError? (trustAnchor w s) relay.shaking
    staysPlain := false, writeError := none, writes := 0, secure := false, acts := [], world := w }

/-- a session comes to the same over the network as over a scripted channel -/
structure Refines {α : Type} (s : Settings) (session : Script α) (n : Network) (c : Scripted) : Prop where
  result : (session.run (Network.handle s) n).1 = (session.run Scripted.handle c).1
  /-- the requests to the channel and the answers to them -/
  uses : uses (session.transcript (Network.handle s) n) = uses (session.transcript Scripted.handle c)
  /-- the texts written and the handshakes opened, newest first -/
  sent : (session.run (Network.handle s) n).2.wire.filterMap WireEvent.sent? =
    (session.run Scripted.handle c).2.acts.filterMap (sentBy? (trustAnchor n.world s).isOk)

/-! ## The relation in each turn -/

/-- replies to be played that are what the deliveries to come bring, and then silence -/
inductive Echoes (s : Settings) (limit : Nat) : List Delivery → List (Except String (List String)) → Prop
  | nil : Echoes s limit [] [heard s none]
  | cons {d : Delivery} {ds : List Delivery} {said : Option (List String)} {rs : List (Except String (List String))}
      (hd : d.Brings limit said) (rest : Echoes s limit ds rs) : Echoes s limit (d :: ds) (heard s said :: rs)

/-- clock readings are exact for as many waits as are left -/
def InRange (left : Nat) (now : Int) : Prop :=
  -Time.farthest ≤ now ∧ now + left * Time.longestDelay ≤ Time.farthest + mostWaits * Time.longestDelay

/-- the scripted channel takes every write, and will be upgraded as the network will -/
def Alongside (s : Settings) (anchored : Bool) (shaking : Shaking) (n : Network) (c : Scripted) : Prop :=
  (trustAnchor n.world s).isOk = anchored ∧ c.tlsError = upgradeError? (trustAnchor n.world s) shaking ∧
    shaking ≠ .hangs ∧ c.staysPlain = false ∧ c.writeError = none

/-- where the network and the scripted channel are in a turn -/
def Stands (s : Settings) (limit : Nat) (anchored : Bool) (left : Nat) : Turn → Network → Scripted → Prop
  | .unopened, n, c =>
    let relay := n.relays.headD .nobody
    InRange left n.world.now ∧ Alongside s anchored relay.shaking n c ∧ n.queue = [] ∧ n.agenda = [] ∧
      c.opening = relay.welcome.opening s ∧ Echoes s limit (relay.greeting :: relay.replies) c.replies ∧
      c.secure = false
  | .due upgraded, n, c =>
    InRange left n.world.now ∧ Alongside s anchored n.shaking n c ∧ n.line = .up (resting s upgraded) ∧
      c.secure = upgraded ∧
      ∃ said more, c.replies = heard s said :: more ∧ n.Owed limit (spoken upgraded) said ∧
        (said.isSome → Echoes s limit n.replies more)
  | .free upgraded, n, c =>
    InRange left n.world.now ∧ Alongside s anchored n.shaking n c ∧ n.line = .up (resting s upgraded) ∧
      c.secure = upgraded ∧ n.queue = [] ∧ n.agenda = [] ∧ Echoes s limit n.replies c.replies
  | .broken, n, _ => n.Lapsed
  | .closed, _, _ => True

/-- the network and the scripted channel match in a turn -/
structure Matches (s : Settings) (limit : Nat) (anchored : Bool) (left : Nat) (φ : Turn) (n : Network) (c : Scripted) :
    Prop where
  made : n.world.made = c.world.made
  sent : n.wire.filterMap WireEvent.sent? = c.acts.filterMap (sentBy? anchored)
  stands : Stands s limit anchored left φ n c

variable {s : Settings} {limit left : Nat} {anchored upgraded : Bool} {n : Network} {c : Scripted}

theorem InRange.exact {now : Int} (h : InRange left now) (hleft : 1 ≤ left) (hle : limit ≤ Time.longestDelay) :
    Network.ClockExact limit now := by
  obtain ⟨hlow, hhigh⟩ := h
  simp only [Time.farthest, Time.longestDelay, mostWaits] at hlow hhigh hle
  constructor <;> omega

theorem InRange.pass {now : Int} (h : InRange left now) (hleft : 1 ≤ left) {delay : Nat}
    (hdelay : delay ≤ Time.longestDelay) : InRange (left - 1) (now + delay) := by
  obtain ⟨hlow, hhigh⟩ := h
  simp only [InRange, Time.farthest, Time.longestDelay, mostWaits] at hlow hhigh hdelay ⊢
  constructor <;> omega

/-- both answer a request in the same way, and match behind it -/
def Steps (s : Settings) (limit : Nat) (anchored : Bool) (left : Nat) (ψ : Turn) (r : Request) (n : Network)
    (c : Scripted) : Prop :=
  (Network.handle s r n).1 = (Scripted.handle r c).1 ∧
    Matches s limit anchored left ψ (Network.handle s r n).2 (Scripted.handle r c).2

theorem Matches.line (h : Matches s limit anchored left (.free upgraded) n c) : n.line = .up (resting s upgraded) :=
  h.stands.2.2.1

theorem Matches.writes (h : Matches s limit anchored left (.free upgraded) n c) (act : Act) :
    (c.write act).1 = .ok () := by
  obtain ⟨-, ⟨-, -, -, -, hwrites⟩, -⟩ := h.stands
  rw [Scripted.write, hwrites]

/-- whenever the channel is open, the connection can be closed without more ado -/
theorem Matches.lapsed {φ : Turn} (h : Matches s limit anchored left φ n c) (hopen : φ.isOpen = true) : n.Lapsed := by
  cases φ with
  | due upgraded => exact ⟨_, h.stands.2.2.1, rfl, rfl⟩
  | free upgraded => exact ⟨_, h.line, rfl, rfl⟩
  | broken => exact h.stands
  | _ => cases hopen

/-! ## Requests -/

/-- logging and making identifiers leaves both where they are -/
theorem stands_world {φ : Turn} (h : Stands s limit anchored left φ n c) (made : Nat) (calls : List Log.Timed)
    (w : World) :
    Stands s limit anchored left φ { n with world := { n.world with made := made, calls := calls } }
      { c with world := w } := by
  cases φ <;> exact h

theorem matches_open_ready (hlimit : ReadLimit s limit) (hleft : 1 ≤ left)
    (h : Matches s limit anchored left .unopened n c) (hready : c.opening = .ready) :
    Steps s limit anchored (left - 1) (.due false) .openChannel n c := by
  obtain ⟨hmade, hsent, hrange, halong, hq, ha, hopening, hechoes, hsecure⟩ := h
  generalize hrs : c.replies = rs at hechoes
  cases hechoes with
  | @cons _ _ said more hd hrest =>
    obtain ⟨delay, calls, queue, agenda, hdelay, hopen, howed⟩ :=
      Network.handle_open_ready hlimit.positive hlimit.short hq ha (hopening.symm.trans hready) hd
    have hplays : Scripted.handle .openChannel c = (.ready, c.record .opened) := by rw [← hready]; rfl
    rw [Steps, hopen, hplays]
    exact ⟨rfl, hmade, hsent, hrange.pass hleft hdelay,
      halong, rfl, hsecure, said, more, hrs, howed,
      fun _ => hrest⟩

theorem matches_open_failed (h : Matches s limit anchored left .unopened n c) {m : String}
    (hfailed : c.opening = .failed m) (left' : Nat) : Steps s limit anchored left' .closed .openChannel n c := by
  obtain ⟨hmade, hsent, -, -, hq, ha, hopening, -, -⟩ := h
  obtain ⟨n', hopen, hgiven⟩ := Network.handle_open_failed hq ha (hopening.symm.trans hfailed)
  have hplays : Scripted.handle .openChannel c = (.failed m, c.record .opened) := by rw [← hfailed]; rfl
  rw [Steps, hopen, hplays]
  refine ⟨rfl, hgiven.made.trans hmade, ?_, trivial⟩
  rw [hgiven.wire]
  exact hsent

/-- a relay's way of taking a connection does not leave the session without an answer -/
theorem opening_ne_absent (s : Settings) (w : Welcome) : w.opening s ≠ .absent := by
  cases w with
  | delayed ms => rw [Welcome.opening]; split <;> simp
  | _ => simp [Welcome.opening]

theorem matches_read (hlimit : ReadLimit s limit) (hleft : 1 ≤ left)
    (h : Matches s limit anchored left (.due upgraded) n c) :
    Steps s limit anchored (left - 1) (Turn.onward (.free upgraded) (Network.handle s .read n).1) .read n c := by
  obtain ⟨hmade, hsent, hrange, halong, hline, hsecure, said, more, hreplies, howed, hmore⟩ := h
  have hclock := hrange.exact hleft hlimit.short
  cases said with
  | none =>
    have hplays : Scripted.handle .read c = (.error s.timedOut, { c with replies := more }) := by
      simp only [Scripted.handle, hreplies, heard]
    rw [Steps, Network.handle_read_silent hlimit hclock hline howed, hplays]
    exact ⟨rfl, hmade, hsent, resting s upgraded, rfl, rfl, rfl⟩
  | some lines =>
    have hplays : Scripted.handle .read c = (.ok (Reply.ofLines lines), { c with replies := more }) := by
      simp only [Scripted.handle, hreplies, heard]
    obtain ⟨delay, calls, hdelay, hread⟩ := Network.handle_read_spoken hlimit hclock hline howed
    rw [Steps, hread, hplays]
    exact ⟨rfl, hmade, hsent, hrange.pass hleft (hdelay.trans hlimit.short),
      halong, rfl, hsecure, rfl, rfl, hmore rfl⟩

/-- a text goes out on both sides, and the relay owes its next reply -/
theorem matches_effect_wrote (hlimit : ReadLimit s limit) (h : Matches s limit anchored left (.free upgraded) n c)
    {text : String} {act : Act} (hact : sentBy? anchored act = some (.text text)) :
    Matches s limit anchored left (.due upgraded) (n.effect (.wrote (spoken upgraded) text)) (c.write act).2 := by
  obtain ⟨hmade, hsent, hrange, halong, hline, hsecure, hq, ha, hechoes⟩ := h
  have hwrites : c.writeError = none := halong.2.2.2.2
  have hwrite : (c.write act).2 = { c with writes := c.writes + 1, acts := act :: c.acts } := by
    simp only [Scripted.write, hwrites]
    rfl
  have hsent' : WireEvent.sent? (.wrote (spoken upgraded) text) = sentBy? anchored act := hact.symm
  generalize hds : n.replies = ds at hechoes
  generalize hrs : c.replies = rs at hechoes
  cases hechoes with
  | nil =>
    rw [Network.effect_wrote_last (spoken upgraded) text hds, hwrite]
    refine ⟨hmade, ?_, hrange, halong, hline,
      hsecure, none, [], hrs, ⟨hq, ha⟩, nofun⟩
    rw [List.filterMap_cons, List.filterMap_cons, hsent', hsent]
  | @cons _ rest said more hd hrest =>
    obtain ⟨queue, agenda, hwrote, howed⟩ :=
      Network.effect_wrote hlimit.positive hlimit.short hq ha (spoken upgraded) text hds hd
    rw [hwrote, hwrite]
    refine ⟨hmade, ?_, hrange, halong, hline,
      hsecure, said, more, hrs, howed, fun _ => hrest⟩
    rw [List.filterMap_cons, List.filterMap_cons, hsent', hsent]

theorem matches_writeRaw (hlimit : ReadLimit s limit) (h : Matches s limit anchored left (.free upgraded) n c)
    (text : String) : Steps s limit anchored left (.due upgraded) (.writeRaw text) n c := by
  rw [Steps, Network.handle_writeRaw h.line]
  exact ⟨(h.writes _).symm, matches_effect_wrote hlimit h rfl⟩

theorem matches_writeLine (hlimit : ReadLimit s limit) (h : Matches s limit anchored left (.free upgraded) n c)
    (text : String) (secret : Bool) : Steps s limit anchored left (.due upgraded) (.writeLine text secret) n c := by
  obtain ⟨calls, hwrite⟩ := Network.handle_writeLine h.line text secret
  have hlogged : Matches s limit anchored left (.free upgraded)
      { n with world := { n.world with calls := calls } } c :=
    ⟨h.made, h.sent, stands_world h.stands n.world.made calls c.world⟩
  rw [Steps, hwrite]
  refine ⟨(h.writes _).symm, matches_effect_wrote hlimit hlogged ?_⟩
  cases secret <;> rfl

theorem matches_startTls (h : Matches s limit anchored left (.free false) n c) :
    Steps s limit anchored left (Turn.onward (.free true) (Network.handle s .startTls n).1) .startTls n c := by
  obtain ⟨hmade, hsent, hrange, halong, hline, -, hq, ha, hechoes⟩ := h
  have hkeep := halong
  obtain ⟨hanchored, hupgrade, hshakes, hstays, -⟩ := halong
  cases hanchor : trustAnchor n.world s with
  | error m =>
    rw [hanchor] at hanchored hupgrade
    obtain rfl : false = anchored := hanchored
    have hplays : Scripted.handle .startTls c = (.error m, c.record .startTls) := by
      simp only [Scripted.handle, Scripted.record, hupgrade, upgradeError?]
    obtain ⟨n', hstart, hlapsed, hwire, hworld⟩ := Network.handle_startTls_unreadable hline hanchor
    rw [Steps, hstart, hplays]
    exact ⟨rfl, by rw [hworld]; exact hmade, by rw [hwire]; exact hsent, hlapsed⟩
  | ok text =>
    rw [hanchor] at hanchored hupgrade
    obtain rfl : true = anchored := hanchored
    cases hsh : n.shaking with
    | hangs => exact absurd hsh hshakes
    | fails reason =>
      have hplays : Scripted.handle .startTls c = (.error reason, c.record .startTls) := by
        simp only [Scripted.handle, Scripted.record, hupgrade, hsh, upgradeError?]
      obtain ⟨n', hstart, hlapsed, hwire, hworld⟩ := Network.handle_startTls_fails hline hq ha hanchor hsh
      rw [Steps, hstart, hplays]
      refine ⟨rfl, by rw [hworld]; exact hmade, ?_, hlapsed⟩
      rw [hwire]
      exact congrArg (List.cons Sent.handshake) hsent
    | succeeds =>
      have hplays : Scripted.handle .startTls c = (.ok (), { c.record .startTls with secure := true }) := by
        simp only [Scripted.handle, Scripted.record, hupgrade, hsh, upgradeError?, hstays]
        rfl
      obtain ⟨calls, hstart⟩ := Network.handle_startTls_succeeds hline hq ha hanchor hsh
      rw [Steps, hstart, hplays]
      exact ⟨rfl, hmade, congrArg (List.cons Sent.handshake) hsent, hrange, hkeep, rfl, rfl, rfl, rfl, hechoes⟩

theorem matches_isSecure (h : Matches s limit anchored left (.free upgraded) n c) :
    Steps s limit anchored left (.free upgraded) .isSecure n c := by
  refine ⟨?_, h⟩
  obtain ⟨-, -, -, -, hline, hsecure, -⟩ := h
  simp only [Network.handle, Scripted.handle]
  rw [hline, hsecure]
  rfl

theorem matches_close {φ : Turn} (h : Matches s limit anchored left φ n c) (hopen : φ.isOpen = true) :
    Steps s limit anchored left .closed .close n c := by
  obtain ⟨wire, hclose, hwire⟩ := Network.handle_close (s := s) (h.lapsed hopen)
  obtain ⟨hmade, hsent, -⟩ := h
  refine ⟨rfl, ?_⟩
  rw [hclose]
  refine ⟨hmade, ?_, trivial⟩
  rcases hwire with rfl | ⟨layer, rfl⟩ <;> exact hsent

theorem matches_log {φ : Turn} (h : Matches s limit anchored left φ n c) (a b : Log.Call) :
    Matches s limit anchored left φ { n with world := n.world.log a } { c with world := c.world.log b } :=
  ⟨h.made, h.sent, stands_world h.stands n.world.made _ _⟩

theorem matches_freshId {φ : Turn} (h : Matches s limit anchored left φ n c) :
    Steps s limit anchored left φ .freshId n c := by
  refine ⟨?_, ?_, h.sent, stands_world h.stands (n.world.made + 1) n.world.calls _⟩
  · show identifier (n.world.made + 1) = identifier (c.world.made + 1)
    rw [h.made]
  · show n.world.made + 1 = c.world.made + 1
    rw [h.made]

/-- **A request in turn** is answered in the same way on both sides, and both match behind it. -/
theorem matches_step (hlimit : ReadLimit s limit) {φ ψ : Turn} {r : Request} (hr : r ≠ .clock)
    (hleft : r.waits = true → 1 ≤ left) (h : Matches s limit anchored left φ n c)
    (hafter : Turn.after φ ⟨r, (Network.handle s r n).1⟩ = some ψ) :
    Steps s limit anchored (left - if r.waits then 1 else 0) ψ r n c := by
  cases r with
  | clock => exact absurd rfl hr
  | log l =>
    cases hafter
    exact ⟨rfl, matches_log h l l⟩
  | freshId =>
    cases hafter
    exact matches_freshId h
  | openChannel =>
    cases φ with
    | unopened =>
      cases hopening : c.opening with
      | ready =>
        have hsteps := matches_open_ready hlimit (hleft rfl) h hopening
        rw [show (Network.handle s .openChannel n).1 = Opening.ready from hsteps.1.trans hopening] at hafter
        cases hafter
        exact hsteps
      | failed m =>
        have hsteps := matches_open_failed h hopening (left - 1)
        rw [show (Network.handle s .openChannel n).1 = Opening.failed m from hsteps.1.trans hopening] at hafter
        cases hafter
        exact hsteps
      | absent =>
        obtain ⟨-, -, -, -, -, -, hop, -⟩ := h
        exact absurd (hop.symm.trans hopening) (opening_ne_absent s _)
    | _ => cases hafter
  | read =>
    cases φ with
    | due upgraded => cases hafter; exact matches_read hlimit (hleft rfl) h
    | _ => cases hafter
  | writeLine text secret =>
    cases φ with
    | free upgraded =>
      have hsteps := matches_writeLine hlimit h text secret
      have hok : (Network.handle s (.writeLine text secret) n).1 = Except.ok () :=
        hsteps.1.trans (h.writes _)
      rw [hok] at hafter
      cases upgraded <;> cases hafter <;> exact hsteps
    | _ => cases hafter
  | writeRaw text =>
    cases φ with
    | free upgraded =>
      have hsteps := matches_writeRaw hlimit h text
      have hok : (Network.handle s (.writeRaw text) n).1 = Except.ok () :=
        hsteps.1.trans (h.writes _)
      rw [hok] at hafter
      cases upgraded <;> cases hafter <;> exact hsteps
    | _ => cases hafter
  | startTls =>
    cases φ with
    | free upgraded =>
      cases upgraded with
      | false => cases hafter; exact matches_startTls h
      | true => cases hafter
    | _ => cases hafter
  | isSecure =>
    cases φ with
    | free upgraded => cases upgraded <;> cases hafter <;> exact matches_isSecure h
    | _ => cases hafter
  | close =>
    cases φ with
    | due upgraded => cases hafter; exact matches_close h rfl
    | free upgraded => cases upgraded <;> cases hafter <;> exact matches_close h rfl
    | broken => cases hafter; exact matches_close h rfl
    | _ => cases hafter

/-! ## Sessions -/

/-- **A session in turn comes to the same** over the network and over the scripted channel, when it is like itself
however the clock reads. -/
theorem matches_run {α : Type} (hlimit : ReadLimit s limit) {p q : Script α} (hpq : Alike p q) {φ : Turn}
    (hp : InTurn φ left p) (h : Matches s limit anchored left φ n c) :
    (p.run (Network.handle s) n).1 = (q.run Scripted.handle c).1 ∧
      uses (p.transcript (Network.handle s) n) = uses (q.transcript Scripted.handle c) ∧
      (p.run (Network.handle s) n).2.wire.filterMap WireEvent.sent? =
        (q.run Scripted.handle c).2.acts.filterMap (sentBy? anchored) := by
  induction hpq generalizing φ left n c with
  | done a => exact ⟨rfl, rfl, h.sent⟩
  | @ask r next next' hr _ ih =>
    obtain ⟨ψ, hafter, hleft, hnext⟩ := hp.after (Network.handle s r n).1
    obtain ⟨hanswer, hmatches⟩ := matches_step hlimit hr hleft h hafter
    obtain ⟨hresult, huses, hsent⟩ := ih _ hnext hmatches
    refine ⟨?_, ?_, ?_⟩
    · show _ = ((next' (Scripted.handle r c).1).run Scripted.handle _).1
      rw [← hanswer]
      exact hresult
    · show uses (⟨r, _⟩ :: _) = uses (⟨r, (Scripted.handle r c).1⟩ :: (next' (Scripted.handle r c).1).transcript _ _)
      rw [← hanswer, uses_cons, uses_cons _ (Script.transcript _ _ _), huses]
    · show _ = ((next' (Scripted.handle r c).1).run Scripted.handle _).2.acts.filterMap _
      rw [← hanswer]
      exact hsent
  | @clock next next' _ ih =>
    obtain ⟨ψ, hafter, -, hnext⟩ := hp.after n.world.now
    cases hafter
    obtain ⟨hresult, huses, hsent⟩ := ih n.world.now c.world.now hnext h
    exact ⟨hresult, huses, hsent⟩
  | @log a b next next' _ ih =>
    obtain ⟨ψ, hafter, -, hnext⟩ := hp.after ()
    cases hafter
    obtain ⟨hresult, huses, hsent⟩ := ih hnext (matches_log h a b)
    exact ⟨hresult, huses, hsent⟩

/-- what a relay brings is echoed by the channel that plays it -/
theorem echoes_script {ds : List Delivery} {said : List (Option (List String))}
    (h : List.Forall₂ (Delivery.Brings limit) ds said) : Echoes s limit ds ((said ++ [none]).map (heard s)) := by
  induction h with
  | nil => exact .nil
  | cons hd _ ih => exact .cons hd ih

/-- a network before the first connection matches the channel of its first relay -/
theorem matches_start {w : World} (hnow : -Time.farthest ≤ w.now ∧ w.now ≤ Time.farthest) {relay : Relay}
    (others : List Relay) {said : List (Option (List String))}
    (hsaid : List.Forall₂ (Delivery.Brings limit) (relay.greeting :: relay.replies) said)
    (hshakes : relay.shaking ≠ .hangs) :
    Matches s limit (trustAnchor w s).isOk mostWaits .unopened (Network.start w (relay :: others))
      (relay.script s w said) := by
  refine ⟨rfl, rfl, ?_, ⟨rfl, rfl, hshakes, rfl, rfl⟩, rfl, rfl, rfl, echoes_script hsaid, rfl⟩
  exact ⟨hnow.1, Int.add_le_add_right hnow.2 _⟩

/-- **The network refines the scripted channel.** -/
theorem sessions_refine (s : Settings) (limit : Nat) (hlimit : ReadLimit s limit) (w : World)
    (hnow : -Time.farthest ≤ w.now ∧ w.now ≤ Time.farthest) (relay : Relay) (others : List Relay)
    (said : List (Option (List String)))
    (hsaid : List.Forall₂ (Delivery.Brings limit) (relay.greeting :: relay.replies) said)
    (hshakes : relay.shaking ≠ .hangs) :
    (∀ (m : Message) (offset : Int) (t : Option Time.Instant),
      Refines s (sendMail s m offset (.fixed t)) (Network.start w (relay :: others)) (relay.script s w said)) ∧
    Refines s (verifyRelay s) (Network.start w (relay :: others)) (relay.script s w said) := by
  have hstart := matches_start (s := s) hnow others hsaid hshakes
  constructor
  · intro m offset t
    obtain ⟨hresult, huses, hsent⟩ :=
      matches_run hlimit (alike_sendMail s m offset t) (inTurn_sendMail s m offset (.fixed t)) hstart
    exact ⟨hresult, huses, hsent⟩
  · obtain ⟨hresult, huses, hsent⟩ := matches_run hlimit (alike_verifyRelay s) (inTurn_verifyRelay s) hstart
    exact ⟨hresult, huses, hsent⟩

/-- a reply that is sent at once, a line a packet -/
def Delivery.prompt (lines : List String) : Delivery := ⟨none, lines.map fun line => utf8 line ++ [13, 10], none⟩

theorem brings_prompt {lines : List String} (h : Complete lines) (hlines : ∀ line ∈ lines, Sendable line) :
    (Delivery.prompt lines).Brings limit (some lines) := by
  refine ⟨h, ?_, rfl, nofun⟩
  clear h
  induction lines with
  | nil => exact .nil
  | cons line lines ih =>
    obtain ⟨hline, hrest⟩ := List.forall_mem_cons.1 hlines
    have hbytes : (Delivery.prompt (line :: lines)).packets.flatten =
        utf8 line ++ 13 :: 10 :: (Delivery.prompt lines).packets.flatten := by
      simp [Delivery.prompt]
    rw [hbytes]
    exact .crlf hline (ih hrest)

theorem forall₂_prompt {replies : List (List String)}
    (h : ∀ lines ∈ replies, Complete lines ∧ ∀ line ∈ lines, Sendable line) :
    List.Forall₂ (Delivery.Brings limit) (replies.map Delivery.prompt) (replies.map some) := by
  induction replies with
  | nil => exact .nil
  | cons lines replies ih =>
    obtain ⟨hlines, hrest⟩ := List.forall_mem_cons.1 h
    exact .cons (brings_prompt hlines.1 hlines.2) (ih hrest)

/-- what a relay says that takes a message and does not answer the goodbye -/
def acceptingReplies : List (List String) :=
  [["250-relay", "250 STARTTLS"], ["220 go"], ["250-relay", "250 AUTH LOGIN"], ["334 VXNlcm5hbWU6"],
    ["334 UGFzc3dvcmQ6"], ["235 welcome"], ["250 sender"], ["250 recipient"], ["354 go on"], ["250 queued"]]

/-- a greeting of two lines after a while, cut inside a character and between CR and LF, its last line without CR -/
def cutGreeting : Delivery :=
  ⟨some 40, [[50, 50, 48, 45, 104, 195], [164, 13], [10, 50, 50, 48, 32], [104, 105, 10]], none⟩

/-- a relay that takes a message -/
def Relay.accepting : Relay := ⟨.delayed 20, cutGreeting, acceptingReplies.map Delivery.prompt, .succeeds⟩

/-- surroundings in which nothing has happened -/
def quietWorld : World := ⟨0, 0, [], [], [], 0, []⟩

theorem brings_cutGreeting : cutGreeting.Brings 10000 (some ["220-hä", "220 hi"]) := by
  have hbytes : cutGreeting.packets.flatten = utf8 "220-hä" ++ 13 :: 10 :: (utf8 "220 hi" ++ 10 :: []) := by
    decide +kernel
  refine ⟨by decide +kernel, ?_, rfl, fun ms hms => ?_⟩
  · rw [hbytes]
    exact .crlf (by decide +kernel) (.lf (by decide +kernel) .nil)
  · cases hms
    decide

theorem sessions_refine_accepting :
    ReadLimit Settings.submission 10000 ∧ (-Time.farthest ≤ quietWorld.now ∧ quietWorld.now ≤ Time.farthest) ∧
      List.Forall₂ (Delivery.Brings 10000) (Relay.accepting.greeting :: Relay.accepting.replies)
        (some ["220-hä", "220 hi"] :: acceptingReplies.map some) ∧
      Relay.accepting.shaking ≠ .hangs ∧
      (let n := Network.start quietWorld [Relay.accepting]
      let c := Relay.accepting.script Settings.submission quietWorld
        (some ["220-hä", "220 hi"] :: acceptingReplies.map some)
      let session := sendMail Settings.submission dottedMessage 0 (.fixed (some 0))
      Refines Settings.submission session n c ∧ Refines Settings.submission (verifyRelay Settings.submission) n c ∧
        (session.run (Network.handle Settings.submission) n).1 =
          .ok ⟨Mail.messageId (identifier 1) "example.org", "250 queued"⟩) := by
  have hlimit : ReadLimit Settings.submission 10000 := ⟨rfl, by decide, by decide⟩
  have hsaid : List.Forall₂ (Delivery.Brings 10000) (Relay.accepting.greeting :: Relay.accepting.replies)
      (some ["220-hä", "220 hi"] :: acceptingReplies.map some) :=
    .cons brings_cutGreeting (forall₂_prompt (by decide +kernel))
  obtain ⟨hsend, htry⟩ := sessions_refine Settings.submission 10000 hlimit quietWorld (by decide) Relay.accepting []
    _ hsaid (by decide)
  exact ⟨hlimit, by decide, hsaid, by decide, hsend dottedMessage 0 (some 0), htry,
    (hsend dottedMessage 0 (some 0)).result.trans (by decide +kernel)⟩

end EnquiryMail.Net
