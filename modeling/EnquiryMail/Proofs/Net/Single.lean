/-
A session asks for one connection at most, and meets the next relay with it. Nothing but asking for a channel asks for
a connection, and a session asks for a channel once, before it has opened anything.

- `Quiet`: no connection is asked for on the way; `quiet_happen`, `quiet_handle`: so it is with everything else.
- `fates_session`: of all that becomes of the sockets of a session, asking for a connection comes first, and once.
- `AtRest`: nothing is open or set, and nothing to come belongs to a later connection; `AtRest.run`: every session that
  closes what it has opened leaves the network so.
- `InStep`: the relays to come are those behind the connections so far; `inStep_run`: over a session they stay so.
-/
import EnquiryMail.Proofs.Net.Own
import EnquiryMail.Proofs.Net.Release

namespace EnquiryMail.Net

open EnquiryMail.Smtp

/-- it asks for a connection -/
def WireEvent.isConnect : WireEvent → Bool
  | .connect _ => true
  | _ => false

theorem WireEvent.fate_of_isConnect {e : WireEvent} (h : e.isConnect = false) :
    e.fate? ≠ some (.opened .plain) := by
  cases e with
  | connect relay => cases h
  | _ => nofun

namespace Network

variable {α : Type} {n m k : Network} {s : Settings} {φ ψ : Turn}

/-- how many connections have been asked for -/
def connects (n : Network) : Nat := n.wire.countP WireEvent.isConnect

/-! ## On the way no connection is asked for -/

/-- no connection is asked for on the way, and the relays to come are the same -/
structure Quiet (n m : Network) : Prop where
  relays : m.relays = n.relays
  wire : ∃ es : List WireEvent, m.wire = es.reverse ++ n.wire ∧ ∀ e ∈ es, e.isConnect = false

theorem quiet_of_same (hrelays : m.relays = n.relays) (hwire : m.wire = n.wire) : Quiet n m :=
  ⟨hrelays, [], hwire, List.forall_mem_nil _⟩

theorem Quiet.trans (h : Quiet n m) (h' : Quiet m k) : Quiet n k := by
  obtain ⟨es, hes, hquiet⟩ := h.wire
  obtain ⟨fs, hfs, hquiet'⟩ := h'.wire
  refine ⟨h'.relays.trans h.relays, es ++ fs, ?_, ?_⟩
  · rw [hfs, hes, List.reverse_append, List.append_assoc]
  · exact List.forall_mem_append.2 ⟨hquiet, hquiet'⟩

theorem Quiet.connects (h : Quiet n m) : m.connects = n.connects := by
  obtain ⟨es, hes, hquiet⟩ := h.wire
  have hnone : es.reverse.countP WireEvent.isConnect = 0 := by
    apply List.countP_eq_zero.2
    intro e he
    rw [hquiet e (List.mem_reverse.1 he)]
    exact Bool.false_ne_true
  rw [Network.connects, hes, List.countP_append, hnone, Nat.zero_add]
  rfl

/-- no plain socket is opened on the way -/
theorem Quiet.fates (h : Quiet n m) : .opened .plain ∉ (n.fresh m).filterMap WireEvent.fate? := by
  obtain ⟨es, hes, hquiet⟩ := h.wire
  rw [fresh_of_wire hes, List.mem_filterMap]
  rintro ⟨e, he, hfate⟩
  exact WireEvent.fate_of_isConnect (hquiet e he) hfate

theorem deliver_relays (n : Network) (layer : Layer) (d : Delivery) : (n.deliver layer d).relays = n.relays := by
  unfold deliver
  split
  · rfl
  · split <;> rfl

theorem quiet_effect (n : Network) (e : Effect) : Quiet n (n.effect e) := by
  refine ⟨?_, (recorded? e).toList, ?_, ?_⟩
  · cases e with
    | wrote layer text =>
      simp only [effect, reply]
      split
      · rfl
      · rw [deliver_relays]
        rfl
    | shake h =>
      simp only [effect, shake]
      split <;> rfl
    | _ => rfl
  · rw [effect_wire]
    cases recorded? e <;> rfl
  · cases e <;> simp [recorded?, WireEvent.isConnect]

theorem quiet_effects (n : Network) (es : List Effect) : Quiet n (n.effects es) := by
  induction es generalizing n with
  | nil => exact quiet_of_same rfl rfl
  | cons e es ih => exact (quiet_effect n e).trans (ih (n.effect e))

/-- effects are carried out while the line changes -/
theorem quiet_carried (n : Network) (l : Line) (es : List Effect) :
    Quiet n (({ n with line := l } : Network).effects es) := by
  have hline : Quiet n { n with line := l } := quiet_of_same rfl rfl
  exact hline.trans (quiet_effects _ es)

theorem quiet_onConnection (n : Network) (f : Connection → Connection.Outcome) : Quiet n (n.onConnection f) := by
  unfold onConnection
  split
  · exact quiet_carried n _ _
  · exact quiet_of_same rfl rfl

theorem quiet_dialedAs (n : Network) (o : DialOutcome × List Effect) : Quiet n (n.dialedAs o) := by
  obtain ⟨c | message, es⟩ := o
  · have hgreets : Quiet (({ n with line := .up c } : Network).effects es)
        ((({ n with line := .up c } : Network).effects es).deliver .plain n.greeting) :=
      quiet_of_same (deliver_relays _ _ _) (deliver_wire _ _ _)
    have hcarried := (quiet_carried n (.up c) es).trans hgreets
    exact ⟨hcarried.relays, hcarried.wire⟩
  · have hcarried := quiet_carried n .idle es
    exact ⟨hcarried.relays, hcarried.wire⟩

/-- **Nothing that happens** asks for a connection. -/
theorem quiet_happen (n : Network) (x : Nat × Coming) : Quiet n (n.happen x) := by
  by_cases hnumber : x.1 = n.number
  swap
  · rw [happen_other hnumber]
    exact quiet_of_same rfl rfl
  obtain ⟨number, x⟩ := x
  obtain rfl : number = n.number := hnumber
  cases hline : n.line with
  | idle =>
    rw [happen_idle hline]
    exact quiet_of_same rfl rfl
  | dialing =>
    rw [happen_dialing hline]
    split
    · exact quiet_dialedAs n _
    · exact quiet_dialedAs n _
    · exact quiet_dialedAs n _
    · exact quiet_of_same rfl rfl
  | up c =>
    rw [happen_up hline]
    exact quiet_carried n _ _

theorem quiet_upcoming {x : Nat × Coming} (hx : n.upcoming? = some (x, m)) : Quiet n m := by
  obtain ⟨q, a, now, rfl⟩ := frame_upcoming hx
  exact quiet_of_same rfl rfl

/-- nothing that comes to a connection opens one -/
theorem fate_quiet (c : Connection) (x : Coming) : c.fate? x ≠ some (.opened .plain) := by
  cases x with
  | delivery layer packets ending =>
    cases ending with
    | none => exact (Option.some_ne_none _).symm
    | some e =>
      simp only [Connection.fate?]
      split <;> simp
  | shaken =>
    simp only [Connection.fate?]
    split <;> simp
  | _ => exact (Option.some_ne_none _).symm

theorem turnFates_quiet (n : Network) : .opened .plain ∉ n.turnFates := by
  rw [turnFates]
  split
  · rename_i x m hx
    rw [fates, List.mem_append, not_or]
    refine ⟨?_, (quiet_happen m x).fates⟩
    rw [Option.mem_toList, Network.fate?]
    split
    · split
      · exact fate_quiet _ _
      · exact (Option.some_ne_none _).symm
    · exact (Option.some_ne_none _).symm
  · exact List.not_mem_nil

theorem quiet_wait (ready : Network → Bool) (fuel : Nat) (n : Network) : Quiet n (wait ready fuel n) := by
  induction fuel generalizing n with
  | zero => exact quiet_of_same rfl rfl
  | succ fuel ih =>
    rw [wait_succ, next?_eq]
    split
    · exact quiet_of_same rfl rfl
    · cases hx : n.upcoming? with
      | none => exact quiet_of_same rfl rfl
      | some q =>
        obtain ⟨x, m⟩ := q
        exact ((quiet_upcoming hx).trans (quiet_happen m x)).trans (ih (m.happen x))

/-- **No request but one** asks for a connection. -/
theorem quiet_asked (s : Settings) {r : Request} (hr : r ≠ .openChannel) (n : Network) : Quiet n (n.asked s r) := by
  cases r with
  | openChannel => exact absurd rfl hr
  | read =>
    have hopen : Quiet n { n with answer := none } := quiet_of_same rfl rfl
    exact hopen.trans (quiet_onConnection { n with answer := none } (Connection.read n.world.now 0))
  | startTls =>
    have hopen : Quiet n { n with upgraded := none } := quiet_of_same rfl rfl
    exact hopen.trans
      (quiet_onConnection { n with upgraded := none } (Connection.startTls 0 (trustAnchor n.world s)))
  | writeLine text secret =>
    simp only [asked, handle]
    split
    · exact quiet_effects n _
    · exact quiet_of_same rfl rfl
  | writeRaw text =>
    simp only [asked, handle]
    split
    · exact quiet_effects n _
    · exact quiet_of_same rfl rfl
  | close =>
    have hcloses := quiet_onConnection n (Connection.close n.world.now)
    exact ⟨hcloses.relays, hcloses.wire⟩
  | _ => exact quiet_of_same rfl rfl

theorem quiet_waits (s : Settings) (r : Request) (n : Network) : Quiet (n.asked s r) (handle s r n).2 := by
  cases r with
  | openChannel => exact quiet_wait _ _ _
  | read => exact quiet_wait _ _ _
  | startTls => exact quiet_wait _ _ _
  | _ => exact quiet_of_same rfl rfl

/-! ## One connection a session -/

theorem wire_dial (s : Settings) (n : Network) : (n.dial s).wire = .connect s.relayName :: n.wire := by
  rw [dial_eq]
  split <;> rfl

theorem relays_dial (s : Settings) (n : Network) : (n.dial s).relays = n.relays.tail := by
  rw [dial_eq]
  split <;> rfl

theorem waited_quiet (s : Settings) (r : Request) (n : Network) :
    .opened .plain ∉ (n.during s r).dropLast.flatMap turnFates := by
  rw [List.mem_flatMap]
  rintro ⟨m, -, hm⟩
  exact turnFates_quiet m hm

/-- asking for a channel opens a plain socket, first of all and once -/
theorem requestFates_open (s : Settings) (n : Network) :
    ∃ rest, n.requestFates s .openChannel = .opened .plain :: rest ∧ .opened .plain ∉ rest := by
  have hfresh : n.fresh (n.asked s .openChannel) = [.connect s.relayName] := fresh_of_wire (wire_dial s n)
  refine ⟨_, ?_, waited_quiet s .openChannel n⟩
  rw [requestFates, hfresh]
  rfl

theorem requestFates_other (s : Settings) {r : Request} (hr : r ≠ .openChannel) (n : Network) :
    .opened .plain ∉ n.requestFates s r := by
  rw [requestFates, List.mem_append, not_or]
  exact ⟨(quiet_asked s hr n).fates, waited_quiet s r n⟩

/-- what is asked of the surroundings does not touch a socket -/
theorem requestFates_surroundings (s : Settings) {r : Request} (hr : r.ofChannel = false) (n : Network) :
    n.requestFates s r = [] := by
  have hfresh : n.fresh (n.asked s r) = [] := by
    cases r <;> first | exact fresh_of_same rfl | cases hr
  have hwaits : n.waits s r = [] := by
    cases r <;> first | rfl | cases hr
  rw [requestFates, hfresh, during, hwaits]
  rfl

theorem after_eq_unopened {e : Exchange} (h : Turn.after φ e = some .unopened) : φ = .unopened := by
  obtain ⟨r, x⟩ := e
  cases hr : r.ofChannel with
  | false => exact Option.some.inj ((Turn.after_of_not_channel φ ⟨r, x⟩ hr).symm.trans h)
  | true =>
    rcases φ with _ | _ | (_ | _) | _ | _
    · rfl
    all_goals cases r <;> first | cases h | cases x <;> cases h

theorem not_open_again {r : Request} {x : r.Answer} (h : Turn.after φ ⟨r, x⟩ = some ψ) (hφ : φ ≠ .unopened) :
    r ≠ .openChannel := by
  rintro rfl
  cases φ <;> first | exact hφ rfl | cases h

/-- a session that has asked for a channel asks for no other connection -/
theorem fates_opened {p : Script α} (hp : Concludes φ p) (hφ : φ ≠ .unopened) (n : Network) :
    .opened .plain ∉ sessionFates s p n := by
  induction p generalizing φ n with
  | done a => exact List.not_mem_nil
  | ask r next ih =>
    obtain ⟨ψ, hψ, hnext⟩ := hp.after (handle s r n).1
    rw [sessionFates, List.mem_append, not_or]
    refine ⟨requestFates_other s (not_open_again hψ hφ) n, ih _ hnext ?_ _⟩
    rintro rfl
    exact hφ (after_eq_unopened hψ)

/-- **A session asks for one connection at most**, and before that nothing is opened. -/
theorem fates_session {p : Script α} (hp : Concludes .unopened p) (n : Network) :
    sessionFates s p n = [] ∨
      ∃ rest, sessionFates s p n = .opened .plain :: rest ∧ .opened .plain ∉ rest := by
  induction p generalizing n with
  | done a => exact .inl rfl
  | ask r next ih =>
    obtain ⟨ψ, hψ, hnext⟩ := hp.after (handle s r n).1
    cases hr : r.ofChannel with
    | false =>
      obtain rfl : .unopened = ψ := Option.some.inj ((Turn.after_of_not_channel _ _ hr).symm.trans hψ)
      rw [sessionFates, requestFates_surroundings s hr, List.nil_append]
      exact ih _ hnext _
    | true =>
      cases r with
      | openChannel =>
        have hopened : ψ ≠ .unopened := by
          rintro rfl
          replace hψ := Option.some.inj hψ
          split at hψ <;> cases hψ
        obtain ⟨rest, hfirst, hrest⟩ := requestFates_open s n
        refine .inr ⟨rest ++ sessionFates s (next (handle s .openChannel n).1) (handle s .openChannel n).2, ?_, ?_⟩
        · rw [sessionFates, hfirst]
          rfl
        · rw [List.mem_append, not_or]
          exact ⟨hrest, fates_opened hnext hopened _⟩
      | log c => cases hr
      | clock => cases hr
      | freshId => cases hr
      | _ => cases hψ

/-! ## Which relay is met -/

/-- the relays to come are those behind the connections so far -/
def InStep (relays : List Relay) (n : Network) : Prop := n.relays = relays.drop n.connects

variable {relays : List Relay}

theorem inStep_start (w : World) (relays : List Relay) : InStep relays (start w relays) := rfl

theorem InStep.quiet (h : InStep relays n) (hm : Quiet n m) : InStep relays m := by
  rw [InStep, hm.relays, hm.connects]
  exact h

theorem InStep.handle (h : InStep relays n) (s : Settings) (r : Request) : InStep relays (handle s r n).2 := by
  by_cases hr : r = .openChannel
  · subst hr
    have hdial : InStep relays (n.dial s) := by
      rw [InStep, relays_dial, Network.connects, wire_dial, h, List.tail_drop, List.countP_cons_of_pos rfl]
      rfl
    exact hdial.quiet (quiet_waits s .openChannel n)
  · exact h.quiet ((quiet_asked s hr n).trans (quiet_waits s r n))

theorem inStep_run (h : InStep relays n) (s : Settings) (p : Script α) :
    InStep relays (p.run (Network.handle s) n).2 := by
  induction p generalizing n with
  | done a => exact h
  | ask r next ih => exact ih _ (h.handle s r)

/-! ## Between sessions -/

/-- nothing is open or set, and nothing to come belongs to a later connection -/
structure AtRest (n : Network) : Prop where
  kept : Kept [] n
  idle : n.line = .idle
  dated : Dated n

theorem atRest_start (w : World) (relays : List Relay) : AtRest (start w relays) :=
  ⟨kept_start w relays, rfl, dated_start w relays⟩

theorem AtRest.world (h : AtRest n) (w : World) : AtRest { n with world := w } :=
  ⟨⟨h.kept.set, h.kept.queue, h.kept.agenda, h.kept.verdicts, h.kept.sockets, h.kept.placed⟩, h.idle,
    h.dated.of_same rfl rfl rfl⟩

/-- **A session that closes what it has opened** leaves the network at rest. -/
theorem AtRest.run (h : AtRest n) {p : Script α} (hp : Concludes .unopened p) (s : Settings) :
    Released s p n ∧ AtRest (p.run (Network.handle s) n).2 := by
  obtain ⟨hreleased, hkept, hidle⟩ := released_of_concludes hp h.kept h.idle
  exact ⟨hreleased, hkept, hidle, dated_run h.dated s p⟩

end Network

end EnquiryMail.Net
