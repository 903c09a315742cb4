/-
What goes out in the clear. Over the network, whatever the relays do, a session writes at most the first EHLO and
STARTTLS on a plain socket; everything else is written on a TLS socket whose handshake is done.

- `Guard`: what holds of the network in each phase of a session; `guard_drifts` and `guard_asked` keep it, through what
  happens by itself and through a request.
- `guard_course`: so every state on the way of a session that makes no use of its channel out of place is safe.
- `sessions_confidential`: deliveries and tries are such sessions.
-/
import EnquiryMail.Proofs.Net.Drift
import EnquiryMail.Proofs.Session.Phase

namespace EnquiryMail.Net.Network

open EnquiryMail.Smtp
open EnquiryMail.Mail (Message)
open Connection (Sound Steady Onward Silent)

variable {α : Type}

/-- the texts written on plain sockets, oldest first -/
def plainWrites (n : Network) : List String := (n.writes.filter (·.1 = .plain)).map Prod.snd

/-- the texts that may be written on a plain socket -/
def openingTexts (s : Settings) : List String := ["EHLO " ++ s.ehloDomain ++ "\r\n", "STARTTLS\r\n"]

/-- the session has a connection that says that it is encrypted -/
def Secured (n : Network) : Prop := ∃ c, n.line = .up c ∧ c.secure = true

/-- what is written from one state to the next is written on the current socket, which is one whose handshake is done
if it is a TLS socket -/
def WritesOnCurrent (n n' : Network) : Prop :=
  ∃ new, n'.writes = n.writes ++ new ∧
    ∀ w ∈ new, ∃ c, n.line = .up c ∧ c.socket.layer = w.1 ∧ (w.1 = .tls → c.Encrypted)

/-- a session that keeps its secrets, whatever the relays do -/
structure Confidential (s : Settings) (session : Script α) (n : Network) : Prop where
  /-- nothing but the opening is written in the clear, at any time and in the end -/
  plain : ∀ n' ∈ n :: course s session n, n'.plainWrites <+: openingTexts s
  wire : (session.run (handle s) n).2.plainWrites <+: openingTexts s
  /-- all that is written is written on the current socket, after its handshake if it is a TLS socket -/
  encrypted : (n :: course s session n).IsChain WritesOnCurrent
  /-- the connection says that it is encrypted when it is -/
  secure : ∀ n' ∈ n :: course s session n, (handle s .isSecure n').1 = true ↔ ∃ c, n'.line = .up c ∧ c.Encrypted
  /-- and says so until it is let go -/
  kept : (n :: course s session n).Pairwise fun a b => a.Secured → b.Secured ∨ b.line = .idle

/-! ## The guard of each phase -/

/-- the connection, if there is one, has a property -/
def Holds (n : Network) (P : Connection → Prop) : Prop := ∀ c, n.line = .up c → P c

/-- what holds of the network in a phase of the session with a number -/
def Guard (s : Settings) (number : Nat) : Phase → Network → Prop
  | .unopened, n => n.line = .idle ∧ n.number + 1 = number ∧ n.plainWrites = []
  | .plain left, n =>
    number ≤ n.number ∧ n.plainWrites ++ left.map (· ++ "\r\n") = openingTexts s ∧
      n.Holds fun c => Sound c ∧ c.upgrades = []
  | .halted, n => number ≤ n.number ∧ n.plainWrites <+: openingTexts s ∧ n.Holds Sound
  | .sealed, n =>
    number ≤ n.number ∧ n.plainWrites <+: openingTexts s ∧ ∃ c, n.line = .up c ∧ Sound c ∧ c.secure = true
  | .closed, n => n.plainWrites <+: openingTexts s ∧ n.Holds Sound

/-- what holds in every phase -/
def Safe (s : Settings) (n : Network) : Prop := n.plainWrites <+: openingTexts s ∧ n.Holds Sound

/-- the connection says that it is encrypted, or the session with a number has let it go -/
def Sealed (number : Nat) (n : Network) : Prop := n.Secured ∨ n.line = .idle ∧ number ≤ n.number

/-- from one state to the next -/
structure Link (number : Nat) (n n' : Network) : Prop where
  writes : WritesOnCurrent n n'
  kept : n.Sealed number → n'.Sealed number

variable {s : Settings} {number : Nat} {φ φ' : Phase} {n n' : Network}

theorem Guard.safe (h : Guard s number φ n) : Safe s n := by
  cases φ with
  | unopened =>
    obtain ⟨hline, -, hplain⟩ := h
    refine ⟨by rw [hplain]; exact List.nil_prefix, fun c hc => ?_⟩
    cases hline.symm.trans hc
  | plain left =>
    obtain ⟨-, hplain, hc⟩ := h
    exact ⟨⟨_, hplain⟩, fun c hl => (hc c hl).1⟩
  | halted => exact h.2
  | sealed =>
    obtain ⟨-, hplain, c, hline, hsound, -⟩ := h
    refine ⟨hplain, fun d hd => ?_⟩
    cases hline.symm.trans hd
    exact hsound
  | closed => exact h

theorem plainWrites_of_writes (h : n'.writes = n.writes) : n'.plainWrites = n.plainWrites := by
  rw [plainWrites, h, plainWrites]

/-- a property that goes onward and that a fresh connection has outlasts a drift -/
theorem Drifts.holds (h : Drifts n n') {P : Connection → Prop} (hfresh : ∀ c, c.upgrades = [] → Sound c → P c)
    (honward : ∀ c c', Onward c (c', []) → P c → P c') (hn : n.Holds P) : n'.Holds P := by
  intro c' hc'
  have hline := h.line
  cases hl : n.line with
  | idle =>
    rw [hl] at hline
    cases hline.symm.trans hc'
  | dialing =>
    rw [hl] at hline
    obtain ⟨hu, hs⟩ := hline c' hc'
    exact hfresh c' hu hs
  | up c =>
    rw [hl] at hline
    obtain ⟨d, hd, hon⟩ := hline
    cases hd.symm.trans hc'
    exact honward c c' hon (hn c hl)

theorem guard_drifts (h : Drifts n n') (hn : Guard s number φ n) : Guard s number φ n' := by
  have hplain := plainWrites_of_writes h.writes
  have hnumber := h.number
  have hsound : ∀ c c', Onward c (c', []) → Sound c → Sound c' := fun c c' hon => hon.sound
  cases φ with
  | unopened =>
    obtain ⟨hidle, hnum, hempty⟩ := hn
    have hline := h.line
    rw [hidle] at hline
    exact ⟨hline, by rw [hnumber, hnum], by rw [hplain, hempty]⟩
  | plain left =>
    obtain ⟨hnum, hopening, hc⟩ := hn
    refine ⟨by rw [hnumber]; exact hnum, by rw [hplain, hopening], h.holds ?_ ?_ hc⟩
    · exact fun c hu hs => ⟨hs, hu⟩
    · exact fun c c' hon hc => ⟨hon.sound hc.1, hon.unstarted hc.2⟩
  | halted =>
    obtain ⟨hnum, hopening, hc⟩ := hn
    exact ⟨by rw [hnumber]; exact hnum, by rw [hplain]; exact hopening, h.holds (fun c _ hs => hs) hsound hc⟩
  | sealed =>
    obtain ⟨hnum, hopening, c, hc, hs, hsecure⟩ := hn
    have hline := h.line
    rw [hc] at hline
    obtain ⟨c', hc', hon⟩ := hline
    exact ⟨by rw [hnumber]; exact hnum, by rw [hplain]; exact hopening, c', hc', hon.sound hs, hon.secure hsecure⟩
  | closed =>
    obtain ⟨hopening, hc⟩ := hn
    exact ⟨by rw [hplain]; exact hopening, h.holds (fun c _ hs => hs) hsound hc⟩

/-- what happens by itself writes nothing -/
theorem Drifts.writesOnCurrent (h : Drifts n n') : WritesOnCurrent n n' :=
  ⟨[], by rw [h.writes, List.append_nil], fun w hw => nomatch hw⟩

theorem Drifts.link (h : Drifts n n') : Link number n n' := by
  refine ⟨h.writesOnCurrent, ?_⟩
  have hline := h.line
  rintro (⟨c, hc, hsecure⟩ | ⟨hidle, hnum⟩)
  · rw [hc] at hline
    obtain ⟨c', hc', hon⟩ := hline
    exact .inl ⟨c', hc', hon.secure hsecure⟩
  · rw [hidle] at hline
    exact .inr ⟨hline, by rw [h.number]; exact hnum⟩

/-! ## Requests -/

theorem drifts_silent {f : Connection → Connection.Outcome} (hf : ∀ c, Steady c (f c)) (n : Network) :
    Drifts n (n.onConnection f) := drifts_onConnection n fun c => (hf c).onward

theorem drifts_read (s : Settings) (n : Network) : Drifts n (n.asked s .read) := by
  obtain ⟨hnumber, hwrites, hline⟩ :=
    drifts_silent (Connection.steady_read n.world.now 0) { n with answer := none }
  exact ⟨hnumber, hwrites, hline⟩

/-- a request to the surroundings is nothing to the connection -/
theorem drifts_surroundings (s : Settings) {r : Request} (h : r.ofChannel = false) (n : Network) :
    Drifts n (n.asked s r) := by
  cases r <;> first | exact ⟨rfl, rfl, Line.drifts_refl n.line⟩ | cases h

theorem asked_dial (s : Settings) (n : Network) :
    (n.dial s).line = .dialing ∧ (n.dial s).number = n.number + 1 ∧ (n.dial s).writes = n.writes := by
  unfold dial
  dsimp only
  split <;> exact ⟨rfl, rfl, rfl⟩

/-- asking for a connection starts the session with the next number -/
theorem guard_openChannel (hn : Guard s number .unopened n) :
    Guard s number (.plain (openingLines s)) (n.dial s) ∧ Link number n (n.dial s) := by
  obtain ⟨hidle, hnum, hempty⟩ := hn
  obtain ⟨hline, hnumber, hwrites⟩ := asked_dial s n
  refine ⟨⟨by omega, ?_, fun c hc => ?_⟩, ⟨[], by rw [hwrites, List.append_nil], fun w hw => nomatch hw⟩, ?_⟩
  · rw [plainWrites_of_writes hwrites, hempty]
    rfl
  · cases hline.symm.trans hc
  · rintro (⟨c, hc, -⟩ | ⟨-, hle⟩)
    · cases hidle.symm.trans hc
    · omega

/-- what a write with an answer has put on the wire -/
def sent (text : String) : Line → Except String Unit → List (Layer × String)
  | .up c, .ok _ => [(c.socket.layer, text)]
  | _, _ => []

/-- one write, with its answer, and nothing else -/
structure Wrote (text : String) (x : Except String Unit) (n n' : Network) : Prop where
  line : n'.line = n.line
  number : n'.number = n.number
  up : x.isOk = true → ∃ c, n.line = .up c
  writes : n'.writes = n.writes ++ sent text n.line x

theorem wrote_nothing (text m : String) (n : Network) : Wrote text (.error m) n n := by
  refine ⟨rfl, rfl, (nomatch ·), ?_⟩
  cases n.line <;> exact (List.append_nil _).symm

theorem wrote_effects {c : Connection} (hc : n.line = .up c) {text : String} {o : Except String Unit × List Effect}
    (ho : o.2.filterMap Connection.written? =
      match o.1 with
      | .ok _ => [(c.socket.layer, text)]
      | .error _ => []) : Wrote text o.1 n (n.effects o.2) := by
  refine ⟨effects_line n o.2, effects_number n o.2, fun _ => ⟨c, hc⟩, ?_⟩
  rw [writes_effects, ho, hc]
  cases o.1 <;> rfl

theorem wrote_line (s : Settings) (line : String) (secret : Bool) (n : Network) :
    Wrote (line ++ "\r\n") (handle s (.writeLine line secret) n).1 n (n.asked s (.writeLine line secret)) := by
  simp only [asked, handle]
  split
  · rename_i c hc
    exact wrote_effects hc (Connection.written_writeLine line secret c)
  · exact wrote_nothing _ _ n

theorem wrote_raw (s : Settings) (data : String) (n : Network) :
    Wrote data (handle s (.writeRaw data) n).1 n (n.asked s (.writeRaw data)) := by
  simp only [asked, handle]
  split
  · rename_i c hc
    exact wrote_effects hc (Connection.written_writeRaw data c)
  · exact wrote_nothing _ _ n

/-- a write on a sound connection goes out on its socket, after the handshake if there is one -/
theorem Wrote.link {text : String} {x : Except String Unit} (h : Wrote text x n n') (hn : n.Holds Sound) :
    Link number n n' := by
  refine ⟨⟨_, h.writes, fun w hw => ?_⟩, ?_⟩
  · cases hl : n.line with
    | up c =>
      rw [hl] at hw
      cases x with
      | error m => cases hw
      | ok u =>
        obtain rfl := List.mem_singleton.1 hw
        refine ⟨c, rfl, rfl, fun htls => ?_⟩
        have hsound := hn c hl
        refine hsound.secure_iff.1 ?_
        cases hsound with
        | plain _ _ hp => cases hp.symm.trans htls
        | pending _ _ _ _ _ hp => cases hp.symm.trans htls
        | done _ _ _ _ hs => exact hs
    | idle => rw [hl] at hw; cases hw
    | dialing => rw [hl] at hw; cases hw
  · rintro (⟨c, hc, hs⟩ | ⟨hidle, hnum⟩)
    · exact .inl ⟨c, h.line.trans hc, hs⟩
    · exact .inr ⟨h.line.trans hidle, h.number ▸ hnum⟩

theorem plainWrites_append {ws : List (Layer × String)} (h : n'.writes = n.writes ++ ws) :
    n'.plainWrites = n.plainWrites ++ (ws.filter (·.1 = .plain)).map Prod.snd := by
  rw [plainWrites, h, List.filter_append, List.map_append, plainWrites]

theorem layer_plain_of_sound {c : Connection} (h : Sound c) (hu : c.upgrades = []) : c.socket.layer = .plain := by
  cases h with
  | plain _ _ hl => exact hl
  | pending u h => cases hu.symm.trans h
  | done u h => cases hu.symm.trans h

theorem layer_tls_of_sound {c : Connection} (h : Sound c) (hs : c.secure = true) : c.socket.layer = .tls :=
  (h.secure_iff.1 hs).1

/-- a line that is in place before the upgrade: written, or not -/
theorem guard_line {line : String} {left : List String} {x : Except String Unit}
    (hn : Guard s number (.plain (line :: left)) n) (h : Wrote (line ++ "\r\n") x n n') :
    Guard s number (if x.isOk then .plain left else .halted) n' := by
  obtain ⟨hnum, hopening, hc⟩ := hn
  have hwrites := h.writes
  cases x with
  | error m =>
    have hsent : sent (line ++ "\r\n") n.line (.error m) = [] := by cases n.line <;> rfl
    rw [hsent, List.append_nil] at hwrites
    refine ⟨by rw [h.number]; exact hnum, ?_, fun c hl => (hc c (h.line ▸ hl)).1⟩
    rw [plainWrites_of_writes hwrites]
    exact ⟨_, hopening⟩
  | ok u =>
    obtain ⟨c, hl⟩ := h.up rfl
    obtain ⟨hsound, hfresh⟩ := hc c hl
    rw [hl, sent, layer_plain_of_sound hsound hfresh] at hwrites
    refine ⟨by rw [h.number]; exact hnum, ?_, fun c hl => hc c (h.line ▸ hl)⟩
    rw [plainWrites_append hwrites, ← hopening]
    simp

/-- a write over an encrypted connection -/
theorem guard_sealed {text : String} {x : Except String Unit} (hn : Guard s number .sealed n) (h : Wrote text x n n') :
    Guard s number .sealed n' := by
  obtain ⟨hnum, hopening, c, hl, hsound, hsecure⟩ := hn
  refine ⟨by rw [h.number]; exact hnum, ?_, c, h.line.trans hl, hsound, hsecure⟩
  have hplain : ((sent text n.line x).filter (·.1 = .plain)) = [] := by
    rw [hl]
    cases x with
    | error m => rfl
    | ok u => simp [sent, layer_tls_of_sound hsound hsecure]
  rw [plainWrites_append h.writes, hplain]
  simpa using hopening

/-- starting an upgrade writes nothing -/
theorem guard_startTls (s : Settings) {left : List String} (hn : Guard s number (.plain left) n) :
    Guard s number .halted (n.asked s .startTls) ∧ Link number n (n.asked s .startTls) := by
  obtain ⟨hnum, hopening, hc⟩ := hn
  have hprefix : n.plainWrites <+: openingTexts s := ⟨_, hopening⟩
  let m : Network := { n with upgraded := none }
  let start := Connection.startTls 0 (trustAnchor n.world s)
  show Guard s number .halted (m.onConnection start) ∧ Link number n (m.onConnection start)
  by_cases hup : ∃ c, n.line = .up c
  · obtain ⟨c, hl⟩ := hup
    obtain ⟨hsound, hfresh⟩ := hc c hl
    have hmark : c.secure = false := by
      cases hsound with
      | plain _ hs => exact hs
      | pending u h => cases hfresh.symm.trans h
      | done u h => cases hfresh.symm.trans h
    obtain ⟨hnumber, hline, hwrites⟩ := onConnection_up (show m.line = .up c from hl) start
    rw [Connection.filterMap_written?_of_silent (Connection.silent_startTls 0 _ c), List.append_nil] at hwrites
    refine ⟨⟨hnumber ▸ hnum, ?_, fun d hd => ?_⟩, ⟨[], ?_, fun w hw => nomatch hw⟩, ?_⟩
    · rw [plainWrites_of_writes (show (m.onConnection start).writes = n.writes from hwrites)]
      exact hprefix
    · cases hline.symm.trans hd
      exact Connection.sound_startTls 0 _ hsound hfresh
    · rw [hwrites, List.append_nil]
      rfl
    · rintro (⟨d, hd, hs⟩ | ⟨hidle, -⟩)
      · cases hl.symm.trans hd
        cases hmark.symm.trans hs
      · cases hl.symm.trans hidle
  · have hm : m.onConnection start = m := onConnection_down (n := m) (not_exists.1 hup) start
    have hdrifts : Drifts n m := ⟨rfl, rfl, Line.drifts_refl n.line⟩
    rw [hm]
    exact ⟨⟨hnum, hprefix, fun c hl => (hc c hl).1⟩, hdrifts.link⟩

/-- letting a connection go writes nothing -/
theorem guard_close (s : Settings) (hφ : φ.isOpen = true) (hn : Guard s number φ n) :
    Guard s number .closed (n.asked s .close) ∧ Link number n (n.asked s .close) := by
  have hdrifts := drifts_silent (Connection.steady_close n.world.now) n
  have hwrites : (n.asked s .close).writes = n.writes := hdrifts.writes
  have hnum : number ≤ n.number := by
    cases φ with
    | plain left => exact hn.1
    | halted => exact hn.1
    | sealed => exact hn.1
    | unopened => cases hφ
    | closed => cases hφ
  refine ⟨⟨?_, fun c hc => nomatch hc⟩, ⟨[], by rw [hwrites, List.append_nil], fun w hw => nomatch hw⟩, fun _ => ?_⟩
  · rw [plainWrites_of_writes hwrites]
    exact hn.safe.1
  · exact .inr ⟨rfl, by rw [← hdrifts.number] at hnum; exact hnum⟩

theorem isSecure_iff (s : Settings) (n : Network) : (handle s .isSecure n).1 = true ↔ n.Secured := by
  rw [handle]
  cases hline : n.line with
  | up c =>
    constructor
    · exact fun hs => ⟨c, hline, hs⟩
    · rintro ⟨d, hd, hs⟩
      cases hline.symm.trans hd
      exact hs
  | _ =>
    constructor
    · intro h; cases h
    · rintro ⟨d, hd, -⟩
      cases hline.symm.trans hd

/-- the channel says whether it is encrypted -/
theorem guard_isSecure (hn : Guard s number .halted n) {x : Bool} (hx : (handle s .isSecure n).1 = x) :
    Guard s number (if x then .sealed else .halted) n := by
  cases x with
  | false => exact hn
  | true =>
    obtain ⟨hnum, hopening, hc⟩ := hn
    obtain ⟨c, hl, hs⟩ := (isSecure_iff s n).1 hx
    exact ⟨hnum, hopening, c, hl, hc c hl, hs⟩

/-- a request that is in place: the guard of the next phase holds at once -/
theorem guard_asked {r : Request} (hn : Guard s number φ n)
    (hafter : φ.after s ⟨r, (handle s r n).1⟩ = some φ') :
    Guard s number φ' (n.asked s r) ∧ Link number n (n.asked s r) := by
  have hsound := hn.safe.2
  cases hr : r.ofChannel with
  | false =>
    have hdrifts := drifts_surroundings s hr n
    have heq : φ = φ' := Option.some.inj ((Phase.after_of_not_channel s φ _ hr).symm.trans hafter)
    exact heq ▸ ⟨guard_drifts hdrifts hn, hdrifts.link⟩
  | true =>
    cases r with
    | openChannel =>
      cases φ <;> cases hafter
      exact guard_openChannel hn
    | read =>
      have hdrifts := drifts_read s n
      cases φ <;> cases hafter
      all_goals exact ⟨guard_drifts hdrifts hn, hdrifts.link⟩
    | writeLine line secret =>
      have hwrote := wrote_line s line secret n
      refine ⟨?_, hwrote.link hsound⟩
      cases φ with
      | plain left =>
        cases left with
        | nil => cases hafter
        | cons l left =>
          obtain ⟨rfl, hφ'⟩ := Option.ite_none_right_eq_some.1 hafter
          cases hφ'
          exact guard_line hn hwrote
      | sealed => cases hafter; exact guard_sealed hn hwrote
      | _ => cases hafter
    | writeRaw data =>
      have hwrote := wrote_raw s data n
      cases φ <;> cases hafter
      exact ⟨guard_sealed hn hwrote, hwrote.link hsound⟩
    | startTls =>
      cases φ <;> cases hafter
      exact guard_startTls s hn
    | isSecure =>
      cases φ <;> cases hafter
      exact ⟨guard_isSecure hn rfl, (drifts_refl n).link⟩
    | close =>
      cases φ <;> cases hafter
      all_goals exact guard_close s rfl hn
    | _ => cases hr

/-! ## Sessions -/

theorem guard_chain {l : List Network} (hchain : List.IsChain Drifts (n :: l)) (hn : Guard s number φ n) :
    ∀ n' ∈ n :: l, Guard s number φ n' := by
  induction l generalizing n with
  | nil =>
    intro n' h
    obtain rfl := List.mem_singleton.1 h
    exact hn
  | cons m l ih =>
    obtain ⟨hdrifts, hchain⟩ := List.isChain_cons_cons.1 hchain
    intro n' h
    rcases List.mem_cons.1 h with rfl | h
    · exact hn
    · exact ih hchain (guard_drifts hdrifts hn) n' h

/-- from a request that is in place to its answer -/
theorem guard_during {r : Request} (hn : Guard s number φ n)
    (hafter : φ.after s ⟨r, (handle s r n).1⟩ = some φ') :
    (n :: n.during s r).IsChain (Link number) ∧ ∀ n' ∈ n.during s r, Guard s number φ' n' := by
  obtain ⟨hasked, hlink⟩ := guard_asked hn hafter
  have hturns := drifts_turns (settled r) (2 * ((n.asked s r).queue.length + (n.asked s r).agenda.length) + 2)
    (n.asked s r)
  exact ⟨.cons_cons hlink (hturns.imp fun _ _ h => h.link), guard_chain hturns hasked⟩

/-- **Every state on the way is safe.** From a state that satisfies the guard of a phase, a session that makes no use
of its channel out of place from that phase on passes through safe states only, each linked to the next. -/
theorem guard_course (p : Script α) (hn : Guard s number φ n) (hp : (Phase.secrecy s).Obeys φ p) :
    (n :: course s p n).IsChain (Link number) ∧ ∀ n' ∈ n :: course s p n, Safe s n' := by
  induction p generalizing n φ with
  | done a =>
    refine ⟨.singleton n, fun n' h => ?_⟩
    obtain rfl := List.mem_singleton.1 h
    exact hn.safe
  | ask r next ih =>
    let x := (handle s r n).1
    let m := (handle s r n).2
    obtain ⟨φ', hafter, hnext⟩ := hp.after x
    obtain ⟨hchain, hguard⟩ := guard_during hn hafter
    have hm : m = (n.during s r).getLastD n := handle_eq_getLastD s r n
    have hguarded : Guard s number φ' m := by
      rw [hm, during, List.getLastD_cons]
      exact hguard _ List.getLastD_mem_cons
    obtain ⟨hchain', hsafe⟩ := ih x hguarded hnext
    rw [course]
    refine ⟨chain_append hchain (hm ▸ hchain'), fun n' h => ?_⟩
    rcases List.mem_cons.1 h with rfl | h
    · exact hn.safe
    · rcases List.mem_append.1 h with h | h
      · exact (hguard n' h).safe
      · exact hsafe n' (List.mem_cons_of_mem m h)

theorem guard_start (s : Settings) (w : World) (relays : List Relay) : Guard s 1 .unopened (start w relays) :=
  ⟨rfl, rfl, rfl⟩

/-- a session that makes no use of its channel out of place keeps its secrets -/
theorem confidential_of_obeys (s : Settings) (w : World) (relays : List Relay) {p : Script α}
    (hp : (Phase.secrecy s).Obeys .unopened p) : Confidential s p (start w relays) := by
  obtain ⟨hchain, hsafe⟩ := guard_course p (guard_start s w relays) hp
  refine ⟨fun n' h => (hsafe n' h).1, ?_, hchain.imp fun _ _ h => h.writes, fun n' h => ?_, ?_⟩
  · rw [run_eq_getLastD]
    exact (hsafe _ List.getLastD_mem_cons).1
  · rw [isSecure_iff]
    have hsound := (hsafe n' h).2
    constructor
    · rintro ⟨c, hc, hs⟩
      exact ⟨c, hc, (hsound c hc).secure_iff.1 hs⟩
    · rintro ⟨c, hc, he⟩
      exact ⟨c, hc, (hsound c hc).secure_iff.2 he⟩
  · have hkept : (start w relays :: course s p (start w relays)).IsChain fun a b : Network => a.Sealed 1 → b.Sealed 1 :=
      hchain.imp fun _ _ h => h.kept
    let Goes (a b : Network) : Prop := a.Sealed 1 → b.Sealed 1
    have htrans : Trans Goes Goes Goes := ⟨fun hab hbc ha => hbc (hab ha)⟩
    refine hkept.pairwise.imp fun {a b} h hs => ?_
    rcases h (.inl hs) with hb | ⟨hidle, -⟩
    · exact .inl hb
    · exact .inr hidle

/-- **Sessions keep their secrets.** Over a network of any relays, a delivery and a try write nothing but the opening
in the clear and everything else after a finished handshake, and the connection says that it is encrypted exactly
when it is, for as long as there is one. -/
theorem sessions_confidential (s : Settings) (w : World) (relays : List Relay) :
    (∀ m offset dating, Confidential s (sendMail s m offset dating) (start w relays)) ∧
      Confidential s (verifyRelay s) (start w relays) :=
  ⟨fun m offset dating => confidential_of_obeys s w relays ((Phase.secrecy_serves s).obeys_sendMail m offset dating),
    confidential_of_obeys s w relays (Phase.secrecy_serves s).obeys_verifyRelay⟩

end EnquiryMail.Net.Network
