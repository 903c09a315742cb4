/-
What the network leaves alone. Carrying effects out changes neither the connection nor its number, and writes what the
effects write; things that happen by themselves write nothing, and the connection drifts: it may come up fresh, and
goes onward from there.

- `writes_effects`: what is written while effects are carried out.
- `drifts_next`, `drifts_turns`: one thing that happens, and all that happens during a wait.
-/
import EnquiryMail.Proofs.Connection.Protection
import EnquiryMail.Proofs.Net.Course

namespace EnquiryMail.Net

open EnquiryMail.Smtp
open Connection (Outcome Sound Onward Silent written?)

/-- what an event on the wire writes, and on which layer -/
def WireEvent.written? : WireEvent → Option (Layer × String)
  | .wrote layer text => some (layer, text)
  | _ => none

/-- a fresh connection may take the place of asking for one, and a connection that is there goes onward -/
def Line.Drifts : Line → Line → Prop
  | .idle, l => l = .idle
  | .dialing, l => ∀ c, l = .up c → c.upgrades = [] ∧ Sound c
  | .up c, l => ∃ c', l = .up c' ∧ Onward c (c', [])

namespace Line

theorem drifts_refl (l : Line) : Drifts l l := by
  cases l with
  | idle => rfl
  | dialing => intro c h; cases h
  | up c => exact ⟨c, rfl, Connection.onward_refl c⟩

theorem Drifts.trans {l l' l'' : Line} (h : Drifts l l') (h' : Drifts l' l'') : Drifts l l'' := by
  cases l with
  | idle => cases h; exact h'
  | dialing =>
    cases l' with
    | idle => cases h'; intro c hc; cases hc
    | dialing => exact h'
    | up c =>
      obtain ⟨hu, hc⟩ := h c rfl
      obtain ⟨c', rfl, hon⟩ := h'
      intro d hd
      cases hd
      exact ⟨hon.unstarted hu, hon.sound hc⟩
  | up c =>
    obtain ⟨c', rfl, hon⟩ := h
    obtain ⟨c'', rfl, hon'⟩ := h'
    exact ⟨c'', rfl, fun hc => hon'.sound (hon.sound hc), fun hs => hon'.secure (hon.secure hs),
      fun hu => hon'.unstarted (hon.unstarted hu), Connection.silent_nil⟩

end Line

namespace Network

/-- everything written so far, oldest first -/
def writes (n : Network) : List (Layer × String) := (n.wire.filterMap WireEvent.written?).reverse

theorem writes_record (n : Network) (e : WireEvent) : (n.record e).writes = n.writes ++ e.written?.toList := by
  simp only [writes, record, List.filterMap_cons]
  cases e.written? <;> simp

/-! ## Carrying effects out -/

theorem deliver_wire (n : Network) (layer : Layer) (d : Delivery) : (n.deliver layer d).wire = n.wire := by
  unfold deliver
  split
  · rfl
  · split <;> rfl

theorem deliver_line (n : Network) (layer : Layer) (d : Delivery) : (n.deliver layer d).line = n.line := by
  unfold deliver
  split
  · rfl
  · split <;> rfl

theorem deliver_number (n : Network) (layer : Layer) (d : Delivery) : (n.deliver layer d).number = n.number := by
  unfold deliver
  split
  · rfl
  · split <;> rfl

theorem effect_line (n : Network) (e : Effect) : (n.effect e).line = n.line := by
  cases e with
  | wrote layer text =>
    simp only [effect, reply]
    split
    · rfl
    · rw [deliver_line]; rfl
  | shake h => simp only [effect, shake]; split <;> rfl
  | _ => rfl

theorem effect_number (n : Network) (e : Effect) : (n.effect e).number = n.number := by
  cases e with
  | wrote layer text =>
    simp only [effect, reply]
    split
    · rfl
    · rw [deliver_number]; rfl
  | shake h => simp only [effect, shake]; split <;> rfl
  | _ => rfl

theorem writes_effect (n : Network) (e : Effect) :
    (n.effect e).writes = n.writes ++ (Connection.written? e).toList := by
  have hsame : ∀ m : Network, m.wire = n.wire → m.writes = n.writes ++ (none : Option (Layer × String)).toList := by
    intro m h; simp [writes, h]
  cases e with
  | wrote layer text =>
    have h := writes_record n (.wrote layer text)
    simp only [effect, reply]
    split
    · exact h
    · rw [writes, deliver_wire]; exact h
  | shake h =>
    have h := writes_record n (.shake h)
    simp only [effect, shake]
    split <;> exact h
  | destroyed layer => exact writes_record n (.destroyed layer)
  | _ => exact hsame _ rfl

theorem effects_line (n : Network) (es : List Effect) : (n.effects es).line = n.line := by
  induction es generalizing n with
  | nil => rfl
  | cons e es ih => exact (ih (n.effect e)).trans (effect_line n e)

theorem effects_number (n : Network) (es : List Effect) : (n.effects es).number = n.number := by
  induction es generalizing n with
  | nil => rfl
  | cons e es ih => exact (ih (n.effect e)).trans (effect_number n e)

theorem writes_effects (n : Network) (es : List Effect) :
    (n.effects es).writes = n.writes ++ es.filterMap Connection.written? := by
  induction es generalizing n with
  | nil => exact (List.append_nil _).symm
  | cons e es ih =>
    refine (ih (n.effect e)).trans ?_
    rw [writes_effect, List.append_assoc, List.filterMap_cons]
    cases Connection.written? e <;> rfl

/-! ## Things that happen by themselves -/

/-- nothing is written, and the connection drifts -/
structure Drifts (n n' : Network) : Prop where
  number : n'.number = n.number
  writes : n'.writes = n.writes
  line : Line.Drifts n.line n'.line

theorem drifts_refl (n : Network) : Drifts n n := ⟨rfl, rfl, Line.drifts_refl n.line⟩

theorem Drifts.trans {n n' n'' : Network} (h : Drifts n n') (h' : Drifts n' n'') : Drifts n n'' :=
  ⟨h'.number.trans h.number, h'.writes.trans h.writes, h.line.trans h'.line⟩

theorem onConnection_up {n : Network} {c : Connection} (hc : n.line = .up c) (f : Connection → Outcome) :
    (n.onConnection f).number = n.number ∧ (n.onConnection f).line = .up (f c).1 ∧
      (n.onConnection f).writes = n.writes ++ (f c).2.filterMap written? := by
  unfold onConnection
  rw [hc]
  exact ⟨effects_number _ _, effects_line _ _, writes_effects _ _⟩

theorem onConnection_down {n : Network} (hn : ∀ c, n.line ≠ .up c) (f : Connection → Outcome) :
    n.onConnection f = n := by
  unfold onConnection
  split
  · rename_i c hc; exact absurd hc (hn c)
  · rfl

theorem drifts_onConnection (n : Network) {f : Connection → Outcome} (hf : ∀ c, Onward c (f c)) :
    Drifts n (n.onConnection f) := by
  by_cases hup : ∃ c, n.line = .up c
  · obtain ⟨c, hc⟩ := hup
    obtain ⟨hnumber, hline, hwrites⟩ := onConnection_up hc f
    obtain ⟨hsound, hsecure, hunstarted, hsilent⟩ := hf c
    rw [Connection.filterMap_written?_of_silent hsilent, List.append_nil] at hwrites
    refine ⟨hnumber, hwrites, ?_⟩
    rw [hc]
    exact ⟨_, hline, hsound, hsecure, hunstarted, Connection.silent_nil⟩
  · rw [onConnection_down (not_exists.1 hup)]
    exact drifts_refl n

theorem sound_start (s : Settings) : Sound (Connection.start s) := .plain rfl rfl rfl

theorem dialedAs_connected (n : Network) (c : Connection) (es : List Effect) :
    (n.dialedAs (.connected c, es)).number = n.number ∧ (n.dialedAs (.connected c, es)).line = .up c ∧
      (n.dialedAs (.connected c, es)).writes = n.writes ++ es.filterMap Connection.written? := by
  have hdeliver := deliver_wire ({ n with line := .up c }.effects es) .plain n.greeting
  refine ⟨?_, ?_, ?_⟩
  · exact (deliver_number ({ n with line := .up c }.effects es) .plain n.greeting).trans
      (effects_number { n with line := .up c } es)
  · exact (deliver_line ({ n with line := .up c }.effects es) .plain n.greeting).trans
      (effects_line { n with line := .up c } es)
  · have hwrites := writes_effects { n with line := .up c } es
    simp only [writes] at hwrites ⊢
    rw [← hwrites, ← hdeliver]
    rfl

theorem dialedAs_failed (n : Network) (m : String) (es : List Effect) :
    (n.dialedAs (.failed m, es)).number = n.number ∧ (n.dialedAs (.failed m, es)).line = .idle ∧
      (n.dialedAs (.failed m, es)).writes = n.writes ++ es.filterMap Connection.written? :=
  ⟨effects_number { n with line := .idle } es, effects_line { n with line := .idle } es,
    writes_effects { n with line := .idle } es⟩

theorem drifts_accepted (n : Network) (s : Settings) (hn : n.line = .dialing) :
    Drifts n (n.dialedAs (Dial.accepted s (Connection.start s))) := by
  obtain ⟨hnumber, hline, hwrites⟩ := dialedAs_connected n (Connection.start s) (Dial.accepted s (.start s)).2
  refine ⟨hnumber, hwrites.trans (List.append_nil _), ?_⟩
  rw [hn]
  intro c hc
  cases hline.symm.trans hc
  exact ⟨rfl, sound_start s⟩

theorem drifts_failed (n : Network) {m : String} {es : List Effect} (hes : Silent es) (hn : n.line = .dialing) :
    Drifts n (n.dialedAs (.failed m, es)) := by
  obtain ⟨hnumber, hline, hwrites⟩ := dialedAs_failed n m es
  rw [Connection.filterMap_written?_of_silent hes, List.append_nil] at hwrites
  refine ⟨hnumber, hwrites, ?_⟩
  rw [hn]
  intro c hc
  cases hline.symm.trans hc

theorem silent_givenUp (live : Bool) : Silent (Dial.givenUp live) := by
  cases live <;> simp [Dial.givenUp, Silent]

theorem drifts_happen (n : Network) (x : Nat × Coming) : Drifts n (n.happen x) := by
  obtain ⟨number, x⟩ := x
  unfold happen
  dsimp only
  split
  · exact drifts_refl n
  split
  · rename_i hn; exact drifts_accepted n n.settings hn
  · rename_i m hn
    refine drifts_failed n ?_ hn
    have hdisarm : Silent [.disarm .connect] := by simp [Silent]
    exact Connection.silent_append hdisarm (silent_givenUp true)
  · rename_i hn; exact drifts_failed n (silent_givenUp true) hn
  · exact drifts_onConnection n fun c => Connection.onward_alarm _ c
  · exact drifts_onConnection n fun c => (Connection.steady_receive _ _ _ _ c).onward
  · exact drifts_onConnection n fun c => Connection.onward_shaken 0 c
  · exact drifts_onConnection n fun c => Connection.onward_shakeFailed _ 0 _ c
  · exact drifts_refl n

theorem drifts_next {n n' : Network} (h : n.next? = some n') : Drifts n n' := by
  unfold next? at h
  split at h
  · rename_i x rest _
    cases h
    obtain ⟨hnumber, hwrites, hline⟩ := drifts_happen { n with queue := rest } x
    exact ⟨hnumber, hwrites, hline⟩
  · split at h
    · rename_i due x rest _
      cases h
      obtain ⟨hnumber, hwrites, hline⟩ :=
        drifts_happen { n with agenda := rest, world := { n.world with now := due } } x
      exact ⟨hnumber, hwrites, hline⟩
    · cases h

/-- **A wait is a row of drifts.** -/
theorem drifts_turns (ready : Network → Bool) (fuel : Nat) (n : Network) :
    List.IsChain Drifts (n :: turns ready fuel n) := chain_turns (fun _ _ => drifts_next) ready fuel n

end Network

end EnquiryMail.Net
