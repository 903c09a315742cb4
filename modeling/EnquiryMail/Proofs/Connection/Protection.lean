/-
How a connection is protected. Besides starting an upgrade and finishing it, no transition touches the upgrades, the
mark that the connection is secure, or what is spoken on its socket (`Steady`); and none but writing writes.

- `Sound`: no upgrade has been started and all is plain, or there is one, and the connection is secure and speaks TLS
  if it is done, and neither if it is not.
- `onward_shaken`, `onward_abandon`, `onward_shakeFailed`, `sound_startTls`: the transitions of an upgrade keep that.
- `Sound.secure_iff`: a sound connection is secure exactly when its socket is a TLS socket with a finished handshake.
- `written_writeRaw`: a write goes out on the current socket.
-/
import Mathlib.Tactic
import EnquiryMail.Net.Network

namespace EnquiryMail.Smtp.Connection

/-- the current socket is a TLS socket whose handshake is done -/
def Encrypted (c : Connection) : Prop :=
  c.socket.layer = .tls ∧ ∃ u ∈ c.upgrades, u.socket.layer = .tls ∧ u.phase = .done

/-- at most one upgrade, and the connection is where that is -/
inductive Sound (c : Connection) : Prop
  | plain (hu : c.upgrades = []) (hs : c.secure = false) (hl : c.socket.layer = .plain)
  | pending (u : Upgrade) (hu : c.upgrades = [u]) (ht : u.socket.layer = .tls) (hp : u.phase ≠ .done)
      (hs : c.secure = false) (hl : c.socket.layer = .plain)
  | done (u : Upgrade) (hu : c.upgrades = [u]) (ht : u.socket.layer = .tls) (hp : u.phase = .done)
      (hs : c.secure = true) (hl : c.socket.layer = .tls)

theorem Sound.secure_iff {c : Connection} (h : Sound c) : c.secure = true ↔ c.Encrypted := by
  cases h with
  | plain hu hs hl => simp [Encrypted, hs, hl]
  | pending u hu ht hp hs hl => simp [Encrypted, hs, hl]
  | done u hu ht hp hs hl => simp [Encrypted, hs, hl, hu, hp, ht]

/-! ## Transitions that leave the protection alone -/

/-- effects that write nothing -/
def Silent (es : List Effect) : Prop := ∀ layer text, Effect.wrote layer text ∉ es

theorem silent_nil : Silent [] := fun _ _ h => nomatch h

theorem silent_append {es fs : List Effect} (he : Silent es) (hf : Silent fs) : Silent (es ++ fs) := by
  intro layer text h
  rcases List.mem_append.1 h with h | h
  · exact he layer text h
  · exact hf layer text h

theorem silent_traceReply (lines : List String) : Silent (traceReply lines) := by
  intro layer text h
  obtain ⟨l, -, hl⟩ := List.mem_map.1 h
  cases hl

/-- an outcome with the protection as it was, and nothing written -/
structure Steady (c : Connection) (o : Outcome) : Prop where
  upgrades : o.1.upgrades = c.upgrades
  secure : o.1.secure = c.secure
  layer : o.1.socket.layer = c.socket.layer
  silent : Silent o.2

theorem Steady.andThen {c : Connection} {o : Outcome} {f : Connection → Outcome} (ho : Steady c o)
    (hf : ∀ c', Steady c' (f c')) : Steady c (andThen o f) where
  upgrades := (hf o.1).upgrades.trans ho.upgrades
  secure := (hf o.1).secure.trans ho.secure
  layer := (hf o.1).layer.trans ho.layer
  silent := silent_append ho.silent (hf o.1).silent

theorem Steady.sound {c : Connection} {o : Outcome} (h : Steady c o) (hc : Sound c) : Sound o.1 := by
  cases hc with
  | plain hu hs hl => exact .plain (h.upgrades.trans hu) (h.secure.trans hs) (h.layer.trans hl)
  | pending u hu ht hp hs hl => exact .pending u (h.upgrades.trans hu) ht hp (h.secure.trans hs) (h.layer.trans hl)
  | done u hu ht hp hs hl => exact .done u (h.upgrades.trans hu) ht hp (h.secure.trans hs) (h.layer.trans hl)

theorem steady_pushLine (now : Int) (line : String) (c : Connection) : Steady c (pushLine now line c) := by
  unfold pushLine
  split
  · exact ⟨rfl, rfl, rfl, silent_nil⟩
  · split
    · refine ⟨rfl, rfl, rfl, ?_⟩
      refine silent_append (silent_append ?_ (silent_traceReply _)) ?_ <;> simp [Silent]
    · exact ⟨rfl, rfl, rfl, by simp [Silent]⟩

theorem steady_feed (now : Int) (bytes : Text.Utf8.Bytes) (c : Connection) : Steady c (feed now bytes c) := by
  induction bytes generalizing c with
  | nil => exact ⟨rfl, rfl, rfl, silent_nil⟩
  | cons b bytes ih =>
    rw [← List.singleton_append, feed_append]
    refine Steady.andThen ?_ ih
    show Steady c (Connection.andThen (c, []) fun c => feedByte now c b)
    refine Steady.andThen ⟨rfl, rfl, rfl, silent_nil⟩ fun c' => ?_
    unfold feedByte
    split
    · obtain ⟨hu, hs, hl, hw⟩ := steady_pushLine now
        (String.ofList (chop (Text.Utf8.decode c'.buffer.reverse))) { c' with buffer := [] }
      exact ⟨hu, hs, hl, hw⟩
    · exact ⟨rfl, rfl, rfl, silent_nil⟩

theorem steady_finish (now : Int) (error : String) (c : Connection) : Steady c (finish now error c) := by
  unfold finish
  split
  · exact ⟨rfl, rfl, rfl, silent_nil⟩
  · refine Steady.andThen ?_ fun c' => ?_
    · split
      · exact ⟨rfl, rfl, rfl, silent_nil⟩
      · obtain ⟨hu, hs, hl, hw⟩ := steady_pushLine now (ofUtf8 c.buffer.reverse) { c with buffer := [] }
        exact ⟨hu, hs, hl, hw⟩
    · split
      · exact ⟨rfl, rfl, rfl, by simp [Silent]⟩
      · exact ⟨rfl, rfl, rfl, silent_nil⟩

theorem steady_read (now : Int) (id : Nat) (c : Connection) : Steady c (read now id c) := by
  unfold read
  split
  · exact ⟨rfl, rfl, rfl, silent_append (silent_traceReply _) (by simp [Silent])⟩
  · split
    · exact ⟨rfl, rfl, rfl, by simp [Silent]⟩
    · exact ⟨rfl, rfl, rfl, by simp [Silent]⟩

theorem steady_hangUp (now : Int) (error : Option String) (c : Connection) : Steady c (hangUp now error c) := by
  unfold hangUp
  dsimp only
  split
  · obtain ⟨hu, hs, hl, hw⟩ := steady_finish now (error.getD ConnectionError.closedByRelay.message)
      { c with socket := { c.socket with live := false } }
    exact ⟨hu, hs, hl, hw⟩
  · exact ⟨rfl, rfl, rfl, silent_nil⟩

theorem steady_close (now : Int) (c : Connection) : Steady c (close now c) := by
  unfold close
  have h : Steady c ({ c with socket := { c.socket with live := false, heard := false } },
      if c.socket.live then [.destroyed c.socket.layer] else []) :=
    ⟨rfl, rfl, rfl, by split <;> simp [Silent]⟩
  exact h.andThen (steady_finish now _)

theorem steady_receive (now : Int) (layer : Layer) (packets : List Text.Utf8.Bytes) (ending : Option Net.Ending)
    (c : Connection) : Steady c (Net.Network.receive now layer packets ending c) := by
  unfold Net.Network.receive
  split
  · refine Steady.andThen ?_ fun c' => ?_
    · unfold arrive
      split
      · exact steady_feed now _ c
      · exact ⟨rfl, rfl, rfl, silent_nil⟩
    · split
      · exact ⟨rfl, rfl, rfl, silent_nil⟩
      · exact steady_hangUp now none c'
      · exact steady_hangUp now _ c'
  · exact ⟨rfl, rfl, rfl, silent_nil⟩

theorem steady_readExpired (id : Nat) (c : Connection) : Steady c (readExpired id c) :=
  ⟨rfl, rfl, rfl, by simp [readExpired, Silent]⟩

/-! ## The transitions of an upgrade -/

/-- what may become of a connection by itself: it stays sound, does not go back, and writes nothing -/
structure Onward (c : Connection) (o : Outcome) : Prop where
  sound : Sound c → Sound o.1
  secure : c.secure = true → o.1.secure = true
  unstarted : c.upgrades = [] → o.1.upgrades = []
  silent : Silent o.2

theorem Steady.onward {c : Connection} {o : Outcome} (h : Steady c o) : Onward c o :=
  ⟨h.sound, h.secure.trans, h.upgrades.trans, h.silent⟩

theorem onward_refl (c : Connection) : Onward c (c, []) := ⟨id, id, id, silent_nil⟩

/-- a connection with no upgrade has none with a number -/
theorem upgrades_ne_nil {c : Connection} {id : Nat} {u : Upgrade} (h : c.upgrade? id = some u) : c.upgrades ≠ [] :=
  List.ne_nil_of_mem (List.mem_of_find?_eq_some h)

/-- the handshake with a number is the only one there is -/
theorem eq_of_upgrade? {c : Connection} {id : Nat} {u v : Upgrade} (h : c.upgrade? id = some u)
    (hv : c.upgrades = [v]) : u = v := by
  have hm := List.mem_of_find?_eq_some h
  rw [hv] at hm
  exact List.mem_singleton.1 hm

theorem upgrades_withUpgrade {c : Connection} {u v : Upgrade} (hv : c.upgrades = [v]) (hid : v.id = u.id) :
    (c.withUpgrade u).upgrades = [u] := by
  simp [withUpgrade, hv, hid]

theorem onward_shaken (id : Nat) (c : Connection) : Onward c (shaken id c) := by
  unfold shaken
  cases hu : c.upgrade? id with
  | none => exact onward_refl c
  | some u =>
    dsimp only
    split
    · exact onward_refl c
    rename_i hphase
    refine ⟨fun hc => ?_, fun _ => rfl, fun h => absurd h (upgrades_ne_nil hu), ?_⟩
    · cases hc with
      | plain h => exact absurd h (upgrades_ne_nil hu)
      | pending v hv ht =>
        obtain rfl := eq_of_upgrade? hu hv
        exact .done _ (upgrades_withUpgrade hv rfl) ht rfl rfl ht
      | done v hv ht hp =>
        obtain rfl := eq_of_upgrade? hu hv
        exact absurd hp hphase
    · refine silent_append ?_ ?_
      · simp [Silent, note]
      · split <;> simp [Silent]

/-- giving up a handshake leaves the current socket as it is -/
theorem onward_abandon (id : Nat) (error : String) (c : Connection) : Onward c (abandon id error c) := by
  unfold abandon
  cases hu : (c.upgrade? id).filter (·.phase == .underWay) with
  | none => exact onward_refl c
  | some u =>
    obtain ⟨hu, hphase⟩ := Option.filter_eq_some_iff.1 hu
    refine ⟨fun hc => ?_, fun h => h, fun h => absurd h (upgrades_ne_nil hu), ?_⟩
    · cases hc with
      | plain h => exact absurd h (upgrades_ne_nil hu)
      | pending v hv ht hp hs hl =>
        obtain rfl := eq_of_upgrade? hu hv
        exact .pending _ (upgrades_withUpgrade hv rfl) ht (by simp) hs hl
      | done v hv ht hp =>
        obtain rfl := eq_of_upgrade? hu hv
        simp [hp] at hphase
    · refine silent_append ?_ (by simp [Silent])
      split <;> simp [Silent]

theorem onward_shakeFailed (now : Int) (id : Nat) (error : String) (c : Connection) :
    Onward c (shakeFailed now id error c) := by
  unfold shakeFailed
  split
  · obtain ⟨hsound, hsecure, hunstarted, hsilent⟩ := onward_abandon id error c
    exact ⟨hsound, hsecure, hunstarted, silent_append (by simp [Silent]) hsilent⟩
  · split
    · exact (steady_finish now error c).onward
    · exact onward_refl c
  · exact onward_refl c

theorem onward_alarm (a : Alarm) (c : Connection) : Onward c (alarm a c) := by
  cases a with
  | connect => exact onward_refl c
  | handshake id => exact onward_abandon id _ c
  | read id => exact (steady_readExpired id c).onward

/-- the upgrade of a connection that has not been upgraded -/
theorem sound_startTls (id : Nat) (anchor : Except String (Option String)) {c : Connection} (hc : Sound c)
    (hu : c.upgrades = []) : Sound (startTls id anchor c).1 := by
  cases hc with
  | plain _ hs hl =>
    cases anchor with
    | error m => exact .plain hu hs hl
    | ok text => exact .pending ⟨id, ⟨.tls, true, false, none⟩, .underWay⟩ (by simp [startTls, hu]) rfl (by simp) hs hl
  | pending u h => cases hu.symm.trans h
  | done u h => cases hu.symm.trans h

theorem silent_startTls (id : Nat) (anchor : Except String (Option String)) (c : Connection) :
    Silent (startTls id anchor c).2 := by
  cases anchor <;> simp [startTls, Silent]

/-! ## Writing -/

/-- what an effect writes, and on which layer -/
def written? : Effect → Option (Layer × String)
  | .wrote layer text => some (layer, text)
  | _ => none

theorem filterMap_written?_of_silent {es : List Effect} (h : Silent es) : es.filterMap written? = [] := by
  refine List.filterMap_eq_nil_iff.2 fun e he => ?_
  cases e <;> first | rfl | exact absurd he (h _ _)

/-- a write goes out on the layer of the current socket, or not at all -/
theorem written_writeRaw (text : String) (c : Connection) :
    (c.writeRaw text).2.filterMap written? =
      match (c.writeRaw text).1 with
      | .ok _ => [(c.socket.layer, text)]
      | .error _ => [] := by
  unfold writeRaw
  split
  · split <;> rfl
  · rfl

theorem written_writeLine (line : String) (secret : Bool) (c : Connection) :
    (c.writeLine line secret).2.filterMap written? =
      match (c.writeLine line secret).1 with
      | .ok _ => [(c.socket.layer, line ++ "\r\n")]
      | .error _ => [] :=
  written_writeRaw (line ++ "\r\n") c

end EnquiryMail.Smtp.Connection
