/-
The upgrade as a boundary. What had arrived and was not read when an upgrade starts is forgotten, wherever it was:
queued lines and the line under way. So what a connection does from then on depends on none of it, and every line of a
reply that is answered from then on was spelled by bytes that came over an encrypted socket.

- `Alike`: two outcomes that differ at most in what has arrived and in reads; every transition keeps them so.
- `Likened.act`, `likened_arrive`: so does every event that is the same in both, and an arrival in one of them.
- `startTls_forgets`: when no read is in progress an upgrade then starts in the same state.
- `Secured.act`, `Secured.run`: behind the start of an upgrade lines come from encrypted bytes only.
- `upgrade_boundary`: both for runs.
-/
import EnquiryMail.Proofs.Connection.Framing

namespace EnquiryMail.Smtp

open Text.Utf8 (Bytes)

namespace Connection

/-! ## Transitions of connections that differ in what has arrived -/

/-- an effect on alarms other than those of reads -/
def lasting : Effect → Bool
  | .arm a _ | .disarm a => !Clocked.isRead a
  | _ => false

/-- two outcomes that differ at most in what has arrived and in reads -/
structure Alike (o o' : Outcome) : Prop where
  agree : Agree o.1 o'.1
  alarms : o.2.filter lasting = o'.2.filter lasting

theorem alike_andThen {o o' : Outcome} {f : Connection → Outcome} (h : Alike o o')
    (hf : ∀ c c', Agree c c' → Alike (f c) (f c')) : Alike (andThen o f) (andThen o' f) where
  agree := (hf _ _ h.agree).agree
  alarms := by
    rw [andThen, andThen, List.filter_append, List.filter_append, h.alarms, (hf _ _ h.agree).alarms]

/-- an outcome that only takes lines in, hands them out, or tells readers -/
def Passing (c : Connection) (o : Outcome) : Prop := Alike o (c, [])

theorem passing_refl (c : Connection) : Passing c (c, []) := ⟨agree_refl c, rfl⟩

theorem Passing.andThen {c : Connection} {o : Outcome} {f : Connection → Outcome} (ho : Passing c o)
    (hf : ∀ c', Passing c' (f c')) : Passing c (andThen o f) where
  agree := (hf o.1).agree.trans ho.agree
  alarms := by
    rw [Connection.andThen, List.filter_append, ho.alarms, (hf o.1).alarms]
    rfl

theorem Passing.alike {c c' : Connection} {o o' : Outcome} (ho : Passing c o) (ho' : Passing c' o')
    (h : Agree c c') : Alike o o' :=
  ⟨ho.agree.trans (h.trans ho'.agree.symm), ho.alarms.trans ho'.alarms.symm⟩

theorem lasting_traceReply (lines : List String) : (traceReply lines).filter lasting = [] := by
  rw [List.filter_eq_nil_iff]
  intro e he
  obtain ⟨l, -, rfl⟩ := List.mem_map.1 he
  exact Bool.false_ne_true

theorem passing_pushLine (now : Int) (line : String) (c : Connection) : Passing c (pushLine now line c) := by
  refine ⟨(agree_pushLine now line c).1, ?_⟩
  unfold pushLine
  split
  · rfl
  · dsimp only
    split
    · rw [List.filter_append, List.filter_append, lasting_traceReply]
      rfl
    · rfl

theorem passing_pushLines (now : Int) (lines : List String) (c : Connection) :
    Passing c (pushLines now lines c) := by
  induction lines generalizing c with
  | nil => exact passing_refl c
  | cons line lines ih =>
    rw [pushLines_cons]
    exact (passing_pushLine now line c).andThen ih

theorem passing_feed (now : Int) (bytes : Bytes) (c : Connection) : Passing c (feed now bytes c) := by
  induction bytes generalizing c with
  | nil => exact passing_refl c
  | cons b bytes ih =>
    rw [feed_cons]
    refine Passing.andThen ?_ ih
    unfold feedByte
    split
    · obtain ⟨⟨hsettings, hended, hsecure, hsocket, hupgrades⟩, halarms⟩ := passing_pushLine now
        (String.ofList (chop (Text.Utf8.decode c.buffer.reverse))) { c with buffer := [] }
      exact ⟨⟨hsettings, hended, hsecure, hsocket, hupgrades⟩, halarms⟩
    · exact ⟨⟨rfl, rfl, rfl, rfl, rfl⟩, rfl⟩

theorem passing_arrive (now : Int) (bytes : Bytes) (c : Connection) : Passing c (arrive now bytes c) := by
  unfold arrive
  split
  · exact passing_feed now bytes c
  · exact passing_refl c

theorem passing_read (now : Int) (id : Nat) (c : Connection) : Passing c (read now id c) := by
  unfold read
  split
  · refine ⟨⟨rfl, rfl, rfl, rfl, rfl⟩, ?_⟩
    rw [List.filter_append, lasting_traceReply]
    rfl
  · split <;> exact ⟨⟨rfl, rfl, rfl, rfl, rfl⟩, rfl⟩

theorem passing_readExpired (id : Nat) (c : Connection) : Passing c (readExpired id c) :=
  ⟨⟨rfl, rfl, rfl, rfl, rfl⟩, rfl⟩

section

variable {c c' : Connection} (h : Agree c c')

include h

theorem alike_reject (error : String) : Alike (reject error c) (reject error c') := by
  unfold reject
  split <;> split <;> exact ⟨⟨h.settings, rfl, h.secure, h.socket, h.upgrades⟩, rfl⟩

theorem alike_finish (now : Int) (error : String) : Alike (finish now error c) (finish now error c') := by
  by_cases hended : c.ended = none
  · rw [finish_eq now error hended, finish_eq now error (h.ended.symm.trans hended)]
    have hagree : Agree { c with buffer := [] } { c' with buffer := [] } :=
      ⟨h.settings, h.ended, h.secure, h.socket, h.upgrades⟩
    exact alike_andThen ((passing_pushLines now _ _).alike (passing_pushLines now _ _) hagree)
      fun _ _ h' => alike_reject h' error
  · rw [finish_ended now error hended, finish_ended now error (h.ended ▸ hended)]
    exact ⟨h, rfl⟩

theorem alike_hangUp (now : Int) (error : Option String) : Alike (hangUp now error c) (hangUp now error c') := by
  have hdead : Agree { c with socket := { c.socket with live := false } }
      { c' with socket := { c'.socket with live := false } } :=
    ⟨h.settings, h.ended, h.secure, by dsimp only; rw [h.socket], h.upgrades⟩
  unfold hangUp
  dsimp only
  rw [h.socket] at hdead ⊢
  split
  · exact alike_finish hdead now _
  · exact ⟨hdead, rfl⟩

theorem alike_close (now : Int) : Alike (close now c) (close now c') := by
  unfold close
  rw [h.socket]
  exact alike_andThen ⟨⟨h.settings, h.ended, h.secure, rfl, h.upgrades⟩, rfl⟩ fun _ _ h' => alike_finish h' now _

theorem alike_startTls (id : Nat) (anchor : Except String (Option String)) :
    Alike (startTls id anchor c) (startTls id anchor c') := by
  unfold startTls
  rw [h.socket, h.upgrades, h.settings]
  cases anchor <;> exact ⟨⟨rfl, h.ended, h.secure, rfl, rfl⟩, rfl⟩

theorem alike_shaken (id : Nat) : Alike (shaken id c) (shaken id c') := by
  unfold shaken upgrade?
  rw [h.upgrades]
  split
  · exact ⟨h, rfl⟩
  · split
    · exact ⟨h, rfl⟩
    · exact ⟨⟨h.settings, h.ended, rfl, rfl, congrArg (List.map _) h.upgrades⟩, rfl⟩

theorem alike_abandon (id : Nat) (error : String) : Alike (abandon id error c) (abandon id error c') := by
  unfold abandon upgrade?
  rw [h.upgrades]
  split
  · exact ⟨h, rfl⟩
  · exact ⟨⟨h.settings, h.ended, h.secure, h.socket, congrArg (List.map _) h.upgrades⟩, rfl⟩

theorem alike_shakeFailed (now : Int) (id : Nat) (error : String) :
    Alike (shakeFailed now id error c) (shakeFailed now id error c') := by
  unfold shakeFailed upgrade?
  rw [h.upgrades, h.socket]
  split
  · exact alike_andThen ⟨h, rfl⟩ fun _ _ h' => alike_abandon h' id error
  · split
    · exact alike_finish h now error
    · exact ⟨h, rfl⟩
  · exact ⟨h, rfl⟩

theorem alike_alarm (a : Alarm) : Alike (alarm a c) (alarm a c') := by
  cases a with
  | connect => exact ⟨h, rfl⟩
  | handshake id =>
    unfold alarm shakeExpired
    rw [h.settings]
    exact alike_abandon h id _
  | read id => exact (passing_readExpired id c).alike (passing_readExpired id c') h

end

end Connection

namespace Connection

/-! ## Where lines come from -/

/-- what a connection holds was spelled by some bytes, and the line under way is their end -/
structure Sourced (bytes : Bytes) (c : Connection) : Prop where
  whole : 10 ∉ c.buffer
  buffer : c.buffer.reverse <:+ bytes
  lines : ∀ line ∈ c.lines, SpelledIn bytes line
  got : ∀ r, c.pending = some r → ∀ line ∈ r.got, SpelledIn bytes line

/-- an outcome in which that is so, also of the replies it answers with -/
structure Brings (bytes : Bytes) (o : Outcome) : Prop where
  sourced : Sourced bytes o.1
  replies : ∀ id reply, .answered id (.ok reply) ∈ o.2 → ∀ line ∈ reply.lines, SpelledIn bytes line

variable {bytes : Bytes} {c : Connection}

theorem Brings.andThen {o : Outcome} {f : Connection → Outcome} (ho : Brings bytes o)
    (hf : ∀ c', Sourced bytes c' → Brings bytes (f c')) : Brings bytes (andThen o f) where
  sourced := (hf o.1 ho.sourced).sourced
  replies id reply h := by
    rcases List.mem_append.1 h with h | h
    · exact ho.replies id reply h
    · exact (hf o.1 ho.sourced).replies id reply h

/-- an outcome that answers no read with a reply -/
theorem Sourced.brings {c' : Connection} {es : List Effect} (h : Sourced bytes c) (hbuffer : c'.buffer = c.buffer)
    (hlines : c'.lines = c.lines) (hpending : c'.pending = c.pending ∨ c'.pending = none)
    (hes : ∀ id reply, .answered id (.ok reply) ∉ es) : Brings bytes (c', es) where
  sourced :=
    { whole := by dsimp only; rw [hbuffer]; exact h.whole
      buffer := by dsimp only; rw [hbuffer]; exact h.buffer
      lines := by dsimp only; rw [hlines]; exact h.lines
      got := fun r hr => by
        rcases hpending with hpending | hpending
        · exact h.got r (hpending.symm.trans hr)
        · cases hpending.symm.trans hr }
  replies id reply he := absurd he (hes id reply)

theorem not_mem_traceReply (lines : List String) (id : Nat) (answer : Except String Reply) :
    .answered id answer ∉ traceReply lines := by
  intro h
  obtain ⟨l, -, hl⟩ := List.mem_map.1 h
  cases hl

theorem brings_pushLine (now : Int) {line : String} (h : Sourced bytes c) (hline : SpelledIn bytes line) :
    Brings bytes (pushLine now line c) := by
  have hmore (ls : List String) (hls : ∀ l ∈ ls, SpelledIn bytes l) : ∀ l ∈ ls ++ [line], SpelledIn bytes l := by
    intro l hl
    rcases List.mem_append.1 hl with hl | hl
    · exact hls l hl
    · rwa [List.mem_singleton.1 hl]
  cases hr : c.pending with
  | none =>
    rw [pushLine_unread now line hr]
    exact ⟨⟨h.whole, h.buffer, hmore _ h.lines, h.got⟩, nofun⟩
  | some r =>
    cases hfinal : isFinalLine line with
    | true =>
      rw [pushLine_final now hfinal hr]
      refine ⟨⟨h.whole, h.buffer, h.lines, nofun⟩, fun id reply he => ?_⟩
      rcases List.mem_append.1 he with he | he
      · rcases List.mem_append.1 he with he | he
        · cases List.mem_singleton.1 he
        · exact absurd he (not_mem_traceReply _ id _)
      · cases List.mem_singleton.1 he
        exact hmore _ (h.got r hr)
    | false =>
      rw [pushLine_more now hfinal hr]
      refine ⟨⟨h.whole, h.buffer, h.lines, fun r' hr' => ?_⟩, fun id reply he => by simp at he⟩
      cases hr'
      exact hmore _ (h.got r hr)

theorem brings_pushLines (now : Int) {lines : List String} (h : Sourced bytes c)
    (hlines : ∀ line ∈ lines, SpelledIn bytes line) : Brings bytes (pushLines now lines c) := by
  induction lines generalizing c with
  | nil => exact ⟨h, nofun⟩
  | cons line lines ih =>
    obtain ⟨hline, hrest⟩ := List.forall_mem_cons.1 hlines
    rw [pushLines_cons]
    exact (brings_pushLine now h hline).andThen fun c' h' => ih h' hrest

theorem brings_feed (now : Int) (more : Bytes) (h : Sourced bytes c) : Brings (bytes ++ more) (feed now more c) := by
  have hsuffix : c.buffer.reverse ++ more <:+ bytes ++ more := by
    obtain ⟨front, hfront⟩ := h.buffer
    exact ⟨front, by rw [← List.append_assoc, hfront]⟩
  have hin : bytes <:+: bytes ++ more := (List.prefix_append bytes more).isInfix
  rw [feed_eq now more h.whole]
  refine brings_pushLines now ⟨?_, ?_, fun l hl => (h.lines l hl).mono hin, fun r hr l hl => (h.got r hr l hl).mono hin⟩
    fun line hline => (spelled_linesOf hline).mono hsuffix.isInfix
  · exact fun hm => not_mem_restOf _ (List.mem_reverse.1 hm)
  · dsimp only
    rw [List.reverse_reverse]
    exact (restOf_suffix _).trans hsuffix

theorem brings_reject (error : String) (h : Sourced bytes c) : Brings bytes (reject error c) := by
  unfold reject
  split
  · exact h.brings rfl rfl (.inr rfl) (by simp)
  · exact h.brings rfl rfl (.inl rfl) nofun

theorem brings_finish (now : Int) (error : String) (h : Sourced bytes c) : Brings bytes (finish now error c) := by
  by_cases hended : c.ended = none
  · rw [finish_eq now error hended]
    have hbuffer : 10 ∉ c.buffer.reverse := fun hm => h.whole (List.mem_reverse.1 hm)
    refine Brings.andThen (brings_pushLines now ⟨List.not_mem_nil, List.nil_suffix, h.lines, h.got⟩ ?_)
      fun _ h' => brings_reject error h'
    exact fun line hline => (spelled_lastLine hbuffer hline).mono h.buffer.isInfix
  · rw [finish_ended now error hended]
    exact ⟨h, nofun⟩

theorem brings_read (now : Int) (id : Nat) (h : Sourced bytes c) : Brings bytes (read now id c) := by
  cases hsplit : splitReply c.lines with
  | some p =>
    obtain ⟨got, rest⟩ := p
    obtain ⟨-, hall⟩ := splitReply_eq_some hsplit
    rw [read_queued now id hsplit]
    refine ⟨⟨h.whole, h.buffer, fun l hl => h.lines l (hall ▸ List.mem_append_right got hl), h.got⟩, ?_⟩
    intro id' reply he
    rcases List.mem_append.1 he with he | he
    · exact absurd he (not_mem_traceReply _ id' _)
    · cases List.mem_singleton.1 he
      exact fun l hl => h.lines l (hall ▸ List.mem_append_left rest hl)
  | none =>
    cases hended : c.ended with
    | some error =>
      rw [read_ended now id hsplit hended]
      exact ⟨⟨h.whole, h.buffer, List.forall_mem_nil _, h.got⟩, fun id' reply he => by simp at he⟩
    | none =>
      rw [read_open now id hsplit hended]
      refine ⟨⟨h.whole, h.buffer, List.forall_mem_nil _, fun r hr => ?_⟩, fun id' reply he => by simp at he⟩
      cases hr
      exact h.lines

theorem brings_hangUp (now : Int) (error : Option String) (h : Sourced bytes c) :
    Brings bytes (hangUp now error c) := by
  have hdead : Sourced bytes { c with socket := { c.socket with live := false } } :=
    ⟨h.whole, h.buffer, h.lines, h.got⟩
  unfold hangUp
  dsimp only
  split
  · exact brings_finish now _ hdead
  · exact ⟨hdead, nofun⟩

theorem brings_close (now : Int) (h : Sourced bytes c) : Brings bytes (close now c) := by
  unfold close
  refine Brings.andThen (h.brings rfl rfl (.inl rfl) fun id reply he => ?_) fun _ h' => brings_finish now _ h'
  split at he
  · cases List.mem_singleton.1 he
  · cases he

theorem brings_startTls (id : Nat) (anchor : Except String (Option String)) (h : Sourced bytes c) :
    Brings bytes (startTls id anchor c) := by
  unfold startTls
  cases anchor with
  | error m => exact ⟨⟨List.not_mem_nil, List.nil_suffix, List.forall_mem_nil _, h.got⟩, by simp⟩
  | ok text => exact ⟨⟨List.not_mem_nil, List.nil_suffix, List.forall_mem_nil _, h.got⟩, by simp⟩

theorem brings_shaken (id : Nat) (h : Sourced bytes c) : Brings bytes (shaken id c) := by
  unfold shaken
  split
  · exact ⟨h, nofun⟩
  · split
    · exact ⟨h, nofun⟩
    · refine h.brings rfl rfl (.inl rfl) fun id reply he => ?_
      split at he <;> simp [note] at he

theorem brings_abandon (id : Nat) (error : String) (h : Sourced bytes c) : Brings bytes (abandon id error c) := by
  unfold abandon
  split
  · exact ⟨h, nofun⟩
  · refine h.brings rfl rfl (.inl rfl) fun id reply he => ?_
    split at he <;> simp at he

theorem brings_shakeFailed (now : Int) (id : Nat) (error : String) (h : Sourced bytes c) :
    Brings bytes (shakeFailed now id error c) := by
  unfold shakeFailed
  split
  · exact Brings.andThen ⟨h, by simp⟩ fun _ h' => brings_abandon id error h'
  · split
    · exact brings_finish now error h
    · exact ⟨h, nofun⟩
  · exact ⟨h, nofun⟩

theorem brings_alarm (a : Alarm) (h : Sourced bytes c) : Brings bytes (alarm a c) := by
  cases a with
  | connect => exact ⟨h, nofun⟩
  | handshake id => exact brings_abandon id _ h
  | read id => exact h.brings rfl rfl (.inr rfl) (by simp)

/-! ## Which sockets are listened to -/

/-- only an encrypted socket is or will be listened to -/
structure Encrypts (c : Connection) : Prop where
  upgrades : ∀ u ∈ c.upgrades, u.socket.layer = .tls
  heard : c.socket.heard = true → c.socket.layer = .tls

/-- the upgrades stay encrypted, and with them the sockets that are listened to -/
structure Keeps (c c' : Connection) : Prop where
  upgrades : (∀ u ∈ c.upgrades, u.socket.layer = .tls) → ∀ u ∈ c'.upgrades, u.socket.layer = .tls
  encrypts : Encrypts c → Encrypts c'

theorem Keeps.trans {a b c : Connection} (h : Keeps a b) (h' : Keeps b c) : Keeps a c :=
  ⟨fun ha => h'.upgrades (h.upgrades ha), fun ha => h'.encrypts (h.encrypts ha)⟩

theorem keeps_of_socket {c c' : Connection} (hupgrades : c'.upgrades = c.upgrades)
    (hlayer : c'.socket.layer = c.socket.layer) (hheard : c'.socket.heard = true → c.socket.heard = true) :
    Keeps c c' where
  upgrades h := hupgrades ▸ h
  encrypts h := ⟨hupgrades ▸ h.upgrades, fun hh => hlayer.trans (h.heard (hheard hh))⟩

theorem Agree.keeps {c c' : Connection} (h : Agree c' c) : Keeps c c' :=
  keeps_of_socket h.upgrades (congrArg Socket.layer h.socket) fun hh => h.socket ▸ hh

theorem keeps_finish (now : Int) (error : String) (c : Connection) : Keeps c (finish now error c).1 := by
  by_cases hended : c.ended = none
  · have hreject (c' : Connection) : Keeps c' (reject error c').1 := by
      unfold reject
      split <;> exact keeps_of_socket rfl rfl id
    have hagree := (agree_pushLines now (lastLine c.buffer.reverse) { c with buffer := [] }).1
    rw [finish_eq now error hended]
    exact Keeps.trans (keeps_of_socket hagree.upgrades (congrArg Socket.layer hagree.socket)
      fun hh => hagree.socket ▸ hh) (hreject _)
  · rw [finish_ended now error hended]
    exact (agree_refl c).keeps

theorem keeps_hangUp (now : Int) (error : Option String) (c : Connection) : Keeps c (hangUp now error c).1 := by
  have hdead : Keeps c { c with socket := { c.socket with live := false } } := keeps_of_socket rfl rfl id
  unfold hangUp
  dsimp only
  split
  · exact hdead.trans (keeps_finish now _ _)
  · exact hdead

theorem keeps_close (now : Int) (c : Connection) : Keeps c (close now c).1 := by
  have hdead : Keeps c { c with socket := { c.socket with live := false, heard := false } } :=
    keeps_of_socket rfl rfl nofun
  exact hdead.trans (keeps_finish now _ _)

/-- behind the start of an upgrade the socket is not listened to until a handshake has succeeded -/
theorem encrypts_startTls (id : Nat) (anchor : Except String (Option String)) {c : Connection}
    (h : ∀ u ∈ c.upgrades, u.socket.layer = .tls) : Encrypts (startTls id anchor c).1 := by
  unfold startTls
  cases anchor with
  | error m => exact ⟨h, nofun⟩
  | ok text => exact ⟨List.forall_mem_cons.2 ⟨rfl, h⟩, nofun⟩

theorem upgrades_withUpgrade_tls {c : Connection} {u : Upgrade} (hu : u.socket.layer = .tls)
    (h : ∀ v ∈ c.upgrades, v.socket.layer = .tls) : ∀ v ∈ (c.withUpgrade u).upgrades, v.socket.layer = .tls := by
  intro v hv
  obtain ⟨w, hw, rfl⟩ := List.mem_map.1 hv
  split
  · exact hu
  · exact h w hw

theorem keeps_shaken (id : Nat) (c : Connection) : Keeps c (shaken id c).1 := by
  unfold shaken
  cases hfound : c.upgrade? id with
  | none => exact (agree_refl c).keeps
  | some u =>
    have hmem : u ∈ c.upgrades := List.mem_of_find?_eq_some hfound
    dsimp only
    split
    · exact (agree_refl c).keeps
    · have hup (h : ∀ v ∈ c.upgrades, v.socket.layer = .tls) :
          ∀ v ∈ (c.withUpgrade { u with phase := .done }).upgrades, v.socket.layer = .tls :=
        upgrades_withUpgrade_tls (h u hmem) h
      exact ⟨hup, fun h => ⟨hup h.upgrades, fun _ => h.upgrades u hmem⟩⟩

theorem keeps_abandon (id : Nat) (error : String) (c : Connection) : Keeps c (abandon id error c).1 := by
  unfold abandon
  cases hfound : (c.upgrade? id).filter (·.phase == .underWay) with
  | none => exact (agree_refl c).keeps
  | some u =>
    have hmem : u ∈ c.upgrades := List.mem_of_find?_eq_some (Option.filter_eq_some_iff.1 hfound).1
    have hup (h : ∀ v ∈ c.upgrades, v.socket.layer = .tls) : ∀ v ∈ (c.withUpgrade
        { u with socket := { u.socket with live := false }, phase := .givenUp }).upgrades, v.socket.layer = .tls :=
      upgrades_withUpgrade_tls (h u hmem) h
    exact ⟨hup, fun h => ⟨hup h.upgrades, h.heard⟩⟩

theorem keeps_shakeFailed (now : Int) (id : Nat) (error : String) (c : Connection) :
    Keeps c (shakeFailed now id error c).1 := by
  unfold shakeFailed
  split
  · exact keeps_abandon id error c
  · split
    · exact keeps_finish now error c
    · exact (agree_refl c).keeps
  · exact (agree_refl c).keeps

end Connection

namespace Clocked

open Connection (Agree Alike)

/-! ## Runs that differ in what has arrived -/

/-- the alarms that are not of reads -/
def lastingOf (alarms : Net.Agenda Alarm) : Net.Agenda Alarm := alarms.filter fun e => !isRead e.2

/-- two connections in time that differ at most in what has arrived and in reads in progress -/
structure Likened (st st' : Clocked) : Prop where
  now : st.now = st'.now
  agree : Agree st.connection st'.connection
  alarms : lastingOf st.alarms = lastingOf st'.alarms
  reads : st.reads = st'.reads
  handshakes : st.handshakes = st'.handshakes

theorem likened_refl (st : Clocked) : Likened st st := ⟨rfl, Connection.agree_refl _, rfl, rfl, rfl⟩

theorem Likened.symm {st st' : Clocked} (h : Likened st st') : Likened st' st :=
  ⟨h.now.symm, h.agree.symm, h.alarms.symm, h.reads.symm, h.handshakes.symm⟩

theorem Likened.trans {a b c : Clocked} (h : Likened a b) (h' : Likened b c) : Likened a c :=
  ⟨h.now.trans h'.now, h.agree.trans h'.agree, h.alarms.trans h'.alarms, h.reads.trans h'.reads,
    h.handshakes.trans h'.handshakes⟩

/-- cancelling does not mix the alarms of reads with the others -/
theorem lastingOf_cancel (alarms : Net.Agenda Alarm) (a : Alarm) :
    lastingOf (alarms.cancel (· == a)) = (lastingOf alarms).cancel (· == a) := List.filter_comm ..

theorem lastingOf_setting (now : Int) (alarms : Net.Agenda Alarm) (e : Effect) :
    lastingOf (setting now alarms e) = if Connection.lasting e then setting now (lastingOf alarms) e else
      lastingOf alarms := by
  have hcancel (a : Alarm) (ha : isRead a = true) : (lastingOf alarms).cancel (· == a) = lastingOf alarms := by
    refine List.filter_eq_self.2 fun e he => ?_
    have hother := (List.mem_filter.1 he).2
    by_contra hsame
    have hea : e.2 = a := by simpa using hsame
    rw [hea, ha] at hother
    cases hother
  cases e with
  | arm a delay =>
    cases a with
    | read id => exact (List.filter_append ..).trans (List.append_nil _)
    | _ => exact List.filter_append ..
  | disarm a =>
    cases a with
    | read id => exact (lastingOf_cancel alarms _).trans (hcancel _ rfl)
    | _ => exact lastingOf_cancel alarms _
  | _ => rfl

theorem lastingOf_settings (now : Int) (alarms : Net.Agenda Alarm) (es : List Effect) :
    lastingOf (settings now alarms es) = settings now (lastingOf alarms) (es.filter Connection.lasting) := by
  induction es generalizing alarms with
  | nil => rfl
  | cons e es ih =>
    refine (ih (setting now alarms e)).trans ?_
    rw [lastingOf_setting, List.filter_cons]
    split <;> rfl

theorem Likened.after {st st' : Clocked} (h : Likened st st') {o o' : Connection.Outcome} (ho : Alike o o') :
    Likened (st.after o).1 (st'.after o').1 where
  now := h.now
  agree := ho.agree
  alarms := by
    show lastingOf (settings _ _ _) = lastingOf (settings _ _ _)
    rw [lastingOf_settings, lastingOf_settings, h.now, h.alarms, ho.alarms]
  reads := h.reads
  handshakes := h.handshakes

theorem Likened.wrote {st st' : Clocked} (h : Likened st st') {w w' : Except String Unit × List Effect}
    (hw : w.2.filter Connection.lasting = w'.2.filter Connection.lasting) : Likened (st.wrote w).1 (st'.wrote w').1 where
  now := h.now
  agree := h.agree
  alarms := by
    show lastingOf (settings _ _ _) = lastingOf (settings _ _ _)
    rw [lastingOf_settings, lastingOf_settings, h.now, h.alarms, hw]
  reads := h.reads
  handshakes := h.handshakes

theorem lasting_writeRaw (text : String) (c : Connection) : (c.writeRaw text).2.filter Connection.lasting = [] := by
  unfold Connection.writeRaw
  split
  · split <;> rfl
  · rfl

/-- **An event that is the same in both** keeps two connections alike. -/
theorem Likened.act {st st' : Clocked} (h : Likened st st') (e : Event) :
    Likened (st.act e).1 (st'.act e).1 := by
  cases e with
  | pass ms => exact ⟨congrArg (· + (ms : Int)) h.now, h.agree, h.alarms, h.reads, h.handshakes⟩
  | ring a =>
    have hring : Likened { st with alarms := st.alarms.cancel (· == a) }
        { st' with alarms := st'.alarms.cancel (· == a) } := by
      refine ⟨h.now, h.agree, (lastingOf_cancel st.alarms a).trans ?_, h.reads, h.handshakes⟩
      rw [h.alarms]
      exact (lastingOf_cancel st'.alarms a).symm
    exact hring.after (Connection.alike_alarm h.agree a)
  | arrive bytes =>
    exact h.after ((Connection.passing_arrive _ bytes _).alike (Connection.passing_arrive _ bytes _) h.agree)
  | hangUp error => exact h.after (h.now ▸ Connection.alike_hangUp h.agree st.now error)
  | refuseWrites error =>
    have hsocket := congrArg (fun s : Socket => { s with refusal := some error }) h.agree.socket
    exact h.after ⟨⟨h.agree.settings, h.agree.ended, h.agree.secure, hsocket, h.agree.upgrades⟩, rfl⟩
  | read =>
    have hread : Likened { st with reads := st.reads + 1 } { st' with reads := st'.reads + 1 } :=
      ⟨h.now, h.agree, h.alarms, congrArg (· + 1) h.reads, h.handshakes⟩
    exact hread.after ((Connection.passing_read _ _ _).alike (Connection.passing_read _ _ _) h.agree)
  | line text secret =>
    refine h.wrote ?_
    exact (lasting_writeRaw (text ++ "\r\n") st.connection).trans (lasting_writeRaw (text ++ "\r\n") st'.connection).symm
  | raw text => exact h.wrote ((lasting_writeRaw text st.connection).trans (lasting_writeRaw text st'.connection).symm)
  | startTls anchor =>
    have hstart : Likened { st with handshakes := st.handshakes + 1 } { st' with handshakes := st'.handshakes + 1 } :=
      ⟨h.now, h.agree, h.alarms, h.reads, congrArg (· + 1) h.handshakes⟩
    exact hstart.after (h.handshakes ▸ Connection.alike_startTls h.agree st.handshakes anchor)
  | shaken id => exact h.after (Connection.alike_shaken h.agree id)
  | shakeFailed id error => exact h.after (h.now ▸ Connection.alike_shakeFailed h.agree st.now id error)
  | close => exact h.after (h.now ▸ Connection.alike_close h.agree st.now)

theorem exists_of_isArrival {e : Event} (h : e.isArrival = true) : ∃ bytes, e = .arrive bytes := by
  cases e <;> first | exact ⟨_, rfl⟩ | cases h

/-- an arrival changes nothing else -/
theorem likened_arrive (st : Clocked) (bytes : Bytes) : Likened (st.act (.arrive bytes)).1 st := by
  have h : Likened (st.act (.arrive bytes)).1 (st.after (st.connection, [])).1 :=
    (likened_refl st).after (Connection.passing_arrive st.now bytes st.connection)
  exact h

/-- runs that differ in their arrivals -/
theorem Likened.run {st st' : Clocked} (h : Likened st st') (es : List Event) :
    Likened (st.run es).1 (st'.run (es.filter fun e => !e.isArrival)).1 := by
  induction es generalizing st st' with
  | nil => exact h
  | cons e es ih =>
    cases harrival : e.isArrival with
    | true =>
      obtain ⟨bytes, rfl⟩ := exists_of_isArrival harrival
      exact ih ((likened_arrive st bytes).trans h)
    | false =>
      rw [List.filter_cons_of_pos (by rw [harrival]; rfl)]
      exact ih (h.act e)

theorem parts_of_not_reading {st : Clocked} (h : st.reading = false) :
    st.connection.pending = none ∧ lastingOf st.alarms = st.alarms := by
  rw [reading, Bool.or_eq_false_iff] at h
  refine ⟨Option.not_isSome_iff_eq_none.1 (by rw [h.1]; exact Bool.false_ne_true), ?_⟩
  refine List.filter_eq_self.2 fun e he => ?_
  have hnot := List.any_eq_false.1 h.2 e he
  simpa using hnot

/-- **The start of an upgrade forgets what has arrived.** -/
theorem startTls_forgets {st st' : Clocked} (h : Likened st st') (hfree : st.reading = false)
    (hfree' : st'.reading = false) (anchor : Except String (Option String)) :
    st.act (.startTls anchor) = st'.act (.startTls anchor) := by
  obtain ⟨hpending, halarms⟩ := parts_of_not_reading hfree
  obtain ⟨hpending', halarms'⟩ := parts_of_not_reading hfree'
  have hall : st.alarms = st'.alarms := halarms.symm.trans (h.alarms.trans halarms')
  have hstart : st.connection.startTls st.handshakes anchor = st'.connection.startTls st'.handshakes anchor := by
    unfold Connection.startTls
    rw [h.handshakes, h.agree.settings, h.agree.ended, h.agree.secure, h.agree.socket, h.agree.upgrades, hpending,
      hpending']
  rw [act, act, hstart, after, after]
  dsimp only
  rw [h.now, hall, h.reads, h.handshakes]

/-! ## Behind the start of an upgrade -/

/-- the bytes that an event brings over an encrypted socket -/
def encrypted (st : Clocked) : Event → Bytes
  | .arrive bytes =>
    if st.connection.socket.layer = .tls ∧ st.connection.socket.heard = true then bytes else []
  | _ => []

/-- the bytes that come over an encrypted socket in the course of a run -/
def encryptedBytes (st : Clocked) : List Event → Bytes
  | [] => []
  | e :: es => st.encrypted e ++ (st.act e).1.encryptedBytes es

/-- no event but the start of an upgrade changes which sockets are listened to, other than by its own handshake -/
theorem keeps_act (st : Clocked) {e : Event} (he : ∀ anchor, e ≠ .startTls anchor) :
    st.connection.Keeps (st.act e).1.connection := by
  cases e with
  | ring a =>
    cases a with
    | handshake id => exact Connection.keeps_abandon id _ _
    | _ => exact Connection.keeps_of_socket rfl rfl id
  | arrive bytes => exact (Connection.passing_arrive st.now bytes st.connection).agree.keeps
  | hangUp error => exact Connection.keeps_hangUp st.now error st.connection
  | read => exact (Connection.passing_read st.now _ st.connection).agree.keeps
  | startTls anchor => exact absurd rfl (he anchor)
  | shaken id => exact Connection.keeps_shaken id st.connection
  | shakeFailed id error => exact Connection.keeps_shakeFailed st.now id error st.connection
  | close => exact Connection.keeps_close st.now st.connection
  | _ => exact Connection.keeps_of_socket rfl rfl id

/-- handshakes are for encrypted sockets -/
theorem upgrades_tls_run (s : Settings) (now : Int) (es : List Event) :
    ∀ u ∈ ((start s now).run es).1.connection.upgrades, u.socket.layer = .tls := by
  suffices ∀ st : Clocked, (∀ u ∈ st.connection.upgrades, u.socket.layer = .tls) →
      ∀ u ∈ (st.run es).1.connection.upgrades, u.socket.layer = .tls from this _ (List.forall_mem_nil _)
  induction es with
  | nil => exact fun st h => h
  | cons e es ih =>
    refine fun st h => ih _ ?_
    by_cases he : ∃ anchor, e = .startTls anchor
    · obtain ⟨anchor, rfl⟩ := he
      exact (Connection.encrypts_startTls st.handshakes anchor h).upgrades
    · exact (keeps_act st fun anchor hanchor => he ⟨anchor, hanchor⟩).upgrades h

/-- what is held came over an encrypted socket, and no other socket is listened to -/
structure Secured (bytes : Bytes) (st : Clocked) : Prop where
  sourced : st.connection.Sourced bytes
  encrypts : st.connection.Encrypts

/-- the replies that are answered in what is seen were spelled by some bytes -/
def Spelled (bytes : Bytes) (seen : List Sight) : Prop :=
  ∀ id reply, Sight.did (.answered id (.ok reply)) ∈ seen → ∀ line ∈ reply.lines, SpelledIn bytes line

theorem sourced_after {bytes : Bytes} {o : Connection.Outcome} (ho : Connection.Brings bytes o) (st : Clocked) :
    (st.after o).1.connection.Sourced bytes ∧ Spelled bytes (st.after o).2 := by
  refine ⟨ho.sourced, ?_⟩
  intro id reply hseen
  obtain ⟨e, he, hsight⟩ := List.mem_map.1 hseen
  cases hsight
  exact ho.replies id reply he

theorem spelled_wrote {bytes : Bytes} (st : Clocked) {w : Except String Unit × List Effect} (hw : Unread w.2) :
    Spelled bytes (st.wrote w).2 := by
  intro id reply hseen
  rcases List.mem_append.1 hseen with hseen | hseen
  · obtain ⟨e, he, hsight⟩ := List.mem_map.1 hseen
    cases hsight
    cases (hw _ he).1
  · cases List.mem_singleton.1 hseen

/-- bytes that arrive behind the start of an upgrade come over an encrypted socket, or nobody listens -/
theorem Secured.arrive {bytes : Bytes} {st : Clocked} (h : Secured bytes st) (more : Bytes) :
    (st.act (.arrive more)).1.connection.Sourced (bytes ++ st.encrypted (.arrive more)) ∧
      Spelled (bytes ++ st.encrypted (.arrive more)) (st.act (.arrive more)).2 := by
  rw [act, encrypted, Connection.arrive]
  cases hheard : st.connection.socket.heard with
  | true =>
    rw [if_pos rfl, if_pos ⟨h.encrypts.heard hheard, rfl⟩]
    exact sourced_after (Connection.brings_feed st.now more h.sourced) st
  | false =>
    rw [if_neg Bool.false_ne_true, if_neg (fun hh => Bool.false_ne_true hh.2), List.append_nil]
    exact sourced_after ⟨h.sourced, fun _ _ he => absurd he List.not_mem_nil⟩ st

/-- **Every event keeps what is held to encrypted bytes.** -/
theorem Secured.act {bytes : Bytes} {st : Clocked} (h : Secured bytes st) (e : Event) :
    Secured (bytes ++ st.encrypted e) (st.act e).1 ∧ Spelled (bytes ++ st.encrypted e) (st.act e).2 := by
  have hencrypts : (st.act e).1.connection.Encrypts := by
    by_cases he : ∃ anchor, e = .startTls anchor
    · obtain ⟨anchor, rfl⟩ := he
      exact Connection.encrypts_startTls st.handshakes anchor h.encrypts.upgrades
    · exact (keeps_act st fun anchor hanchor => he ⟨anchor, hanchor⟩).encrypts h.encrypts
  have hother (he : e.isArrival = false) : (st.act e).1.connection.Sourced bytes ∧ Spelled bytes (st.act e).2 := by
    cases e with
    | pass ms => exact ⟨h.sourced, fun _ _ he => absurd he List.not_mem_nil⟩
    | ring a => exact sourced_after (Connection.brings_alarm a h.sourced) _
    | arrive more => cases he
    | hangUp error => exact sourced_after (Connection.brings_hangUp st.now error h.sourced) st
    | refuseWrites error =>
      exact ⟨⟨h.sourced.whole, h.sourced.buffer, h.sourced.lines, h.sourced.got⟩, fun _ _ he => absurd he List.not_mem_nil⟩
    | read => exact sourced_after (Connection.brings_read st.now _ h.sourced) _
    | line text secret =>
      exact ⟨h.sourced, spelled_wrote st (unread_writeLine text secret st.connection).2⟩
    | raw text => exact ⟨h.sourced, spelled_wrote st (unread_writeRaw text st.connection).2⟩
    | startTls anchor => exact sourced_after (Connection.brings_startTls st.handshakes anchor h.sourced) _
    | shaken id => exact sourced_after (Connection.brings_shaken id h.sourced) st
    | shakeFailed id error => exact sourced_after (Connection.brings_shakeFailed st.now id error h.sourced) st
    | close => exact sourced_after (Connection.brings_close st.now h.sourced) st
  cases harrival : e.isArrival with
  | true =>
    obtain ⟨more, rfl⟩ := exists_of_isArrival harrival
    exact ⟨⟨(h.arrive more).1, hencrypts⟩, (h.arrive more).2⟩
  | false =>
    have hnone : st.encrypted e = [] := by
      cases e <;> first | rfl | cases harrival
    rw [hnone, List.append_nil]
    exact ⟨⟨(hother harrival).1, hencrypts⟩, (hother harrival).2⟩

theorem Spelled.mono {bytes bytes' : Bytes} {seen : List Sight} (h : Spelled bytes seen) (hin : bytes <:+: bytes') :
    Spelled bytes' seen := fun id reply hseen line hline => (h id reply hseen line hline).mono hin

/-- **Behind the start of an upgrade** every reply is spelled by encrypted bytes. -/
theorem Secured.run {bytes : Bytes} {st : Clocked} (h : Secured bytes st) (es : List Event) :
    Spelled (bytes ++ st.encryptedBytes es) ((st.run es).2.map Prod.snd) := by
  induction es generalizing bytes st with
  | nil => exact fun _ _ he => absurd he List.not_mem_nil
  | cons e es ih =>
    obtain ⟨hnext, hseen⟩ := h.act e
    have hrest := ih hnext
    rw [List.append_assoc] at hrest
    have hsights : ((st.act e).2.map (st.now, ·)).map Prod.snd = (st.act e).2 := by
      rw [List.map_map]
      exact List.map_id _
    intro id reply hmem
    rw [Clocked.run, List.map_append, hsights] at hmem
    rcases List.mem_append.1 hmem with hmem | hmem
    · refine hseen.mono ?_ id reply hmem
      rw [encryptedBytes, ← List.append_assoc]
      exact (List.prefix_append _ _).isInfix
    · exact hrest id reply hmem

/-- what an upgrade starts with: nothing has come over its socket, and no other is listened to -/
theorem secured_startTls (s : Settings) (now : Int) (pre : List Event)
    (hfree : ((start s now).run pre).1.reading = false) (anchor : Except String (Option String)) :
    Secured [] (((start s now).run pre).1.act (.startTls anchor)).1 := by
  have hpending := (parts_of_not_reading hfree).1
  have hstart := Connection.encrypts_startTls ((start s now).run pre).1.handshakes anchor (upgrades_tls_run s now pre)
  refine ⟨?_, hstart⟩
  rw [act, after]
  dsimp only
  unfold Connection.startTls
  have hgot : ∀ r, ((start s now).run pre).1.connection.pending = some r → ∀ line ∈ r.got, SpelledIn [] line := by
    intro r hr
    cases hpending.symm.trans hr
  cases anchor with
  | error m => exact ⟨List.not_mem_nil, List.nil_suffix, List.forall_mem_nil _, hgot⟩
  | ok text => exact ⟨List.not_mem_nil, List.nil_suffix, List.forall_mem_nil _, hgot⟩

/-- **The upgrade is a boundary.** Let an upgrade start while no read is in progress. Had other bytes arrived before,
with all else the same, everything seen from then on would be the same; and every line of a reply that is answered
from then on was spelled by bytes that came over an encrypted socket. -/
theorem upgrade_boundary (s : Settings) (now : Int) (pre pre' : List Event)
    (hsame : pre.filter (fun e => !e.isArrival) = pre'.filter (fun e => !e.isArrival))
    (hfree : ((start s now).run pre).1.reading = false) (hfree' : ((start s now).run pre').1.reading = false)
    (anchor : Except String (Option String)) (post : List Event) :
    (((start s now).run pre').1.Possible (.startTls anchor :: post) ↔
        ((start s now).run pre).1.Possible (.startTls anchor :: post)) ∧
      ((start s now).run pre').1.run (.startTls anchor :: post) =
        ((start s now).run pre).1.run (.startTls anchor :: post) ∧
      ∀ τ id reply, (τ, Sight.did (.answered id (.ok reply))) ∈
          (((start s now).run pre).1.run (.startTls anchor :: post)).2 →
        ∀ line ∈ reply.lines,
          SpelledIn (((start s now).run pre).1.encryptedBytes (.startTls anchor :: post)) line := by
  have hlikened : Likened ((start s now).run pre').1 ((start s now).run pre).1 :=
    ((likened_refl _).run pre').trans (hsame ▸ ((likened_refl _).run pre).symm)
  have hforget := startTls_forgets hlikened hfree' hfree anchor
  refine ⟨?_, ?_, ?_⟩
  · rw [Possible, Possible, hforget]
    exact Iff.rfl
  · rw [run, run, hforget, hlikened.now]
  · intro τ id reply hmem
    have hrun := (secured_startTls s now pre hfree anchor).run post
    rw [List.nil_append] at hrun
    rcases List.mem_append.1 hmem with hmem | hmem
    · -- an upgrade that starts answers nobody
      obtain ⟨seen, hseen, hsight⟩ := List.mem_map.1 hmem
      cases hsight
      obtain ⟨e, he, hdid⟩ := List.mem_map.1 hseen
      cases hdid
      unfold Connection.startTls at he
      cases anchor <;> simp at he
    · exact hrun id reply (List.mem_map.2 ⟨_, hmem, rfl⟩)

/-- a relay, or someone between, that goes on after the reply it was asked for -/
def injected : List Event := [.read, .arrive (utf8 "220 go\r\n250 injected\r\n250 par")]

/-- the upgrade succeeds and a reply comes over it -/
def upgraded : List Event := [.shaken 0, .read, .arrive (utf8 "250 ok\r\n"), .read, .hangUp none]

theorem upgrade_boundary_injected :
    let plain : List Event := [.read, .arrive (utf8 "220 go\r\n")]
    let st := ((start .submission 0).run plain).1
    let st' := ((start .submission 0).run injected).1
    plain.filter (fun e => !e.isArrival) = injected.filter (fun e => !e.isArrival) ∧ st.reading = false ∧
      st'.reading = false ∧ st'.connection.lines = ["250 injected"] ∧ st'.connection.buffer ≠ [] ∧
      st'.run (.startTls (.ok none) :: upgraded) = st.run (.startTls (.ok none) :: upgraded) ∧
      st.encryptedBytes (.startTls (.ok none) :: upgraded) = utf8 "250 ok\r\n" ∧
      (st'.run (.startTls (.ok none) :: upgraded)).2.answers =
        [(2, .ok (Reply.ofLines ["250 ok"])), (3, .error "Connection closed by relay")] := by
  intro plain st st'
  have hsame : plain.filter (fun e => !e.isArrival) = injected.filter (fun e => !e.isArrival) := rfl
  have hfree : st.reading = false := by decide +kernel
  have hfree' : st'.reading = false := by decide +kernel
  obtain ⟨-, hrun, -⟩ := upgrade_boundary .submission 0 plain injected hsame hfree hfree' (.ok none) upgraded
  exact ⟨hsame, hfree, hfree', by decide +kernel, by decide +kernel, hrun, by decide +kernel, by decide +kernel⟩

end Clocked

end EnquiryMail.Smtp
