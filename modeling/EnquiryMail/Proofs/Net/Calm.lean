/-
What sessions log. A connection traces its lines and remarks on what it does, a session warns, and its result is a
message or a warning: no log call of a session is an error, and none has a field that it could not carry, whatever the
relays do and however it ends. So a journal that writes errors alone has nothing to write of it, and any other has an
entry for each call that passes.

- `Asks`: all that a session may ask has a property; `asks_bind`: parts make up sessions that have it.
- `asks_sendMail`, `asks_verifyRelay`: deliveries and tries log calm calls themselves.
- `calm_meets`: so does a connection, whatever comes to it.
- `heard_run`: after a session over the network the surroundings have heard of no other.
-/
import EnquiryMail.Proofs.Log.Entries
import EnquiryMail.Proofs.Net.Single

namespace EnquiryMail

namespace Log

/-- it is no error, and its fields have names that can be carried -/
structure Call.IsCalm (c : Call) : Prop where
  level : c.level ≠ .error
  tidy : c.Tidy

theorem isCalm_call {level : Level} (hlevel : level ≠ .error) {fields : Json.Fields}
    (htidy : tidyNames (fields.map Prod.fst) = true) (component message : String) :
    (call component level message fields).IsCalm := ⟨hlevel, htidy⟩

end Log

namespace Smtp

open Mail (Message)

variable {α β : Type}

/-! ## What a session asks -/

/-- all that a session may ask has a property, whatever it is answered -/
def Script.Asks (P : Request → Prop) : Script α → Prop
  | .done _ => True
  | .ask r next => P r ∧ ∀ x, (next x).Asks P

variable {P : Request → Prop}

theorem Script.asks_bind {p : Script α} {f : α → Script β} (hp : p.Asks P) (hf : ∀ a, (f a).Asks P) :
    (p.bind f).Asks P := by
  induction p with
  | done a => exact hf a
  | ask r next ih =>
    refine ⟨hp.1, ?_⟩
    intro x
    exact ih x (hp.2 x)

theorem Script.asks_request {r : Request} (h : P r) : (Script.request r).Asks P := ⟨h, fun _ => trivial⟩

namespace Step

theorem asks_bind {p : Step α} {f : α → Step β} (hp : p.run.Asks P) (hf : ∀ a, (f a).run.Asks P) :
    (p >>= f).run.Asks P := by
  rw [run_bind]
  apply Script.asks_bind hp
  intro out
  cases out with
  | ok a => exact hf a
  | error e => trivial

theorem asks_ask {r : Request} (h : P r) : (Step.ask r).run.Asks P :=
  Script.asks_bind (Script.asks_request h) fun _ => trivial

theorem asks_lift {p : Script α} (h : p.Asks P) : (ExceptT.lift p : Step α).run.Asks P :=
  Script.asks_bind h fun _ => trivial

theorem asks_orTransport (x : Except String α) : (Step.orTransport x).run.Asks P := by
  cases x <;> trivial

end Step

/-- it is a calm log call, or none -/
def Request.IsCalm : Request → Prop
  | .log c => c.IsCalm
  | _ => True

namespace Session

open Step

theorem asks_note {level : Log.Level} {message : String} {fields : Json.Fields}
    (h : (Log.call sessionComponent level message fields).IsCalm) :
    (note level message fields).run.Asks Request.IsCalm := asks_ask h

theorem asks_noted {c : Prop} [Decidable c] {level : Log.Level} {message : String} {fields : Json.Fields}
    (h : (Log.call sessionComponent level message fields).IsCalm) {k : Unit → Step β}
    (hk : (k ()).run.Asks Request.IsCalm) :
    (if c then note level message fields >>= k else k ()).run.Asks Request.IsCalm := by
  split
  · exact asks_bind (asks_note h) fun _ => hk
  · exact hk

theorem asks_expect (reply : Reply) (code : String) (kind : FailureKind) : (expect reply code kind).run.Asks P := by
  unfold expect
  split <;> trivial

theorem asks_exchange (line : String) (secret : Bool) : (exchange line secret).Asks Request.IsCalm := by
  refine ⟨trivial, ?_⟩
  intro x
  cases x with
  | ok _ => exact Script.asks_request trivial
  | error m => trivial

theorem asks_command (line : String) (secret : Bool) : (command line secret).run.Asks Request.IsCalm :=
  asks_bind (asks_lift (asks_exchange line secret)) asks_orTransport

/-- a command and a reply with its code -/
theorem asks_expected (line : String) (secret : Bool) (code : String) (kind : FailureKind) {k : Reply → Step β}
    (hk : ∀ r, (k r).run.Asks Request.IsCalm) :
    (command line secret >>= fun r => expect r code kind >>= fun _ => k r).run.Asks Request.IsCalm := by
  refine asks_bind (asks_command line secret) fun r => ?_
  exact asks_bind (asks_expect r code kind) fun _ => hk r

theorem asks_upgrade : upgrade.run.Asks Request.IsCalm := by
  refine asks_bind (asks_ask trivial) fun x => ?_
  cases x with
  | error m => trivial
  | ok _ =>
    refine asks_bind (asks_ask trivial) fun secure => ?_
    cases secure <;> trivial

theorem asks_handshake (s : Settings) : (handshake s).run.Asks Request.IsCalm := by
  refine asks_bind (asks_ask trivial) fun x => asks_bind (asks_orTransport x) fun greeting => ?_
  refine asks_bind (asks_expect _ _ _) fun _ => asks_bind (asks_command _ _) fun plain => ?_
  refine asks_noted (Log.isCalm_call (by decide) rfl _ _) ?_
  refine asks_expected _ _ _ _ fun _ => asks_bind asks_upgrade fun _ => asks_bind (asks_command _ _) fun offer => ?_
  refine asks_noted (Log.isCalm_call (by decide) rfl _ _) ?_
  refine asks_expected _ _ _ _ fun _ => asks_expected _ _ _ _ fun _ => ?_
  exact asks_expected _ _ _ _ fun _ => trivial

theorem asks_quit : quit.run.Asks Request.IsCalm := by
  refine asks_bind (asks_lift (asks_exchange "QUIT" false)) fun x => ?_
  cases x with
  | ok _ => trivial
  | error m => exact asks_note (Log.isCalm_call (by decide) rfl _ _)

theorem asks_compose (s : Settings) (m : Message) (offset : Int) (dating : Dating) :
    (compose s m offset dating).run.Asks Request.IsCalm := by
  refine asks_bind (asks_ask trivial) fun uuid => asks_bind ?_ fun t => trivial
  cases dating with
  | clock => exact asks_ask trivial
  | fixed t => cases t <;> trivial

theorem asks_transfer (payload : String) : (transfer payload).run.Asks Request.IsCalm := by
  refine asks_expected _ _ _ _ fun _ => asks_bind (asks_ask trivial) fun x => ?_
  refine asks_bind (asks_orTransport x) fun _ => asks_bind (asks_ask trivial) fun y => ?_
  refine asks_bind (asks_orTransport y) fun reply => ?_
  exact asks_bind (asks_expect _ _ _) fun _ => trivial

theorem asks_delivery (s : Settings) (m : Message) (offset : Int) (dating : Dating) :
    (delivery s m offset dating).run.Asks Request.IsCalm := by
  refine asks_bind (asks_handshake s) fun _ => ?_
  refine asks_bind (asks_expected _ _ _ _ fun _ => asks_bind (asks_command _ _) fun _ => asks_expect _ _ _) fun _ => ?_
  refine asks_bind (asks_compose s m offset dating) fun c => ?_
  exact asks_bind (asks_transfer c.2) fun _ => asks_bind asks_quit fun _ => trivial

theorem asks_signIn (s : Settings) : (signIn s).run.Asks Request.IsCalm :=
  asks_bind (asks_handshake s) fun _ => asks_bind asks_quit fun _ => trivial

theorem asks_overChannel {step : Step α} {report : Except Failure α → Script Unit}
    (hstep : step.run.Asks Request.IsCalm) (hreport : ∀ out, (report out).Asks Request.IsCalm) :
    (overChannel step report).Asks Request.IsCalm := by
  refine Script.asks_bind (Script.asks_request trivial) fun x => ?_
  cases x with
  | failed m => exact Script.asks_bind (hreport _) fun _ => trivial
  | absent => exact Script.asks_bind (hreport _) fun _ => trivial
  | ready =>
    refine Script.asks_bind hstep fun out => Script.asks_bind (hreport out) fun _ => ?_
    exact Script.asks_bind (Script.asks_request trivial) fun _ => trivial

end Session

theorem asks_log {level : Log.Level} (hlevel : level ≠ .error) {fields : Json.Fields}
    (htidy : Log.tidyNames (fields.map Prod.fst) = true) (component message : String) :
    (Script.request (.log (Log.call component level message fields))).Asks Request.IsCalm :=
  Script.asks_request (Log.isCalm_call hlevel htidy component message)

/-- **A delivery logs calm calls only.** -/
theorem asks_sendMail (s : Settings) (m : Message) (offset : Int) (dating : Session.Dating) :
    (sendMail s m offset dating).Asks Request.IsCalm := by
  unfold sendMail
  split
  · exact Script.asks_bind (asks_log (by decide) rfl _ _) fun _ => trivial
  · refine Script.asks_bind (Script.asks_request trivial) fun started => ?_
    refine Session.asks_overChannel (Session.asks_delivery s m offset dating) fun out => ?_
    cases out with
    | ok r => exact Script.asks_bind (Script.asks_request trivial) fun ended => asks_log (by decide) rfl _ _
    | error f => exact asks_log (by decide) rfl _ _

/-- **A try logs calm calls only.** -/
theorem asks_verifyRelay (s : Settings) : (verifyRelay s).Asks Request.IsCalm := by
  unfold verifyRelay
  split
  · trivial
  · refine Session.asks_overChannel (Session.asks_signIn s) fun out => ?_
    cases out with
    | ok r => exact asks_log (by decide) rfl _ _
    | error f => exact asks_log (by decide) rfl _ _

/-! ## What a connection does -/

/-- it is a calm log call, or none -/
def Effect.IsCalm : Effect → Prop
  | .log c => c.IsCalm
  | _ => True

namespace Connection

/-- what an outcome logs is calm -/
def Calm (o : Outcome) : Prop := ∀ e ∈ o.2, e.IsCalm

variable {c : Connection}

theorem calm_still (c : Connection) : Calm (c, []) := List.forall_mem_nil _

theorem Calm.andThen {o : Outcome} {f : Connection → Outcome} (h : Calm o) (hf : ∀ c, Calm (f c)) :
    Calm (Connection.andThen o f) := List.forall_mem_append.2 ⟨h, hf o.1⟩

theorem calm_note {level : Log.Level} (hlevel : level ≠ .error) {fields : Json.Fields}
    (htidy : Log.tidyNames (fields.map Prod.fst) = true) (message : String) :
    (note level message fields).IsCalm := Log.isCalm_call hlevel htidy _ message

theorem calm_traceReply (lines : List String) : ∀ e ∈ traceReply lines, e.IsCalm := by
  intro e he
  obtain ⟨line, -, rfl⟩ := List.mem_map.1 he
  exact calm_note (by decide) rfl _

/-- a reply in the log and an answer -/
theorem calm_traced (lines : List String) (id : Nat) (r : Except String Reply) :
    ∀ e ∈ traceReply lines ++ [.answered id r], e.IsCalm :=
  List.forall_mem_append.2 ⟨calm_traceReply lines, by simp [Effect.IsCalm]⟩

theorem calm_pushLine (now : Int) (line : String) (c : Connection) : Calm (pushLine now line c) := by
  unfold pushLine
  split
  · exact calm_still _
  · dsimp only
    split
    · exact List.forall_mem_cons.2 ⟨trivial, calm_traced _ _ _⟩
    · simp [Calm, Effect.IsCalm]

theorem calm_feed (now : Int) (bytes : Text.Utf8.Bytes) (c : Connection) : Calm (feed now bytes c) := by
  have hbyte : ∀ b c, Calm (feedByte now c b) := by
    intro b c
    unfold feedByte
    split
    · exact calm_pushLine _ _ _
    · exact calm_still _
  induction bytes generalizing c with
  | nil => exact calm_still c
  | cons b bytes ih =>
    rw [feed_cons]
    exact (hbyte b c).andThen ih

theorem calm_finish (now : Int) (error : String) (c : Connection) : Calm (finish now error c) := by
  unfold finish
  split
  · exact calm_still c
  · apply Calm.andThen
    · split
      · exact calm_still _
      · exact calm_pushLine _ _ _
    · intro c
      split <;> simp [Calm, Effect.IsCalm]

theorem calm_read (now : Int) (id : Nat) (c : Connection) : Calm (read now id c) := by
  unfold read
  split
  · exact calm_traced _ _ _
  · split <;> simp [Calm, Effect.IsCalm]

theorem calm_writeRaw (text : String) (c : Connection) : ∀ e ∈ (c.writeRaw text).2, e.IsCalm := by
  unfold writeRaw
  split
  · split <;> simp [Effect.IsCalm]
  · simp

theorem calm_writeLine (line : String) (secret : Bool) (c : Connection) :
    ∀ e ∈ (c.writeLine line secret).2, e.IsCalm :=
  List.forall_mem_cons.2 ⟨calm_note (by decide) rfl _, calm_writeRaw _ c⟩

theorem calm_startTls (id : Nat) (anchor : Except String (Option String)) (c : Connection) :
    Calm (startTls id anchor c) := by
  unfold startTls
  cases anchor <;> simp [Calm, Effect.IsCalm]

theorem calm_shaken (id : Nat) (c : Connection) : Calm (shaken id c) := by
  unfold shaken
  split
  · exact calm_still c
  · split
    · exact calm_still c
    · have hdone : (note .debug "TLS established" [("protocol", .str "TLSv1.3"),
          ("cipher", .str "TLS_AES_256_GCM_SHA384")]).IsCalm := calm_note (by decide) rfl _
      split <;> simpa [Calm, Effect.IsCalm] using hdone

theorem calm_abandon (id : Nat) (error : String) (c : Connection) : Calm (abandon id error c) := by
  unfold abandon
  split
  · exact calm_still c
  · dsimp only
    split <;> simp [Calm, Effect.IsCalm]

theorem calm_shakeFailed (now : Int) (id : Nat) (error : String) (c : Connection) :
    Calm (shakeFailed now id error c) := by
  unfold shakeFailed
  split
  · exact Calm.andThen (by simp [Calm, Effect.IsCalm]) (calm_abandon id error)
  · split
    · exact calm_finish now error c
    · exact calm_still c
  · exact calm_still c

theorem calm_hangUp (now : Int) (error : Option String) (c : Connection) : Calm (hangUp now error c) := by
  unfold hangUp
  dsimp only
  split
  · exact calm_finish _ _ _
  · exact calm_still _

theorem calm_close (now : Int) (c : Connection) : Calm (close now c) := by
  unfold close
  apply Calm.andThen
  · dsimp only [Calm]
    split <;> simp [Effect.IsCalm]
  · exact calm_finish now _

theorem calm_receive (now : Int) (layer : Layer) (packets : List Text.Utf8.Bytes) (ending : Option Net.Ending)
    (c : Connection) : Calm (Net.Network.receive now layer packets ending c) := by
  have harrive : Calm (arrive now packets.flatten c) := by
    unfold arrive
    split
    · exact calm_feed _ _ _
    · exact calm_still c
  unfold Net.Network.receive
  split
  · apply harrive.andThen
    intro c
    split
    · exact calm_still c
    · exact calm_hangUp _ _ _
    · exact calm_hangUp _ _ _
  · exact calm_still c

/-- **Whatever comes to a connection**, what it logs is calm. -/
theorem calm_meets (now : Int) (x : Net.Coming) (c : Connection) : Calm (c.meets now x) := by
  cases x with
  | alarm a =>
    cases a with
    | connect => exact calm_still c
    | handshake id => exact calm_abandon _ _ _
    | read id => simp [meets, alarm, readExpired, Calm, Effect.IsCalm]
  | accepted => exact calm_still c
  | refused m => exact calm_still c
  | delivery layer packets ending => exact calm_receive _ _ _ _ _
  | shaken => exact calm_shaken 0 c
  | shakeFailed m => exact calm_shakeFailed _ _ _ _

end Connection

end Smtp

namespace Net

open Smtp

namespace Network

variable {α : Type} {n m : Network} {env : Environment} {P : Log.Call → Prop}

/-! ## What the surroundings have heard -/

/-- the environment is this one, and every log call so far has a property -/
structure Heard (P : Log.Call → Prop) (env : Environment) (n : Network) : Prop where
  env : n.world.env = env
  calls : ∀ t ∈ n.world.calls, P t.call

/-- the environment is this one, and every log call so far is calm -/
abbrev Calm (env : Environment) (n : Network) : Prop := Heard Log.Call.IsCalm env n

@[simp]
theorem start_world (w : World) (relays : List Relay) : (start w relays).world = w := rfl

theorem heard_start {w : World} (h : w.calls = []) (relays : List Relay) : Heard P w.env (start w relays) := by
  refine ⟨rfl, ?_⟩
  rw [start_world, h]
  exact List.forall_mem_nil _

theorem Heard.of_same (h : Heard P env n) (henv : m.world.env = n.world.env) (hcalls : m.world.calls = n.world.calls) :
    Heard P env m := by
  refine ⟨henv.trans h.env, ?_⟩
  rw [hcalls]
  exact h.calls

theorem Heard.of_world (h : Heard P env n) (hworld : m.world = n.world) : Heard P env m :=
  h.of_same (congrArg World.env hworld) (congrArg World.calls hworld)

theorem Heard.log (h : Heard P env n) {c : Log.Call} (hc : P c) : Heard P env { n with world := n.world.log c } :=
  ⟨h.env, List.forall_mem_cons.2 ⟨hc, h.calls⟩⟩

theorem deliver_world (n : Network) (layer : Layer) (d : Delivery) : (n.deliver layer d).world = n.world := by
  unfold deliver
  split
  · rfl
  · split <;> rfl

theorem Heard.dial (h : Heard P env n) (s : Settings) : Heard P env (n.dial s) := by
  rw [dial_eq]
  split <;> exact h.of_world rfl

section Calm

variable (hP : ∀ c : Log.Call, c.IsCalm → P c)

include hP

theorem Heard.effect (h : Heard P env n) {e : Effect} (he : e.IsCalm) : Heard P env (n.effect e) := by
  cases e with
  | wrote layer text =>
    apply h.of_world
    simp only [Network.effect, reply]
    split
    · rfl
    · rw [deliver_world]
      rfl
  | shake a =>
    apply h.of_world
    simp only [Network.effect, shake]
    split <;> rfl
  | log c => exact h.log (hP c he)
  | _ => exact h.of_world rfl

theorem Heard.effects (h : Heard P env n) {es : List Effect} (hes : ∀ e ∈ es, e.IsCalm) :
    Heard P env (n.effects es) := by
  induction es generalizing n with
  | nil => exact h
  | cons e es ih =>
    obtain ⟨he, hes⟩ := List.forall_mem_cons.1 hes
    exact ih (h.effect hP he) hes

/-- effects are carried out while the line changes -/
theorem Heard.carried (h : Heard P env n) (l : Line) {es : List Effect} (hes : ∀ e ∈ es, e.IsCalm) :
    Heard P env (({ n with line := l } : Network).effects es) := by
  have hline : Heard P env { n with line := l } := h.of_world rfl
  exact hline.effects hP hes

theorem Heard.onConnection (h : Heard P env n) {f : Connection → Connection.Outcome} (hf : ∀ c, Connection.Calm (f c)) :
    Heard P env (n.onConnection f) := by
  unfold Network.onConnection
  split
  · rename_i c _
    exact h.carried hP _ (hf c)
  · exact h

theorem Heard.dialedAs (h : Heard P env n) {o : DialOutcome × List Effect} (ho : ∀ e ∈ o.2, e.IsCalm) :
    Heard P env (n.dialedAs o) := by
  obtain ⟨c | message, es⟩ := o
  · exact (h.carried hP (.up c) ho).of_world (deliver_world _ _ _)
  · exact (h.carried hP .idle ho).of_world rfl

/-- **Whatever happens**, what is logged is calm. -/
theorem Heard.happen (h : Heard P env n) (x : Nat × Coming) : Heard P env (n.happen x) := by
  by_cases hnumber : x.1 = n.number
  swap
  · rw [happen_other hnumber]
    exact h
  obtain ⟨number, x⟩ := x
  obtain rfl : number = n.number := hnumber
  have hgivenUp : ∀ live, ∀ e ∈ Dial.givenUp live, e.IsCalm := by
    intro live
    cases live <;> simp [Dial.givenUp, Effect.IsCalm]
  cases hline : n.line with
  | idle =>
    rw [happen_idle hline]
    exact h
  | dialing =>
    rw [happen_dialing hline]
    split
    · refine h.dialedAs hP (List.forall_mem_cons.2 ⟨trivial, List.forall_mem_cons.2 ⟨?_, List.forall_mem_nil _⟩⟩)
      exact Connection.calm_note (by decide) rfl _
    · exact h.dialedAs hP (List.forall_mem_cons.2 ⟨trivial, hgivenUp true⟩)
    · exact h.dialedAs hP (hgivenUp true)
    · exact h
  | up c =>
    rw [happen_up hline]
    exact h.carried hP _ (Connection.calm_meets n.world.now x c)

theorem Heard.wait (h : Heard P env n) (ready : Network → Bool) (fuel : Nat) : Heard P env (wait ready fuel n) := by
  induction fuel generalizing n with
  | zero => exact h
  | succ fuel ih =>
    rw [wait_succ, next?_eq]
    split
    · exact h
    · cases hx : n.upcoming? with
      | none => exact h
      | some q =>
        obtain ⟨x, m⟩ := q
        obtain ⟨queue, agenda, now, rfl⟩ := frame_upcoming hx
        have hnext : Heard P env { n with queue := queue, agenda := agenda, world := { n.world with now := now } } :=
          h.of_same rfl rfl
        exact ih (hnext.happen hP x)

/-- a calm request leaves calm calls only in the log -/
theorem Heard.handle (h : Heard P env n) (s : Settings) {r : Request} (hr : r.IsCalm) :
    Heard P env (handle s r n).2 := by
  cases r with
  | openChannel => exact (h.dial s).wait hP _ _
  | read =>
    have hopen : Heard P env { n with answer := none } := h.of_world rfl
    exact (hopen.onConnection hP (Connection.calm_read _ 0)).wait hP _ _
  | startTls =>
    have hopen : Heard P env { n with upgraded := none } := h.of_world rfl
    exact (hopen.onConnection hP (Connection.calm_startTls 0 _)).wait hP _ _
  | writeLine text secret =>
    simp only [Network.handle]
    split
    · rename_i c _
      exact h.effects hP (c.calm_writeLine text secret)
    · exact h
  | writeRaw text =>
    simp only [Network.handle]
    split
    · rename_i c _
      exact h.effects hP (c.calm_writeRaw text)
    · exact h
  | close => exact (h.onConnection hP (Connection.calm_close _)).of_world rfl
  | log c => exact h.log (hP c hr)
  | _ => exact h.of_same rfl rfl

/-- **A session that logs calm calls itself leaves no other in the log**: a property of calm calls that all calls had so
far all calls have behind it. -/
theorem heard_run {p : Script α} (hp : p.Asks Request.IsCalm) (h : Heard P env n) (s : Settings) :
    Heard P env (p.run (handle s) n).2 := by
  induction p generalizing n with
  | done a => exact h
  | ask r next ih => exact ih _ (hp.2 _) (h.handle hP s hp.1)

end Calm

end Network

end Net

end EnquiryMail
