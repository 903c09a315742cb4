/-
The fan-out of a submission. A submission that is taken goes to every recipient, one delivery after another over one
network, and each delivery is what it would be on its own.

- `due`: the message that a recipient is to get.
- `attempts`: the deliveries of messages one after another, each over the network that the one before has left.
- `AtRest.standalone`: over a network at rest a delivery gives what it gives over a network of its own with the same
  relays to come; what is left over from earlier deliveries does not matter.
- `one_at_a_time`: a connection is asked for only when nothing is open.
- `submit_fans_out`: what becomes of a submission, whatever it is and whatever the relays do.
-/
import EnquiryMail.Enquiry.Service
import EnquiryMail.Proofs.Net.Single
import EnquiryMail.Proofs.Net.Twins

namespace EnquiryMail

/-- surroundings at the same time and place, with the same files -/
structure World.Like (v v' : World) : Prop where
  now : v.now = v'.now
  offset : v.offset = v'.offset
  files : v.files = v'.files
  directory : v.directory = v'.directory

namespace Net

open Smtp

/-- two networks whose past does not matter -/
def Books.identifiers : Books .identifiers where
  wires _ _ _ := True
  worlds := World.Like
  same _ _ := trivial
  unwritten _ _ := trivial
  secret _ _ _ := trivial
  raw _ _ _ := trivial
  now h := h.now
  anchor h s := by simp only [trustAnchor, h.files, h.directory]
  jump h _ := ⟨rfl, h.offset, h.files, h.directory⟩
  noted h _ := ⟨h.now, h.offset, h.files, h.directory⟩
  logged _ h := ⟨h.now, h.offset, h.files, h.directory⟩
  fresh h := ⟨trivial, h.now, h.offset, h.files, h.directory⟩

/-- **A delivery over a network at rest** is what it is over a network of its own, up to the id of its message. -/
theorem Network.AtRest.standalone {n : Network} (h : n.AtRest) {w : World} (hw : n.world.Like w) (s : Settings)
    (m : Mail.Message) (offset : Int) (dating : Session.Dating) :
    Both (fun r r' => r.response = r'.response) ((sendMail s m offset dating).run (handle s) n).1
      ((sendMail s m offset dating).run (handle s) (start w n.relays)).1 := by
  have hconcludes := concludes_sendMail s m offset dating
  have habreast : Abreast .identifiers [] .unopened n (start w n.relays) :=
    abreast_of_poised ⟨rfl, trivial, hw⟩ h.kept (kept_start w n.relays) h.idle rfl h.dated (dated_start w n.relays)
  exact ((sustains_handle .identifiers rfl).run (parallel_identifiers s m offset dating) hconcludes hconcludes
    habreast).1

end Net

namespace Enquiry

open Net
open Smtp (sendMail Script Both)

/-! ## Attempts -/

/-- the message that a recipient is to get: the text of the enquiry under the subject of the settings, to be answered
to whoever enquires -/
def due (s : Settings) (e : Enquiry) (recipient : String) : Mail.Message where
  recipient := recipient
  subject := s.subject
  body := body e s.siteName
  replyTo := e.email

/-- a delivery of a message: the network that it finds, what comes of it, and the network that it leaves -/
structure Attempt where
  message : Mail.Message
  before : Network
  result : SendResult
  after : Network

/-- whom an attempt is for -/
def Attempt.recipient (a : Attempt) : String := a.message.recipient

variable (smtp : Smtp.Settings)

/-- the session that delivers a message over a network -/
def session (m : Mail.Message) (n : Network) : Script SendResult := sendMail smtp m n.world.offset .clock

/-- the attempt that a run is -/
def Attempt.ofRun (m : Mail.Message) (before : Network) (run : SendResult × Network) : Attempt :=
  ⟨m, before, run.1, run.2⟩

/-- delivers a message -/
def attempt (m : Mail.Message) (n : Network) : Attempt :=
  .ofRun m n ((session smtp m n).run (Network.handle smtp) n)

/-- a network when something has been logged -/
def logged (c : Log.Call) (n : Network) : Network := { n with world := n.world.log c }

/-- the network behind an attempt: a failure is logged -/
def Attempt.noted (a : Attempt) : Network :=
  match a.result with
  | .ok _ => a.after
  | .error failure =>
    logged (Log.call component .error ("Enquiry not delivered to " ++ a.recipient ++ ": " ++ failure.message)
      [("kind", .str failure.kind.name)]) a.after

/-- the attempts at messages one after another, each over the network behind the one before -/
def attempts : List Mail.Message → Network → List Attempt
  | [], _ => []
  | m :: rest, n => attempt smtp m n :: attempts rest (attempt smtp m n).noted

/-- the network behind attempts at a network -/
def behind (as : List Attempt) (n : Network) : Network := as.foldl (fun _ a => a.noted) n

/-- the recipient of an attempt that succeeds -/
def Attempt.delivered? (a : Attempt) : Option String :=
  match a.result with
  | .ok _ => some a.recipient
  | .error _ => none

/-- the recipient of an attempt that fails, with its failure -/
def Attempt.undelivered? (a : Attempt) : Option Undelivered :=
  match a.result with
  | .ok _ => none
  | .error failure => some ⟨a.recipient, failure⟩

/-- what becomes of the sockets during an attempt -/
def Attempt.fates (a : Attempt) : List Smtp.Fate :=
  Network.sessionFates smtp (session smtp a.message a.before) a.before

variable {smtp} {s : Settings} {e : Enquiry} {n : Network} {messages : List Mail.Message}

theorem log_network (c : Log.Call) (n : Network) : (networkCourier smtp).log c n = logged c n := rfl

/-- what the courier of a network does is a session over it -/
theorem send_network (m : Mail.Message) (n : Network) :
    (networkCourier smtp).send m n =
      (.ok ((session smtp m n).run (Network.handle smtp) n).1, ((session smtp m n).run (Network.handle smtp) n).2) := by
  unfold networkCourier session
  dsimp only

/-- what the service hands over for a recipient is due to that recipient -/
theorem mailTo_eq_due (s : Settings) (e : Enquiry) (recipient : String) :
    mailTo s e recipient = due s e recipient := rfl

/-- the service makes these attempts, in this order -/
theorem deliver_eq (recipients : List String) (n : Network) :
    let as := attempts smtp (recipients.map (due s e)) n
    deliver (networkCourier smtp) s e recipients n =
      (.ok (as.filterMap Attempt.delivered?, as.filterMap Attempt.undelivered?), behind as n) := by
  dsimp only
  induction recipients generalizing n with
  | nil => rfl
  | cons recipient rest ih =>
    rw [deliver, mailTo_eq_due, send_network, List.map_cons, attempts, List.filterMap_cons, List.filterMap_cons, behind,
      List.foldl_cons, attempt]
    generalize (session smtp (due s e recipient) n).run (Network.handle smtp) n = run
    obtain ⟨failure | receipt, n'⟩ := run
    · dsimp only
      rw [log_network, ih]
      rfl
    · dsimp only
      rw [ih]
      rfl

theorem messages_attempts (messages : List Mail.Message) (n : Network) :
    (attempts smtp messages n).map Attempt.message = messages := by
  induction messages generalizing n with
  | nil => rfl
  | cons m rest ih => exact congrArg (m :: ·) (ih _)

theorem recipients_attempts (recipients : List String) (n : Network) :
    (attempts smtp (recipients.map (due s e)) n).map Attempt.recipient = recipients := by
  calc (attempts smtp (recipients.map (due s e)) n).map Attempt.recipient
    _ = ((attempts smtp (recipients.map (due s e)) n).map Attempt.message).map (·.recipient) := List.map_map.symm
    _ = (recipients.map (due s e)).map (·.recipient) := by rw [messages_attempts]
    _ = recipients.map id := List.map_map
    _ = recipients := List.map_id recipients

/-- an attempt at a network at rest, with the relays to come in step -/
structure Sober (smtp : Smtp.Settings) (relays : List Relay) (a : Attempt) : Prop where
  made : a = attempt smtp a.message a.before
  rest : a.before.AtRest
  inStep : Network.InStep relays a.before

variable {relays : List Relay}

theorem concludes_session (m : Mail.Message) (n : Network) : Smtp.Concludes .unopened (session smtp m n) :=
  Smtp.concludes_sendMail smtp m n.world.offset .clock

/-- noting a failure changes the surroundings only -/
theorem Attempt.noted_eq (a : Attempt) : ∃ w, a.noted = { a.after with world := w } := by
  rw [Attempt.noted]
  split
  · exact ⟨a.after.world, rfl⟩
  · exact ⟨_, rfl⟩

/-- an attempt leaves the network at rest -/
theorem atRest_noted (h : n.AtRest) (m : Mail.Message) : (attempt smtp m n).noted.AtRest := by
  have hconcludes : Smtp.Concludes .unopened (session smtp m n) := concludes_session m n
  have hafter := (h.run hconcludes smtp).2
  rw [attempt]
  generalize (session smtp m n).run (Network.handle smtp) n = run at hafter
  obtain ⟨w, hnoted⟩ := Attempt.noted_eq (.ofRun m n run)
  rw [hnoted]
  exact hafter.world w

theorem inStep_noted (h : Network.InStep relays n) (m : Mail.Message) :
    Network.InStep relays (attempt smtp m n).noted := by
  have hafter := Network.inStep_run h smtp (session smtp m n)
  rw [attempt]
  generalize (session smtp m n).run (Network.handle smtp) n = run at hafter
  obtain ⟨w, hnoted⟩ := Attempt.noted_eq (.ofRun m n run)
  rw [hnoted]
  exact hafter.quiet (Network.quiet_of_same rfl rfl)

/-- **Every attempt** is made at a network at rest, by induction on the messages. -/
theorem sober_attempts (hn : n.AtRest) (hrelays : Network.InStep relays n) :
    ∀ a ∈ attempts smtp messages n, Sober smtp relays a := by
  induction messages generalizing n with
  | nil => exact List.forall_mem_nil _
  | cons m rest ih =>
    rw [attempts, List.forall_mem_cons]
    exact ⟨⟨rfl, hn, hrelays⟩, ih (atRest_noted hn m) (inStep_noted hrelays m)⟩

theorem Sober.released {a : Attempt} (h : Sober smtp relays a) :
    Network.Released smtp (session smtp a.message a.before) a.before :=
  (h.rest.run (concludes_session a.message a.before) smtp).1

/-- what comes of an attempt comes of it alone -/
theorem Sober.alone {a : Attempt} (h : Sober smtp relays a) {w : World} (hw : a.before.world.Like w) :
    ∃ r, ((networkCourier smtp).send a.message (Network.start w a.before.relays)).1 = .ok r ∧
      Both (fun x y => x.response = y.response) a.result r := by
  have hboth := h.rest.standalone hw smtp a.message a.before.world.offset .clock
  have hsame : session smtp a.message a.before = session smtp a.message (Network.start w a.before.relays) := by
    rw [session, session, hw.offset]
    rfl
  have hresult : a.result = ((session smtp a.message a.before).run (Network.handle smtp) a.before).1 := by
    have hmade := congrArg Attempt.result h.made
    rw [attempt] at hmade
    exact hmade
  rw [send_network, hresult, ← hsame]
  exact ⟨_, rfl, hboth⟩

/-- an attempt asks for a connection before anything else, if it does -/
theorem first_fate {a : Attempt} {fates : List Smtp.Fate} (h : fates ++ [.opened .plain] <+: a.fates smtp) :
    fates = [] := by
  have hconcludes : Smtp.Concludes .unopened (session smtp a.message a.before) := concludes_session _ _
  rcases Network.fates_session (s := smtp) hconcludes a.before with hnone | ⟨rest, hfirst, hrest⟩
  · rw [Attempt.fates, hnone] at h
    exact absurd (List.prefix_nil.1 h) (List.append_ne_nil_of_right_ne_nil _ (List.cons_ne_nil _ _))
  · rw [Attempt.fates, hfirst] at h
    cases fates with
    | nil => rfl
    | cons f fates =>
      have htail := (List.cons_prefix_cons.1 h).2
      exact absurd (htail.subset (List.mem_append_right _ List.mem_cons_self)) hrest

/-- **One connection at a time**: where one is asked for, nothing is open; by induction on the attempts. -/
theorem one_at_a_time {as : List Attempt} (has : ∀ a ∈ as, Sober smtp relays a) {fates : List Smtp.Fate}
    (h : fates ++ [.opened .plain] <+: as.flatMap (Attempt.fates smtp)) : Smtp.heldAfter [] fates = [] := by
  induction as generalizing fates with
  | nil => exact absurd (List.prefix_nil.1 h) (List.append_ne_nil_of_right_ne_nil _ (List.cons_ne_nil _ _))
  | cons a as ih =>
    obtain ⟨ha, has⟩ := List.forall_mem_cons.1 has
    have hclosed : Smtp.heldAfter [] (a.fates smtp) = [] := ha.released.sockets
    rw [List.flatMap_cons] at h
    rcases List.prefix_or_prefix_of_prefix h (List.prefix_append _ _) with hwithin | hbehind
    · rw [first_fate hwithin]
      rfl
    · rcases List.prefix_concat_iff.1 hbehind with hlast | ⟨more, rfl⟩
      · have hwithin : fates ++ [.opened .plain] <+: a.fates smtp := ⟨[], by rw [List.append_nil, hlast]⟩
        rw [first_fate hwithin]
        rfl
      · rw [List.append_assoc] at h
        rw [Smtp.heldAfter_append, hclosed]
        exact ih has ((List.prefix_append_right_inj _).1 h)

/-! ## Submissions -/

/-- where a problem comes in the order of the checks: the guard first, then the fields of the form -/
def Problem.place : Problem → Nat
  | .tooQuick => 0
  | .nameMissing => 1
  | .emailMissing | .emailInvalid => 2
  | .companyMissing => 3
  | .messageMissing | .messageShort | .messageLong => 4

/-- what guard and form find at a time -/
def found (s : Settings) (submission : Submission) (now : Time.Instant) : List Problem :=
  (guard submission s.minFillSeconds (some now)).problems ++ submission.problems

/-- problems in their order, with places from one on up to another -/
def Between (first last : Nat) (problems : List Problem) : Prop :=
  problems.Pairwise (fun p q => p.place < q.place) ∧ ∀ p ∈ problems, first ≤ p.place ∧ p.place < last

theorem between_nil (k : Nat) : Between k (k + 1) [] := ⟨.nil, List.forall_mem_nil _⟩

theorem between_one (p : Problem) : Between p.place (p.place + 1) [p] :=
  ⟨List.pairwise_singleton _ p, by simp⟩

theorem Between.append {a b c : Nat} {l l' : List Problem} (h : Between a b l) (h' : Between b c l') (hab : a ≤ b)
    (hbc : b ≤ c) : Between a c (l ++ l') := by
  refine ⟨List.pairwise_append.2 ⟨h.1, h'.1, fun p hp q hq => ?_⟩, fun p hp => ?_⟩
  · have hfirst := (h.2 p hp).2
    have hsecond := (h'.2 q hq).1
    omega
  · rcases List.mem_append.1 hp with hp | hp
    · have hplace := h.2 p hp
      omega
    · have hplace := h'.2 p hp
      omega

theorem between_guard (submission : Submission) (minFill : Number) (now : Option Time.Instant) :
    Between 0 1 (guard submission minFill now).problems := by
  unfold guard
  split
  · exact between_nil 0
  · dsimp only
    split
    · exact between_one .tooQuick
    · exact between_nil 0

theorem between_email (email : String) : Between 2 3 (emailProblems email) := by
  unfold emailProblems
  split
  · exact between_one .emailMissing
  · split
    · exact between_nil 2
    · exact between_one .emailInvalid

theorem between_message (message : String) : Between 4 5 (messageProblems message) := by
  simp only [messageProblems]
  split
  · exact between_one .messageMissing
  · split
    · exact between_one .messageShort
    · split
      · exact between_one .messageLong
      · exact between_nil 4

theorem between_fields (submission : Submission) : Between 1 5 submission.problems := by
  have hname : Between 1 2 (if submission.name = "" then [.nameMissing] else []) := by
    split
    · exact between_one .nameMissing
    · exact between_nil 1
  have hcompany : Between 3 4 (if submission.company = "" then [.companyMissing] else []) := by
    split
    · exact between_one .companyMissing
    · exact between_nil 3
  have hemail := hname.append (between_email submission.email) (by omega) (by omega)
  exact (hemail.append hcompany (by omega) (by omega)).append (between_message submission.message) (by omega) (by omega)

theorem pairwise_found (s : Settings) (submission : Submission) (now : Time.Instant) :
    (found s submission now).Pairwise fun p q => p.place < q.place :=
  ((between_guard submission s.minFillSeconds (some now)).append (between_fields submission) (by omega) (by omega)).1

/-- nothing is done but logging -/
def Unsent (n n' : Network) : Prop := ∃ c, n' = logged c n

/-- what becomes of a submission that goes out -/
structure SentOut (smtp : Smtp.Settings) (s : Settings) (submission : Submission) (relays : List Relay) (n : Network)
    (as : List Attempt) (run : Except Thrown Outcome × Network) : Prop where
  /-- every recipient once, in order -/
  recipients : as.map Attempt.recipient = s.recipients
  /-- what is delivered: to each of them, under the subject of the settings, the text of the enquiry, to be answered to
  the address in the form -/
  messages : as.map Attempt.message = s.recipients.map fun recipient =>
    { recipient, subject := s.subject, body := body submission.enquiry s.siteName, replyTo := submission.email }
  /-- nothing is done but the attempts, and logging behind them -/
  left : run.2 = behind as n ∨ Unsent (behind as n) run.2
  sent : run.1 = .ok (.sent s.recipients) ↔ ∀ a ∈ as, ∃ receipt, a.result = .ok receipt
  failed : (∃ a ∈ as, ∃ failure, a.result = .error failure) →
    run.1 = .ok (.failed (unavailable s) (as.filterMap Attempt.undelivered?))
  /-- each attempt closes what it opens, and leaves no alarm behind -/
  released : ∀ a ∈ as, Network.Released smtp (session smtp a.message a.before) a.before
  /-- a connection is asked for only when nothing is open -/
  single : ∀ fates, fates ++ [.opened .plain] <+: as.flatMap (Attempt.fates smtp) → Smtp.heldAfter [] fates = []
  /-- each connection meets the next relay -/
  relays : ∀ a ∈ as, a.before.relays = relays.drop a.before.connects
  /-- the same delivery over a network of its own, in any surroundings alike, gives the same up to the id -/
  alone : ∀ a ∈ as, ∀ w, a.before.world.Like w →
    ∃ r, ((networkCourier smtp).send a.message (Network.start w a.before.relays)).1 = .ok r ∧
      Both (fun x y => x.response = y.response) a.result r

/-- what becomes of a submission -/
structure FannedOut (smtp : Smtp.Settings) (s : Settings) (submission : Submission) (relays : List Relay) (n : Network)
    (run : Except Thrown Outcome × Network) : Prop where
  discarded : submission.website ≠ "" → run.1 = .ok .discarded ∧ Unsent n run.2
  rejected : submission.website = "" → found s submission n.world.now ≠ [] →
    run.1 = .ok (.rejected (found s submission n.world.now)) ∧ Unsent n run.2
  /-- the guard's problem comes first, then those of the fields in the order of the form, one for each at most -/
  order : (found s submission n.world.now).Pairwise fun p q => p.place < q.place
  sentOut : submission.website = "" → found s submission n.world.now = [] →
    SentOut smtp s submission relays n (attempts smtp (s.recipients.map (due s submission.enquiry)) n) run

theorem guard_bot (submission : Submission) (minFill : Number) (now : Option Time.Instant) :
    (guard submission minFill now).bot = decide (submission.website ≠ "") := by
  unfold guard
  split <;> simp_all

/-- with nobody left out everybody has been served -/
theorem delivered_of_none {as : List Attempt} (h : as.filterMap Attempt.undelivered? = []) :
    as.filterMap Attempt.delivered? = as.map Attempt.recipient := by
  induction as with
  | nil => rfl
  | cons a as ih =>
    cases hresult : a.result with
    | ok receipt =>
      simp only [List.filterMap_cons, Attempt.undelivered?, Attempt.delivered?, hresult] at h ⊢
      rw [ih h]
      rfl
    | error failure =>
      simp only [List.filterMap_cons, Attempt.undelivered?, hresult] at h
      cases h

theorem undelivered_eq_nil {as : List Attempt} :
    as.filterMap Attempt.undelivered? = [] ↔ ∀ a ∈ as, ∃ receipt, a.result = .ok receipt := by
  rw [List.filterMap_eq_nil_iff]
  refine forall₂_congr fun a _ => ?_
  rw [Attempt.undelivered?]
  cases a.result <;> simp

section Submit

variable {input : Json}

theorem submit_discarded (hwebsite : (Submission.read input).website ≠ "") :
    (submit (networkCourier smtp) s input n).1 = .ok .discarded ∧
      Unsent n (submit (networkCourier smtp) s input n).2 := by
  have hbot : (guard (Submission.read input) s.minFillSeconds (some n.world.now)).bot = true := by
    rw [guard_bot]
    exact decide_eq_true hwebsite
  have hsubmit : submit (networkCourier smtp) s input n = (.ok .discarded, logged
      (Log.call component .info "Honeypot field filled; enquiry discarded" []) n) := if_pos hbot
  rw [hsubmit]
  exact ⟨rfl, _, rfl⟩

/-- an empty hidden field leaves guard and form to decide -/
theorem bot_eq_false (hwebsite : (Submission.read input).website = "") :
    ¬(guard (Submission.read input) s.minFillSeconds (some ((networkCourier smtp).world n).now)).bot = true := by
  rw [guard_bot, hwebsite]
  simp

theorem submit_rejected (hwebsite : (Submission.read input).website = "")
    (hfound : found s (Submission.read input) n.world.now ≠ []) :
    (submit (networkCourier smtp) s input n).1 = .ok (.rejected (found s (Submission.read input) n.world.now)) ∧
      Unsent n (submit (networkCourier smtp) s input n).2 := by
  unfold submit
  dsimp only
  rw [if_neg (bot_eq_false hwebsite)]
  split
  · rename_i hnone
    exact absurd hnone hfound
  · exact ⟨rfl, _, rfl⟩

/-- what a submission that goes out comes to -/
theorem submit_taken (smtp : Smtp.Settings) (hwebsite : (Submission.read input).website = "")
    (hnone : found s (Submission.read input) n.world.now = []) :
    let as := attempts smtp (s.recipients.map (due s (Submission.read input).enquiry)) n
    let run := submit (networkCourier smtp) s input n
    (as.filterMap Attempt.undelivered? = [] → run.1 = .ok (.sent s.recipients) ∧ Unsent (behind as n) run.2) ∧
      (as.filterMap Attempt.undelivered? ≠ [] →
        run.1 = .ok (.failed (unavailable s) (as.filterMap Attempt.undelivered?)) ∧ run.2 = behind as n) := by
  intro as run
  have hdeliver : deliver (networkCourier smtp) s (Submission.read input).enquiry s.recipients n =
      (.ok (as.filterMap Attempt.delivered?, as.filterMap Attempt.undelivered?), behind as n) :=
    deliver_eq s.recipients n
  have hrecipients : as.map Attempt.recipient = s.recipients := recipients_attempts s.recipients n
  have hrun : run = submit (networkCourier smtp) s input n := rfl
  unfold submit at hrun
  dsimp only at hrun
  rw [if_neg (bot_eq_false hwebsite)] at hrun
  split at hrun
  · rw [hdeliver] at hrun
    constructor
    · intro hall
      rw [delivered_of_none hall, hall, hrecipients] at hrun
      rw [hrun]
      exact ⟨rfl, _, rfl⟩
    · intro hsome
      cases hfailures : as.filterMap Attempt.undelivered? with
      | nil => exact absurd hfailures hsome
      | cons failure failures =>
        rw [hfailures] at hrun
        rw [hrun]
        exact ⟨rfl, rfl⟩
  · rename_i hproblems
    exact absurd hnone hproblems

/-- what visitors read depends on the address to write to, and on nothing else -/
theorem unavailable_congr {s s' : Settings} (h : s.fallbackAddress = s'.fallbackAddress) :
    unavailable s = unavailable s' := by
  unfold unavailable
  rw [h]

/-- the text of a failed submission -/
theorem text_of_failed {text : String} {failures : List Undelivered}
    (h : (submit (networkCourier smtp) s input n).1 = .ok (.failed text failures)) : text = unavailable s := by
  by_cases hwebsite : (Submission.read input).website = ""
  swap
  · have houtcome := h.symm.trans (submit_discarded hwebsite).1
    cases houtcome
  by_cases hnone : found s (Submission.read input) n.world.now = []
  swap
  · have houtcome := h.symm.trans (submit_rejected hwebsite hnone).1
    cases houtcome
  obtain ⟨hall, hsome⟩ := submit_taken smtp hwebsite hnone
  by_cases hfailures : (attempts smtp (s.recipients.map (due s (Submission.read input).enquiry)) n).filterMap
      Attempt.undelivered? = []
  · have houtcome := h.symm.trans (hall hfailures).1
    cases houtcome
  · have houtcome := h.symm.trans (hsome hfailures).1
    cases houtcome
    rfl

end Submit

/-- **A submission that is taken** goes to every recipient. -/
theorem sentOut_submit {input : Json} (hn : n.AtRest) (hrelays : Network.InStep relays n)
    (hwebsite : (Submission.read input).website = "") (hnone : found s (Submission.read input) n.world.now = []) :
    SentOut smtp s (Submission.read input) relays n
      (attempts smtp (s.recipients.map (due s (Submission.read input).enquiry)) n)
      (submit (networkCourier smtp) s input n) := by
  have hsober : ∀ a ∈ attempts smtp (s.recipients.map (due s (Submission.read input).enquiry)) n,
      Sober smtp relays a := sober_attempts hn hrelays
  obtain ⟨hall, hsome⟩ := submit_taken smtp hwebsite hnone
  exact
    { recipients := recipients_attempts s.recipients n
      messages := messages_attempts _ n
      left := by
        by_cases hfailures : (attempts smtp (s.recipients.map (due s (Submission.read input).enquiry)) n).filterMap
            Attempt.undelivered? = []
        · exact .inr (hall hfailures).2
        · exact .inl (hsome hfailures).2
      sent := by
        rw [← undelivered_eq_nil]
        constructor
        · intro hsent
          by_contra hfailures
          have houtcome := hsent.symm.trans (hsome hfailures).1
          cases houtcome
        · exact fun hfailures => (hall hfailures).1
      failed := by
        rintro ⟨a, ha, failure, hfailure⟩
        refine (hsome fun hfailures => ?_).1
        obtain ⟨receipt, hreceipt⟩ := undelivered_eq_nil.1 hfailures a ha
        cases hfailure.symm.trans hreceipt
      released := fun a ha => (hsober a ha).released
      single := fun fates hfates => one_at_a_time hsober hfates
      relays := fun a ha => (hsober a ha).inStep
      alone := fun a ha w hw => (hsober a ha).alone hw }

/-- **What becomes of a submission** over a network at rest. -/
theorem fannedOut_submit (input : Json) (hn : n.AtRest) (hrelays : Network.InStep relays n) :
    FannedOut smtp s (Submission.read input) relays n (submit (networkCourier smtp) s input n) where
  discarded hwebsite := submit_discarded hwebsite
  rejected hwebsite hfound := submit_rejected hwebsite hfound
  order := pairwise_found s _ _
  sentOut hwebsite hnone := sentOut_submit hn hrelays hwebsite hnone

/-- **The fan-out of a submission.** Whatever is posted, whatever the settings and the relays are: a filled hidden field
is answered as if all had gone well, and problems come back together, both without a connection; any other submission
goes to every recipient in order, one connection at a time, each delivery as it would be on its own, and all have it or
those who do not are named. What visitors read when a delivery fails is one text, which tells nothing but the address to
write to. -/
theorem submit_fans_out (smtp : Smtp.Settings) (s : Settings) (input : Json) (w : World) (relays : List Relay) :
    FannedOut smtp s (Submission.read input) relays (Network.start w relays)
      (submit (networkCourier smtp) s input (Network.start w relays)) ∧
    ∀ (smtp' : Smtp.Settings) (s' : Settings) (input' : Json) (w' : World) (relays' : List Relay)
      (text text' : String) (failures failures' : List Undelivered),
      (submit (networkCourier smtp) s input (Network.start w relays)).1 = .ok (.failed text failures) →
      (submit (networkCourier smtp') s' input' (Network.start w' relays')).1 = .ok (.failed text' failures') →
      s.fallbackAddress = s'.fallbackAddress → text = text' := by
  refine ⟨fannedOut_submit input (Network.atRest_start w relays) (Network.inStep_start w relays), ?_⟩
  intro smtp' s' input' w' relays' text text' failures failures' htext htext' haddress
  calc text = unavailable s := text_of_failed htext
    _ = unavailable s' := unavailable_congr haddress
    _ = text' := (text_of_failed htext').symm

end Enquiry

end EnquiryMail
