/-
Commands that print documents. Such a command gets an answer to all that it asks, and what it prints is one document
and a line feed: no log line comes in front of it, for nothing that a session logs is an error and without overrides
errors alone are written. The document says in its field `success` what the exit code says, and both say whether the
relay has accepted what the command brought: the message, or the password.

- `tells_printed`: a printed object reads back, and its field is found.
- `ended_logLines`: a session leaves no log line in front of the document.
- `done_attempt`: each task is done, with whatever result, or an error says why it cannot be.
- `documents_tell`: what a command prints, how it exits, and what the relay has accepted.
-/
import EnquiryMail.Cli.Run
import EnquiryMail.Proofs.Config.Readiness
import EnquiryMail.Proofs.Json.Reading
import EnquiryMail.Proofs.Log.Silence
import EnquiryMail.Proofs.Net.Calm
import EnquiryMail.Proofs.Net.Refinement
import EnquiryMail.Proofs.Session.Accepted

namespace EnquiryMail.Cli

open EnquiryMail.Net (Network Relay)
open EnquiryMail.Smtp

/-! ## What a task does over the network -/

/-- a session, and the settings that it is run with -/
structure Errand where
  Value : Type
  settings : Settings
  script : Script (Except Failure Value)

/-- the session that a task comes to: none without usable settings, and none without the body of its message -/
def Task.errand? (w : World) : Task → Option Errand
  | .verify =>
    match Config.readSmtp w.env with
    | .error _ => none
    | .ok s => some ⟨Acceptance, s, verifyRelay s⟩
  | .send recipient subject given replyTo =>
    match Config.readSmtp w.env, readBody w.files w.directory given with
    | .ok s, .ok body =>
      some ⟨Receipt, s, sendMail s ⟨recipient, subject, body, replyTo.getD s.sender⟩ w.offset .clock⟩
    | _, _ => none

/-- what the session of a task asks of its channel, with the answers -/
def Task.exchanges (n : Network) (task : Task) : List Exchange :=
  match task.errand? n.world with
  | some e => uses (e.script.transcript (Network.handle e.settings) n)
  | none => []

/-- the session of a task gets an answer to each of its requests -/
def Task.Settles (n : Network) (task : Task) : Prop :=
  ∀ e, task.errand? n.world = some e →
    Network.Along e.settings (fun r _ n' => Network.settled r n' = true) e.script n

/-- the relay has accepted what the task brings: 250 to the payload, or 235 to the password -/
def Task.Accepted (n : Network) (task : Task) : Prop :=
  match task with
  | .send .. => (payloadReply? (task.exchanges n)).map Reply.code = some "250"
  | .verify => (passwordReply? (task.exchanges n)).map Reply.code = some "235"

instance (n : Network) (task : Task) : Decidable (task.Accepted n) := by
  unfold Task.Accepted
  split <;> infer_instance

/-- nothing is accepted of a task that comes to no session -/
theorem not_accepted {n : Network} {task : Task} (h : task.errand? n.world = none) : ¬task.Accepted n := by
  have hnone : task.exchanges n = [] := by rw [Task.exchanges, h]
  cases task <;>
    simp [Task.Accepted, hnone, payloadReply?, passwordReply?, behindFirst, nextReply?]

/-! ## Documents -/

/-- the output is one document and a line feed, and the document says in `success` what the exit code says -/
def Report.Tells (r : Report) : Prop :=
  ∃ text document, r.output = text ++ "\n" ∧ Json.read? text.toList = some document ∧
    document.get? "success" = some (.bool (r.exit == 0))

/-- **A printed object tells** what its field `success` says, if its names are names of their own. -/
theorem tells_printed {color success : Bool} {text : String} {fields : Json.Fields} {exit : Nat}
    (hnames : ("success" :: fields.map Prod.fst).Nodup) (hexit : (exit == 0) = success) :
    ((Form.mk true color).printed text (.obj (("success", .bool success) :: fields)) exit).Tells := by
  have hall : ((("success", Json.bool success) :: fields : Json.Fields).map Prod.fst).Nodup := hnames
  -- a number comes back as its text reads, names and truth values come back as they were
  refine ⟨_, _, rfl, Json.read?_indented _, ?_⟩
  rw [Json.get?_reread hall]
  simp [Json.Fields.get?, Json.reread, Form.printed, hexit]

theorem tells_error (color : Bool) (message : String) : ((Form.mk true color).error message).Tells :=
  tells_printed (by simp) rfl

theorem tells_sendReport (color : Bool) (recipient : String) (duration : Number) (out : Except Failure Receipt) :
    (sendReport ⟨true, color⟩ recipient duration out).Tells := by
  cases out <;> exact tells_printed (by simp) rfl

theorem tells_verifyReport (color : Bool) (s : Settings) (out : Except Failure Acceptance) :
    (verifyReport ⟨true, color⟩ s out).Tells := by
  cases out <;> exact tells_printed (by simp) rfl

theorem exit_sendReport (f : Form) (recipient : String) (duration : Number) (out : Except Failure Receipt) :
    (sendReport f recipient duration out).exit = 0 ↔ out.isOk = true := by
  cases out <;> simp [sendReport, Form.succeeded, Form.failed, Form.printed, Except.isOk, Except.toBool]

theorem exit_verifyReport (f : Form) (s : Settings) (out : Except Failure Acceptance) :
    (verifyReport f s out).exit = 0 ↔ out.isOk = true := by
  cases out <;> simp [verifyReport, Form.succeeded, Form.failed, Form.printed, Except.isOk, Except.toBool]

/-! ## Log lines -/

/-- **Nothing is logged in front of a document**: without overrides only errors are written. -/
theorem ended_logLines {n : Network} {env : Environment} (h : n.Calm env)
    (henv : env.get? "MAILER_DEBUG_COMPONENTS" = none) : ended (logLines false n.world) = "" := by
  have hboot := Log.Journal.plain_boot henv
  have hplain : ({ Log.Journal.boot env with global := .error } : Log.Journal).Plain := ⟨hboot.isOpen, hboot.registry⟩
  have hbelow : ∀ t ∈ n.world.calls.reverse, t.call.level.enabled .error = false := by
    intro t ht
    have hcalm : t.call.level ≠ .error := (h.calls t (List.mem_reverse.1 ht)).level
    cases hlevel : t.call.level <;> simp_all [Log.Level.enabled, Log.Level.rank]
  rw [logLines, h.env, if_neg Bool.false_ne_true, Log.Journal.lines_below hplain rfl n.world.offset hbelow]
  rfl

/-! ## Commands -/

/-- what a task leaves when it has been done, or could not be: a report that tells, nothing for the log to write, and
an exit code that says what the relay has accepted -/
structure Done (n : Network) (task : Task) (d : Finished) : Prop where
  settles : task.Settles n
  tells : d.report.Tells
  exit : d.report.exit = 0 ↔ task.Accepted n
  calm : d.network.Calm n.world.env

/-- a task that comes to no session is answered by an error -/
theorem done_error {n : Network} {task : Task} (hcalm : n.Calm n.world.env) (hnone : task.errand? n.world = none)
    (color : Bool) (message : String) : Done n task ⟨"", (Form.mk true color).error message, n⟩ where
  settles := by
    intro e he
    rw [hnone] at he
    cases he
  tells := tells_error color message
  exit := by
    rw [error_exit]
    exact iff_of_false one_ne_zero (not_accepted hnone)
  calm := hcalm

section Sessions

variable {w : World} {s : Settings}

/-- a task whose session closes what it opens and logs no error -/
theorem done_session (hfresh : w.calls = []) (relays : List Relay) {task : Task} {α : Type}
    {p : Script (Except Failure α)} (herrand : task.errand? w = some ⟨α, s, p⟩) (hconcludes : Concludes .unopened p)
    (hasks : p.Asks Request.IsCalm) {waiting : String} {report : Report} (htells : report.Tells)
    (hexit : report.exit = 0 ↔ task.Accepted (Network.start w relays)) :
    Done (Network.start w relays) task
      ⟨waiting, report, (p.run (Network.handle s) (Network.start w relays)).2⟩ where
  settles := by
    intro e he
    cases herrand.symm.trans he
    have hkept := Network.kept_start w relays
    exact (Network.released_of_concludes hconcludes hkept rfl).1.answered
  tells := htells
  exit := hexit
  calm := Network.heard_run (fun _ h => h) hasks (Network.heard_start hfresh relays) s

/-- a delivery, whatever comes of it -/
theorem done_send (hfresh : w.calls = []) (relays : List Relay) (hs : Config.readSmtp w.env = .ok s)
    {given body : String} (hbody : readBody w.files w.directory given = .ok body) (color : Bool)
    (recipient subject : String) (replyTo : Option String) :
    Done (Network.start w relays) (.send recipient subject given replyTo)
      (runTask ⟨true, color⟩ s (Network.start w relays) (.send recipient subject given replyTo)) := by
  let n := Network.start w relays
  let m : Mail.Message := ⟨recipient, subject, body, replyTo.getD s.sender⟩
  let session := sendMail s m w.offset .clock
  have herrand : (Task.send recipient subject given replyTo).errand? w = some ⟨Receipt, s, session⟩ := by
    simp only [Task.errand?, hs, hbody, session, m]
  have hrun : runTask ⟨true, color⟩ s n (.send recipient subject given replyTo) =
      ⟨"", sendReport ⟨true, color⟩ recipient
        (Number.ofInt ((session.run (Network.handle s) n).2.world.now - n.world.now))
        (session.run (Network.handle s) n).1, (session.run (Network.handle s) n).2⟩ := by
    simp only [runTask, n, Network.start, hbody, session, m, waitText, if_true]
  rw [hrun]
  refine done_session hfresh relays herrand (concludes_sendMail s m w.offset .clock)
    (asks_sendMail s m w.offset .clock) (tells_sendReport color recipient _ _) ?_
  have haccepted := sendMail_accepted (Script.runs_transcript (Network.handle s) session n)
  rw [exit_sendReport, ← haccepted, Task.Accepted, Task.exchanges, Network.start_world, herrand]

/-- a try, whatever comes of it -/
theorem done_verify (hfresh : w.calls = []) (relays : List Relay) (hs : Config.readSmtp w.env = .ok s) (color : Bool) :
    Done (Network.start w relays) .verify (runTask ⟨true, color⟩ s (Network.start w relays) .verify) := by
  let n := Network.start w relays
  have herrand : Task.verify.errand? w = some ⟨Acceptance, s, verifyRelay s⟩ := by
    simp only [Task.errand?, hs]
  have hrun : runTask ⟨true, color⟩ s n .verify =
      ⟨"", verifyReport ⟨true, color⟩ s ((verifyRelay s).run (Network.handle s) n).1,
        ((verifyRelay s).run (Network.handle s) n).2⟩ := by
    simp only [runTask, waitText, if_true]
  rw [hrun]
  refine done_session hfresh relays herrand (concludes_verifyRelay s) (asks_verifyRelay s)
    (tells_verifyReport color s _) ?_
  have haccepted := verifyRelay_accepted (Script.runs_transcript (Network.handle s) (verifyRelay s) n)
  rw [exit_verifyReport, ← haccepted, Task.Accepted, Task.exchanges, Network.start_world, herrand]

/-- **A task is done, or an error says why it cannot be.** -/
theorem done_attempt (hfresh : w.calls = []) (relays : List Relay) (color : Bool) (task : Task) :
    Done (Network.start w relays) task (attempt ⟨true, color⟩ (Network.start w relays) task) := by
  have hcalm : (Network.start w relays).Calm w.env := Network.heard_start hfresh relays
  unfold attempt
  rw [Network.start_world]
  -- the settings come first, then the body of a message: either can end the task before a relay is asked
  cases hs : Config.readSmtp w.env with
  | error e =>
    apply done_error hcalm
    cases task <;> simp only [Task.errand?, Network.start_world, hs]
  | ok s =>
    cases task with
    | verify => exact done_verify hfresh relays hs color
    | send recipient subject given replyTo =>
      cases hbody : readBody w.files w.directory given with
      | ok body => exact done_send hfresh relays hs hbody color recipient subject replyTo
      | error e =>
        simp only [runTask, Network.start_world, hbody]
        apply done_error hcalm
        simp only [Task.errand?, Network.start_world, hs, hbody]

end Sessions

/-- **Commands that print documents can be read by scripts.** Whatever the command line asks for, and whatever the
settings, the files and the relays are, if documents are asked for, nothing is to be verbose and no component has an
override: the command gets an answer to each of its requests, its output is one document and a line feed, and the
field `success` of the document says whether the exit code is 0; so does what the relay has accepted, the message or
the password. -/
theorem documents_tell {args : List String} {task : Task}
    (hargs : Invocation.ofArguments args = .run true false task) {w : World} (hfresh : w.calls = [])
    (henv : w.env.get? "MAILER_DEBUG_COMPONENTS" = none) (color : Bool) (relays : List Relay) :
    let n := Network.start w relays
    let report := (run args color n).1
    task.Settles n ∧ report.Tells ∧ (report.exit = 0 ↔ task.Accepted n) := by
  intro n report
  have hdone : Done n task (attempt ⟨true, color⟩ n task) := done_attempt hfresh relays color task
  have hreport : report = (attempt ⟨true, color⟩ n task).total false := by
    simp only [report, run, hargs, Invocation.answer]
  have hquiet : ended (logLines false (attempt ⟨true, color⟩ n task).network.world) = "" :=
    ended_logLines hdone.calm henv
  refine ⟨hdone.settles, ?_, ?_⟩
  -- with nothing logged in front, the output is that of the report
  · obtain ⟨text, document, houtput, hread, hsuccess⟩ := hdone.tells
    refine ⟨text, document, ?_, hread, ?_⟩
    · rw [hreport, Finished.total, hquiet, String.empty_append, houtput]
    · rw [hreport]
      exact hsuccess
  · rw [hreport]
    exact hdone.exit

theorem documents_tell_accepted :
    let args := ["--json", "send", "rcpt@example.org", "-s", "Hi", "-b", "Text"]
    let w : World := { Net.quietWorld with env := Config.plainEnvironment "relay.example" "mailer@example.org" }
    let task : Task := .send "rcpt@example.org" "Hi" "Text" none
    let n := Network.start w [Relay.accepting]
    let report := (run args false n).1
    Invocation.ofArguments args = .run true false task ∧ w.calls = [] ∧
      w.env.get? "MAILER_DEBUG_COMPONENTS" = none ∧ report.exit = 0 ∧
      task.Settles n ∧ report.Tells ∧ (report.exit = 0 ↔ task.Accepted n) :=
  have hargs := by decide +kernel
  have hfresh := rfl
  have henv := by decide +kernel
  ⟨hargs, hfresh, henv, by decide +kernel, documents_tell hargs hfresh henv false [Relay.accepting]⟩

/-- without settings the document says what is missing -/
example : (run ["verify", "--json"] false (Network.start Net.quietWorld [])).1 =
    ⟨"\x7b\n  \"success\": false,\n  \"error\": \"Configuration error: Invalid mailer configuration:\\n  " ++
      "SMTP_HOST: is required\\n  SMTP_USERNAME: is required\\n  SMTP_PASSWORD: is required\"\n\x7d\n", "", 1⟩ := by
  decide +kernel

end EnquiryMail.Cli
