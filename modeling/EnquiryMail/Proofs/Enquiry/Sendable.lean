/-
Enquiries as mail. The form takes a submission only with an address to answer to, and a configuration is read only with
addresses to send to, so every mail that a submission makes can be sent: whatever a visitor writes, no mail is refused
for what it is, and none gets a header field more than the service gives it.

- `Settings.Accepted`: recipients that a configuration was read with, and a subject in one line.
- `isAddress_of_taken`: a submission that is taken has an address to answer to.
- `Fit`, `fit_mailTo`: what its mail is good for.
- `enquiries_sendable`: every mail that is handed to a courier, and what is told of those that a network did not take.
-/
import EnquiryMail.Proofs.Config.Readiness
import EnquiryMail.Proofs.Enquiry.Coercion
import EnquiryMail.Proofs.Enquiry.Couriers
import EnquiryMail.Proofs.Mail.Payload

namespace EnquiryMail

open Mail (Message Envelope Unbroken isAddress isForbidden hasBreak_eq_false)
open Smtp (FailsWith sendMail Script)

namespace Enquiry

variable {s : Settings} {input : Json}

/-- settings with the recipients of a configuration that was read, and a subject in one line -/
structure Settings.Accepted (s : Settings) : Prop where
  recipients : ∃ env m, Config.read env = .ok m ∧ m.enquiry.recipients = s.recipients
  subject : Unbroken s.subject.toList

/-- recipients that were read are addresses -/
theorem Settings.Accepted.isAddress (h : s.Accepted) : ∀ r ∈ s.recipients, isAddress r = true := by
  obtain ⟨env, m, hread, hrecipients⟩ := h.recipients
  obtain ⟨e, fallback, -, henquiry, -, hm⟩ := Config.read_eq_ok.1 hread
  rw [← hrecipients, ← hm]
  exact (Config.enquiryReading_eq_ok henquiry).1

/-- **A submission that is taken has an address to answer to.** -/
theorem isAddress_of_taken {submission : Submission} {now : Time.Instant} (h : submission.Taken s now) :
    isAddress submission.enquiry.email = true := by
  have hproblems := (List.append_eq_nil_iff.1 h.unfaulted).2
  exact ((problems_eq_nil_iff submission).1 hproblems).2.2.1

/-- what a mail is good for -/
structure Fit (m : Message) : Prop where
  /-- nothing is wrong with it -/
  unfaulted : m.problems = []
  /-- its reply address has no line break, no angle bracket and no blank -/
  replyTo : ∀ c ∈ m.replyTo.toList, isForbidden c = false ∧ Text.isBlank c = false
  /-- whatever is answered to whoever sends it, it is not refused for what it is -/
  accepted : ∀ smtp offset dating tr out, Script.Runs (sendMail smtp m offset dating) tr out →
    ¬ FailsWith .invalidMessage out
  /-- in an envelope in one line it is lines without breaks, and whoever reads them finds the nine fields and no other,
  the addresses and the subject as they are, and the body -/
  letter : ∀ e : Envelope, e.Unbroken →
    Mail.Carries (Mail.payload e m) (Mail.payloadLines e m) ∧ (Mail.Letter.ofLines (Mail.payloadLines e m)).Means m

/-- a mail from an address to an address under a subject in one line is fit to be sent -/
theorem fit_of_isAddress {m : Message} (hrecipient : isAddress m.recipient = true)
    (hreply : isAddress m.replyTo = true) (hsubject : Unbroken m.subject.toList) : Fit m := by
  have hunfaulted : m.problems = [] := by
    simp [Message.problems, Mail.addressProblems_of_isAddress _ hrecipient, Mail.addressProblems_of_isAddress _ hreply,
      hasBreak_eq_false.2 hsubject]
  constructor
  case unfaulted => exact hunfaulted
  case replyTo =>
    intro c hc
    have hchar := Mail.isAddressChar_of_mem hreply hc
    exact ⟨Mail.isForbidden_of_isAddressChar hchar, Mail.isBlank_of_isAddressChar hchar⟩
  case accepted =>
    intro smtp offset dating tr out hrun hfails
    exact ((Smtp.sendMail_failsWith hrun).2.1 hfails).2 hunfaulted
  case letter =>
    intro e he
    exact ⟨Mail.carries_payload he hunfaulted, Mail.means_letter e m⟩

/-- **The mail of a submission that is taken** is fit to be sent. -/
theorem fit_mailTo (hs : s.Accepted) {submission : Submission} {now : Time.Instant} (htaken : submission.Taken s now)
    {recipient : String} (hrecipient : recipient ∈ s.recipients) : Fit (mailTo s submission.enquiry recipient) :=
  fit_of_isAddress (hs.isAddress recipient hrecipient) (isAddress_of_taken htaken) hs.subject

/-- what a submission hands to a courier that notes it -/
structure Handed {σ : Type} (courier : Courier σ) (s : Settings) (input : Json) (st : σ)
    (run : Except Thrown Outcome × σ × List Message) : Prop where
  /-- but for the notes the submission goes as it does without them -/
  same : (run.1, run.2.1) = submit courier s input st
  /-- no mail is handed over unless guard and form have nothing against the submission -/
  untaken : ¬ (Submission.read input).Taken s (courier.world st).now → run.2.2 = []
  /-- mails go to the recipients in order -/
  order : run.2.2 <+: s.recipients.map (mailTo s (Submission.read input).enquiry)
  /-- and to all of them, unless something is thrown -/
  all : (Submission.read input).Taken s (courier.world st).now → (∃ o, run.1 = .ok o) →
    run.2.2 = s.recipients.map (mailTo s (Submission.read input).enquiry)
  /-- each of them is fit to be sent -/
  fit : ∀ m ∈ run.2.2, Fit m

theorem handed_submit {σ : Type} (courier : Courier σ) (hs : s.Accepted) (input : Json) (st : σ) :
    Handed courier s input st (submit courier.noting s input (st, [])) := by
  obtain ⟨tried, hfront, hnoted, hnone, hall⟩ := submit_noting courier s input st
  rw [hnoted]
  constructor
  case same => rfl
  case untaken =>
    intro hnot
    rw [hnone hnot]
    rfl
  case order => exact hfront.map _
  case all =>
    rintro htaken ⟨o, hok⟩
    have hisOk : (submit courier s input st).1.isOk = true := by
      rw [hok]
      rfl
    rw [hall htaken hisOk]
  case fit =>
    intro m hm
    obtain ⟨recipient, hrecipient, rfl⟩ := List.mem_map.1 hm
    by_cases htaken : (Submission.read input).Taken s (courier.world st).now
    · exact fit_mailTo hs htaken (hfront.subset hrecipient)
    · rw [hnone htaken] at hrecipient
      cases hrecipient

/-- failures that a submission tells come from its deliveries -/
theorem failures_submit {σ : Type} {courier : Courier σ} {st : σ} {text : String} {failures : List Undelivered}
    (h : (submit courier s input st).1 = .ok (.failed text failures)) :
    (Submission.read input).Taken s (courier.world st).now ∧
      ∀ f ∈ failures, f.recipient ∈ s.recipients ∧ ∃ st',
        (courier.send (mailTo s (Submission.read input).enquiry f.recipient) st').1 = .ok (.error f.failure) := by
  have hanswered := answered_submit courier s input st
  generalize submit courier s input st = run at h hanswered
  cases hanswered with
  | discarded => cases h
  | rejected => cases h
  | tried hempty hnone =>
    obtain ⟨delivered, hdelivered⟩ := concluded_failed courier s h
    exact ⟨⟨hempty, hnone⟩, failures_deliver courier s hdelivered⟩

/-- **No visitor is to blame for a mail that is not delivered**: over a network no failure is one of the message. -/
theorem unblamed_submit (hs : s.Accepted) {smtp : Smtp.Settings} {n : Net.Network} {text : String}
    {failures : List Undelivered} (h : (submit (networkCourier smtp) s input n).1 = .ok (.failed text failures)) :
    ∀ f ∈ failures, f.failure.kind ≠ .invalidMessage := by
  obtain ⟨htaken, hfailures⟩ := failures_submit h
  intro f hf hkind
  obtain ⟨hrecipient, n', hsend⟩ := hfailures f hf
  rw [send_network] at hsend
  have hruns := Script.runs_transcript (Net.Network.handle smtp)
    (session smtp (mailTo s (Submission.read input).enquiry f.recipient) n') n'
  rw [Except.ok.inj hsend] at hruns
  exact (fit_mailTo hs htaken hrecipient).accepted _ _ _ _ _ hruns ⟨f.failure, rfl, hkind⟩

/-- **Enquiries can be sent.** Under settings that were accepted, whatever is posted and whoever carries the mail: what
is handed over is a mail to each recipient, and only if guard and form have nothing against the submission; each mail
has nothing wrong with it, an address to answer to, the nine header fields and no other. So over a network, whatever the
relay's settings and the relays are, no delivery fails for what its message is. -/
theorem enquiries_sendable (s : Settings) (hs : s.Accepted) (input : Json) :
    (∀ (σ : Type) (courier : Courier σ) (st : σ),
      Handed courier s input st (submit courier.noting s input (st, []))) ∧
    ∀ (smtp : Smtp.Settings) (n : Net.Network) (text : String) (failures : List Undelivered),
      (submit (networkCourier smtp) s input n).1 = .ok (.failed text failures) →
      ∀ f ∈ failures, f.failure.kind ≠ .invalidMessage :=
  ⟨fun _ courier st => handed_submit courier hs input st, fun _ _ _ _ => unblamed_submit hs⟩

/-- settings of a form with one recipient -/
def plainSettings : Settings := ⟨["sales@example.com"], "Enquiry", "Example", "sales@example.com", 3, 10, 15⟩

/-- a form as a visitor fills it in -/
def plainForm : Json :=
  .obj [("name", .str "Ada"), ("email", .str " ada@example.org "), ("company", .str "Engines"),
    ("message", .str "We would like to talk.")]

/-- a stand-in at the beginning of 1970 -/
def plainStandin : Standin := ⟨default, [], []⟩

theorem enquiries_sendable_plain :
    plainSettings.Accepted ∧
      (submit standinCourier.noting plainSettings plainForm (plainStandin, [])).2.2 =
        [mailTo plainSettings (Submission.read plainForm).enquiry "sales@example.com"] ∧
      Fit (mailTo plainSettings (Submission.read plainForm).enquiry "sales@example.com") := by
  have hs : plainSettings.Accepted := by
    refine ⟨⟨Config.plainEnvironment "relay.example" "mailer@example.org", ?_⟩, by decide +kernel⟩
    have hread : (Config.read (Config.plainEnvironment "relay.example" "mailer@example.org")).map
        (·.enquiry.recipients) = .ok ["sales@example.com"] := by decide +kernel
    obtain ⟨m, hm, hrecipients⟩ := map_eq_ok.1 hread
    exact ⟨m, hm, hrecipients⟩
  have hhanded := (enquiries_sendable plainSettings hs plainForm).1 Standin standinCourier plainStandin
  have htaken : (Submission.read plainForm).Taken plainSettings (standinCourier.world plainStandin).now :=
    ⟨by decide +kernel, by decide +kernel⟩
  have hsent : (submit standinCourier.noting plainSettings plainForm (plainStandin, [])).1 =
      .ok (.sent ["sales@example.com"]) := by decide +kernel
  have hmails := hhanded.all htaken ⟨_, hsent⟩
  refine ⟨hs, hmails, hhanded.fit _ ?_⟩
  rw [hmails]
  exact List.mem_singleton_self _

end Enquiry

end EnquiryMail
