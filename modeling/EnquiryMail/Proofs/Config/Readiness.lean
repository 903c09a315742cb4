/-
What start-up leaves to the sending of a message. A configuration that is read has a relay, a port, time limits and
credentials that can be used, and recipients that can be sent to. What is not looked at when it is read is whether its
texts are in one line each, and what the user is called when it is the sender too; each of these has its say when a
message is sent.

- `Taken`, `taken_smtpReading`: where relay settings come from that are read from an environment.
- `Sendable`, `problems_smtpReading`: the settings have no problem exactly when their texts are in one line each and the
  sender is not blank.
- `Unplaced`, `ehloDomain_eq_empty`, `idDomain_eq_empty`: the domains that are announced and put into identifiers
  are there unless both come from a user that ends in its at sign.
- `configurations_ready`: relay settings and configurations, up to the result of sending a message.
- `configurations_unready`: what is read and still cannot be sent with.
-/
import Mathlib.Data.List.TakeWhile
import EnquiryMail.Proofs.Config.Schema
import EnquiryMail.Proofs.Mail.Address
import EnquiryMail.Proofs.Session.Preflight

namespace EnquiryMail.Config

open Reading
open EnquiryMail.Mail (Unbroken EndsInAt addressProblems hasBreak_eq_false)
open EnquiryMail.Smtp (Settings FailsWith sendMail)

variable {env : Environment}

/-! ## Trimmed texts -/

theorem mem_dropWhile_of_not {p : Char → Bool} {cs : List Char} {c : Char} (hc : c ∈ cs) (hp : p c = false) :
    c ∈ cs.dropWhile p := by
  rw [← List.takeWhile_append_dropWhile (p := p) (l := cs), List.mem_append] at hc
  rcases hc with hc | hc
  · rw [List.mem_takeWhile_imp hc] at hp
    cases hp
  · exact hc

/-- trimming keeps what is not blank -/
theorem mem_trim {cs : List Char} {c : Char} (hc : c ∈ cs) (hfilled : Text.isBlank c = false) : c ∈ Text.trim cs := by
  rw [Text.trim, Text.trimEnd, List.mem_reverse]
  refine mem_dropWhile_of_not ?_ hfilled
  rw [List.mem_reverse]
  exact mem_dropWhile_of_not hc hfilled

theorem isBlankText_eq_false {v : String} : isBlankText v = false ↔ ∃ c ∈ v.toList, Text.isBlank c = false := by
  simp only [isBlankText, List.all_eq_false, Bool.not_eq_true]

theorem isBlankText_trimmed {v : String} (h : isBlankText v = false) : isBlankText (trimmed v) = false := by
  obtain ⟨c, hc, hfilled⟩ := isBlankText_eq_false.1 h
  rw [isBlankText_eq_false, trimmed, String.toList_ofList]
  exact ⟨c, mem_trim hc hfilled, hfilled⟩

theorem ne_empty_of_filled {v : String} (h : isBlankText v = false) : v ≠ "" := by
  rintro rfl
  cases h

theorem optionalText_filled {name x : String} (h : optionalText env name = some x) : x ≠ "" := by
  obtain ⟨v, -, hfilled, rfl⟩ := optionalText_eq_some.1 h
  exact ne_empty_of_filled (isBlankText_trimmed hfilled)

/-! ## Domains -/

/-- what stands behind the last at sign is part of the text -/
theorem domainOf_sublist {address domain : String} (h : domainOf address = some domain) :
    domain.toList.Sublist address.toList := by
  unfold domainOf at h
  dsimp only at h
  split at h
  · cases h
    rw [String.toList_ofList, ← List.reverse_sublist, List.reverse_reverse]
    exact List.takeWhile_sublist _
  · cases h

theorem unbroken_domainOf {address domain : String} (haddress : Unbroken address.toList)
    (h : domainOf address = some domain) : Unbroken domain.toList :=
  fun c hc => haddress c ((domainOf_sublist h).subset hc)

/-- nothing stands behind the last at sign exactly when the text ends in it -/
theorem domainOf_eq_empty {address : String} : domainOf address = some "" ↔ EndsInAt address := by
  unfold domainOf EndsInAt
  dsimp only
  generalize address.toList = cs
  rcases List.eq_nil_or_concat cs with rfl | ⟨front, c, rfl⟩
  · simp
  rw [List.concat_eq_append, List.reverse_append, List.reverse_singleton, List.singleton_append]
  by_cases hat : c = '@'
  · subst hat
    cases front with
    | nil => simp
    | cons d ds =>
      refine iff_of_true (by simp) ?_
      exact ⟨d :: ds, List.cons_ne_nil d ds, rfl⟩
  · rw [List.takeWhile_cons_of_pos (by simpa using hat), List.reverse_cons]
    constructor
    · intro h
      split at h
      · have hempty := congrArg String.toList (Option.some.inj h)
        rw [String.toList_ofList] at hempty
        simp at hempty
      · cases h
    · rintro ⟨front', -, hfront⟩
      exact absurd (List.append_inj' hfront rfl).2 (by simpa using hat)

/-! ## Relay settings -/

variable {s : Settings}

/-- where each of the relay settings comes from -/
structure Taken (env : Environment) (s : Settings) : Prop where
  host : requiredTrimmed env "SMTP_HOST" = .ok s.host
  port : ∃ k, portNumber env "SMTP_PORT" 587 = .ok k ∧ s.port = .number k
  username : requiredText env "SMTP_USERNAME" = .ok s.username
  password : requiredText env "SMTP_PASSWORD" = .ok s.password
  sender : ∃ a, optionalAddress env "SMTP_FROM" = .ok a ∧ s.sender = a.getD s.username
  senderName : s.senderName = (optionalText env "SMTP_FROM_NAME").getD ""
  ehloDomain : s.ehloDomain = (optionalText env "SMTP_EHLO_DOMAIN").getD ((domainOf s.sender).getD "localhost")
  messageIdDomain : s.messageIdDomain = (domainOf s.sender).getD s.ehloDomain
  connectTimeout : ∃ k, positiveNumber env "SMTP_CONNECT_TIMEOUT" 10000 = .ok k ∧ s.connectTimeout = .number k
  readTimeout : ∃ k, positiveNumber env "SMTP_READ_TIMEOUT" 10000 = .ok k ∧ s.readTimeout = .number k

/-- relay settings that are read are taken from the variables -/
theorem taken_smtpReading (h : smtpReading env = .ok s) : Taken env s := by
  unfold smtpReading at h
  dsimp only at h
  split at h
  · cases h
  · rename_i host port username password sender connectTimeout readTimeout hread
    simp only [both_eq_ok] at hread
    obtain ⟨hhost, hport, husername, hpassword, hsender, hconnect, hreadTimeout⟩ := hread
    cases h
    exact ⟨hhost, ⟨port, hport, rfl⟩, husername, hpassword, ⟨sender, hsender, rfl⟩, rfl, rfl, rfl,
      ⟨connectTimeout, hconnect, rfl⟩, ⟨readTimeout, hreadTimeout, rfl⟩⟩

/-- the host is the one that is set -/
theorem Taken.host_set (h : Taken env s) : optionalText env "SMTP_HOST" = some s.host :=
  optionalText_eq_some.2 (requiredTrimmed_eq_ok.1 h.host)

/-- the user is the one that is set -/
theorem Taken.username_set (h : Taken env s) : env.get? "SMTP_USERNAME" = some s.username :=
  (requiredText_eq_ok.1 h.username).1

/-- the texts that the relay's variables give are in one line each, and the user is not blank when it is the sender -/
structure Sendable (env : Environment) : Prop where
  host : ∀ v ∈ optionalText env "SMTP_HOST", Unbroken v.toList
  username : ∀ v ∈ env.get? "SMTP_USERNAME", Unbroken v.toList
  senderName : ∀ v ∈ optionalText env "SMTP_FROM_NAME", Unbroken v.toList
  ehloDomain : ∀ v ∈ optionalText env "SMTP_EHLO_DOMAIN", Unbroken v.toList
  sender : optionalText env "SMTP_FROM" = none → ∀ v ∈ env.get? "SMTP_USERNAME", isBlankText v = false

/-- no domain is set, and the user is the sender and ends in its at sign -/
structure Unplaced (env : Environment) : Prop where
  ehloDomain : optionalText env "SMTP_EHLO_DOMAIN" = none
  sender : optionalText env "SMTP_FROM" = none
  username : ∃ v ∈ env.get? "SMTP_USERNAME", EndsInAt v

theorem unbroken_getD {text : Option String} {fallback : String} (htext : ∀ v ∈ text, Unbroken v.toList)
    (hfallback : Unbroken fallback.toList) : Unbroken (text.getD fallback).toList := by
  cases text with
  | none => exact hfallback
  | some v => exact htext v rfl

/-- host, port, time limits and credentials that are read can be used -/
theorem Taken.usable (h : Taken env s) :
    isBlankText s.host = false ∧ Settings.usablePort s.port = true ∧ Number.lt 0 s.connectTimeout.value = true ∧
      Number.lt 0 s.readTimeout.value = true ∧ s.username ≠ "" ∧ s.password ≠ "" := by
  have hlimit : ∀ {name : String} {fallback : Nat} {k : Number}, positiveNumber env name fallback = .ok k →
      Number.lt 0 k = true := by
    intro name fallback k hk
    obtain ⟨m, -, hpos, rfl⟩ := positiveNumber_eq_ok.1 hk
    exact lt_zero_intCast.2 hpos
  refine ⟨?_, ?_, ?_, ?_, ?_, ?_⟩
  · obtain ⟨v, -, hfilled, hv⟩ := requiredTrimmed_eq_ok.1 h.host
    rw [← hv]
    exact isBlankText_trimmed hfilled
  · obtain ⟨port, hport, hs⟩ := h.port
    obtain ⟨k, -, hpos, hle, rfl⟩ := portNumber_eq_ok.1 hport
    have hint : (Number.finite k).toInt? = some k := toInt?_eq_some.2 rfl
    simp [hs, Settings.usablePort, hint, hpos, hle]
  · obtain ⟨k, hk, hs⟩ := h.connectTimeout
    rw [hs]
    exact hlimit hk
  · obtain ⟨k, hk, hs⟩ := h.readTimeout
    rw [hs]
    exact hlimit hk
  · exact (requiredText_eq_ok.1 h.username).2
  · exact (requiredText_eq_ok.1 h.password).2

/-- the sender is the address that is set, or the user -/
theorem Taken.sender_cases (h : Taken env s) :
    (∃ a, optionalText env "SMTP_FROM" = some a ∧ Mail.isAddress a = true ∧ s.sender = a) ∨
      optionalText env "SMTP_FROM" = none ∧ s.sender = s.username := by
  obtain ⟨sender, hsender, hs⟩ := h.sender
  obtain ⟨htext, haddress⟩ := optionalAddress_eq_ok.1 hsender
  cases sender with
  | none => exact .inr ⟨htext, hs⟩
  | some a => exact .inl ⟨a, htext, haddress a rfl, hs⟩

/-- settings without a problem have texts in one line each, and a sender that is not blank -/
theorem Taken.sendable (h : Taken env s) (hfilled : isBlankText s.sender = false)
    (hunbroken : ∀ field : Settings.Identity, Unbroken (s.identity field).toList) : Sendable env := by
  constructor
  case host =>
    intro v hv
    rw [h.host_set, Option.mem_some_iff] at hv
    exact hv ▸ hunbroken .host
  case username =>
    intro v hv
    rw [h.username_set, Option.mem_some_iff] at hv
    exact hv ▸ hunbroken .username
  case senderName =>
    intro v hv
    have hname := hunbroken .senderName
    rw [Settings.identity, h.senderName, Option.mem_def.1 hv] at hname
    exact hname
  case ehloDomain =>
    intro v hv
    have hehlo := hunbroken .ehloDomain
    rw [Settings.identity, h.ehloDomain, Option.mem_def.1 hv] at hehlo
    exact hehlo
  case sender =>
    intro hnone v hv
    rw [h.username_set, Option.mem_some_iff] at hv
    rcases h.sender_cases with ⟨a, hsome, -⟩ | ⟨-, hsender⟩
    · rw [hnone] at hsome
      cases hsome
    · rw [← hv, ← hsender]
      exact hfilled

/-- a sender that is an address is in one line and not blank, and so is a user that may be the sender -/
theorem Taken.sender_fit (h : Taken env s) (hsendable : Sendable env) :
    isBlankText s.sender = false ∧ Unbroken s.sender.toList := by
  rcases h.sender_cases with ⟨a, -, haddress, hsender⟩ | ⟨hnone, hsender⟩
  · rw [hsender]
    exact ⟨Mail.isBlankText_of_isAddress haddress, Mail.unbroken_of_isAddress haddress⟩
  · rw [hsender]
    exact ⟨hsendable.sender hnone _ h.username_set, hsendable.username _ h.username_set⟩

theorem Taken.unbroken (h : Taken env s) (hsendable : Sendable env) (field : Settings.Identity) :
    Unbroken (s.identity field).toList := by
  have hsender := (h.sender_fit hsendable).2
  have hdomain : ∀ v ∈ domainOf s.sender, Unbroken v.toList := fun v hv => unbroken_domainOf hsender hv
  have hehlo : Unbroken s.ehloDomain.toList := by
    rw [h.ehloDomain]
    exact unbroken_getD hsendable.ehloDomain (unbroken_getD hdomain (by decide +kernel))
  cases field with
  | host => exact hsendable.host _ h.host_set
  | username => exact hsendable.username _ h.username_set
  | sender => exact hsender
  | senderName =>
    rw [Settings.identity, h.senderName]
    exact unbroken_getD hsendable.senderName (by decide +kernel)
  | ehloDomain => exact hehlo
  | messageIdDomain =>
    rw [Settings.identity, h.messageIdDomain]
    exact unbroken_getD hdomain hehlo

/-- **Settings that are read have no problem exactly when their texts are in one line each** and the sender is not
blank. -/
theorem problems_smtpReading (h : smtpReading env = .ok s) : s.problems = [] ↔ Sendable env := by
  have htaken := taken_smtpReading h
  rw [Smtp.problems_eq_nil, and_iff_right htaken.usable]
  constructor
  · rintro ⟨hfilled, hunbroken⟩
    exact htaken.sendable hfilled hunbroken
  · intro hsendable
    exact ⟨(htaken.sender_fit hsendable).1, htaken.unbroken hsendable⟩

/-! ## Domains of the settings -/

/-- the domain of the sender is empty exactly when the user is the sender and ends in its at sign -/
theorem domainOf_sender (h : smtpReading env = .ok s) :
    domainOf s.sender = some "" ↔
      optionalText env "SMTP_FROM" = none ∧ ∃ v ∈ env.get? "SMTP_USERNAME", EndsInAt v := by
  have htaken := taken_smtpReading h
  rw [domainOf_eq_empty, htaken.username_set]
  simp only [Option.mem_some_iff, exists_eq_left']
  rcases htaken.sender_cases with ⟨a, hsome, haddress, rfl⟩ | ⟨hnone, hsender⟩
  · rw [hsome]
    simpa using Mail.not_endsInAt haddress
  · rw [hsender, hnone]
    simp

theorem getD_eq_empty {text : Option String} {fallback : String} :
    text.getD fallback = "" ↔ text = some "" ∨ text = none ∧ fallback = "" := by
  cases text <;> simp

theorem ehloDomain_eq_empty (h : smtpReading env = .ok s) : s.ehloDomain = "" ↔ Unplaced env := by
  have hset : optionalText env "SMTP_EHLO_DOMAIN" ≠ some "" := fun hsome => optionalText_filled hsome rfl
  have hlocal : "localhost" ≠ "" := by decide +kernel
  rw [(taken_smtpReading h).ehloDomain, getD_eq_empty, getD_eq_empty, domainOf_sender h]
  constructor
  · rintro (hempty | ⟨hehlo, ⟨hfrom, hends⟩ | ⟨-, hempty⟩⟩)
    · exact absurd hempty hset
    · exact ⟨hehlo, hfrom, hends⟩
    · exact absurd hempty hlocal
  · rintro ⟨hehlo, hfrom, hends⟩
    exact .inr ⟨hehlo, .inl ⟨hfrom, hends⟩⟩

theorem idDomain_eq_empty (h : smtpReading env = .ok s) : s.idDomain = "" ↔ Unplaced env := by
  rw [← ehloDomain_eq_empty h, Settings.idDomain]
  split
  · exact Iff.rfl
  · rename_i hfilled
    refine iff_of_false hfilled ?_
    intro hempty
    refine hfilled ?_
    rw [(taken_smtpReading h).messageIdDomain, getD_eq_empty]
    have hunplaced := (ehloDomain_eq_empty h).1 hempty
    exact .inl ((domainOf_sender h).2 ⟨hunplaced.sender, hunplaced.username⟩)

/-! ## Configurations -/

/-- the subject that is set is in one line -/
def Titled (env : Environment) : Prop := ∀ v ∈ optionalText env "ENQUIRY_SUBJECT", Unbroken v.toList

/-- what relay settings that are read from an environment are good for -/
structure RelayReady (env : Environment) (s : Settings) : Prop where
  /-- they have no problem exactly when the texts are in one line each and the sender is not blank -/
  usable : s.problems = [] ↔ Sendable env
  /-- a domain is announced unless it would have to come from a user that ends in its at sign -/
  announced : s.ehloDomain = "" ↔ Unplaced env
  /-- and so it is put into identifiers -/
  identified : s.idDomain = "" ↔ Unplaced env
  /-- what is blamed when a message is sent with them, whatever is answered -/
  blamed : ∀ message offset dating tr out, Smtp.Script.Runs (sendMail s message offset dating) tr out →
    (FailsWith .configuration out ↔ ¬ Sendable env) ∧
      (FailsWith .invalidMessage out ↔ Sendable env ∧ message.problems ≠ [])

/-- what a configuration that is read from an environment is good for -/
structure MailerReady (env : Environment) (m : Mailer) : Prop where
  relay : RelayReady env m.smtp
  /-- every recipient can be sent to -/
  recipients : ∀ r ∈ m.enquiry.recipients, addressProblems .recipient r = []
  /-- a message to a recipient has no problem exactly when the subject is in one line -/
  messages : ∀ r ∈ m.enquiry.recipients, ∀ body replyTo, addressProblems .replyTo replyTo = [] →
    ((⟨r, m.enquiry.subject, body, replyTo⟩ : Mail.Message).problems = [] ↔ Titled env)

theorem relayReady (h : smtpReading env = .ok s) : RelayReady env s := by
  constructor
  case usable => exact problems_smtpReading h
  case announced => exact ehloDomain_eq_empty h
  case identified => exact idDomain_eq_empty h
  case blamed =>
    intro message offset dating tr out hrun
    rw [← problems_smtpReading h]
    exact Smtp.sendMail_failsWith hrun

/-- recipients are addresses, and the subject is the one that is set, or the usual one -/
theorem enquiryReading_eq_ok {e : Enquiry.Settings} {fallback : Option String}
    (h : enquiryReading env = .ok (e, fallback)) :
    (∀ r ∈ e.recipients, Mail.isAddress r = true) ∧
      e.subject = (optionalText env "ENQUIRY_SUBJECT").getD "Enterprise Enquiry" := by
  unfold enquiryReading at h
  dsimp only at h
  split at h
  · cases h
  · rename_i recipients fallback' minFill limit window hread
    cases h
    obtain ⟨v, -, -, -, haddresses⟩ := addressList_eq_ok.1 (both_eq_ok.1 hread).1
    exact ⟨haddresses, rfl⟩

theorem unbroken_subject {subject : String}
    (h : subject = (optionalText env "ENQUIRY_SUBJECT").getD "Enterprise Enquiry") :
    Unbroken subject.toList ↔ Titled env := by
  rw [h]
  constructor
  · intro hunbroken v hv
    rw [Option.mem_def.1 hv] at hunbroken
    exact hunbroken
  · intro htitled
    exact unbroken_getD htitled (by decide +kernel)

theorem mailerReady {m : Mailer} (h : read env = .ok m) : MailerReady env m := by
  obtain ⟨e, fallback, hsmtp, henquiry, -, hm⟩ := read_eq_ok.1 h
  obtain ⟨haddresses, hsubject⟩ := enquiryReading_eq_ok henquiry
  have hrecipients : ∀ r ∈ m.enquiry.recipients, addressProblems .recipient r = [] := by
    intro r hr
    rw [← hm] at hr
    exact Mail.addressProblems_of_isAddress .recipient (haddresses r hr)
  constructor
  case relay => exact relayReady hsmtp
  case recipients => exact hrecipients
  case messages =>
    intro r hr body replyTo hreply
    have htitle : m.enquiry.subject = (optionalText env "ENQUIRY_SUBJECT").getD "Enterprise Enquiry" := by
      rw [← hm]
      exact hsubject
    rw [← unbroken_subject htitle, ← hasBreak_eq_false]
    simp [Mail.Message.problems, hrecipients r hr, hreply]

/-- **What start-up leaves to the sending of a message.** Relay settings that are read are refused at sending exactly
when one of their texts spans lines or the sender is a blank user, and have a domain to announce unless it would come
from a user that ends in its at sign; a configuration that is read has recipients that can be sent to, and its messages
are refused exactly when its subject spans lines. Nothing else that is answered is blamed on either. -/
theorem configurations_ready (env : Environment) :
    (∀ s, readSmtp env = .ok s → RelayReady env s) ∧ ∀ m, read env = .ok m → MailerReady env m := by
  constructor
  · intro s h
    exact relayReady (orInvalid_eq_ok.1 h)
  · intro m h
    exact mailerReady h

/-- an environment that sets what has to be set -/
def plainEnvironment (host username : String) : Environment :=
  [("SMTP_HOST", host), ("SMTP_USERNAME", username), ("SMTP_PASSWORD", "secret"),
    ("ENQUIRY_RECIPIENTS", "sales@example.com")]

theorem configurations_ready_plain :
    ∃ m, read (plainEnvironment "relay.example" "mailer@example.org") = .ok m ∧
      MailerReady (plainEnvironment "relay.example" "mailer@example.org") m := by
  cases h : read (plainEnvironment "relay.example" "mailer@example.org") with
  | ok m => exact ⟨m, rfl, (configurations_ready _).2 m h⟩
  | error e =>
    have hread : (read (plainEnvironment "relay.example" "mailer@example.org")).isOk = true := by decide +kernel
    rw [h] at hread
    cases hread

/-- **What is read and still cannot be sent with**: a host and a subject of two lines, a blank user, and a user that
ends in its at sign, behind which no domain is found and none is made up. -/
theorem configurations_unready :
    (read (("ENQUIRY_SUBJECT", "Two\nlines") :: plainEnvironment "relay\n.example" "mailer@example.org")).map
        (fun m => (m.smtp.problems, Mail.hasBreak m.enquiry.subject)) = .ok ([.broken .host], true) ∧
      (read (plainEnvironment "relay.example" " ")).map (fun m => m.smtp.problems) = .ok [.senderMissing] ∧
      (read (plainEnvironment "relay.example" "mailer@")).map
        (fun m => (m.smtp.problems, m.smtp.ehloDomain, m.smtp.idDomain)) = .ok ([], "", "") := by
  decide +kernel

end EnquiryMail.Config
