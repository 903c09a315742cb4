/-
The schema of the configuration. A configuration is refused exactly when some variable breaks its rule, and its issues
name the variables that do, all of them and in the order of the schema, so that one bad variable never hides another.

- `Accounts`: issues for which variables account, one variable after another; those of a variable are missing exactly
  when its rule holds. `Accounts.dedup_names`: the names in them are those of the variables that break their rules.
- `Reads`: a reading goes by variables. `Obeys.reads`: by one variable if it goes by its rule; `Reads.both`: two
  readings go by the variables of the first and then by those of the second.
- `reads_smtp`, `reads_read`: relay settings and configurations go by the schema.
- `readings_accounted`: when the two are refused, which variables their issues name, and how they agree.
-/
import EnquiryMail.Config.Mailer
import EnquiryMail.Proofs.Config.Rules

namespace EnquiryMail.Config

open Reading

/-! ## Variables -/

/-- a variable and its rule -/
structure Variable where
  name : String
  rule : Rule
  deriving DecidableEq, Repr

/-- the rule of a variable holds in an environment -/
def Variable.Holds (v : Variable) (env : Environment) : Prop := v.rule.Holds (env.get? v.name)

instance (v : Variable) (env : Environment) : Decidable (v.Holds env) :=
  inferInstanceAs (Decidable (v.rule.Holds (env.get? v.name)))

/-- the variables of the relay -/
def smtpVariables : List Variable :=
  [⟨"SMTP_HOST", .filled⟩, ⟨"SMTP_PORT", .integer 1 (some 65535)⟩, ⟨"SMTP_USERNAME", .present⟩,
    ⟨"SMTP_PASSWORD", .present⟩, ⟨"SMTP_FROM", .address⟩, ⟨"SMTP_FROM_NAME", .free⟩, ⟨"SMTP_EHLO_DOMAIN", .free⟩,
    ⟨"SMTP_CONNECT_TIMEOUT", .integer 1 none⟩, ⟨"SMTP_READ_TIMEOUT", .integer 1 none⟩,
    ⟨"SMTP_TLS_REJECT_UNAUTHORIZED", .free⟩, ⟨"SMTP_TLS_CA_FILE", .free⟩]

/-- the variables of the form -/
def enquiryVariables : List Variable :=
  [⟨"ENQUIRY_RECIPIENTS", .addresses⟩, ⟨"ENQUIRY_SUBJECT", .free⟩, ⟨"ENQUIRY_SITE_NAME", .free⟩,
    ⟨"ENQUIRY_FALLBACK_ADDRESS", .address⟩, ⟨"ENQUIRY_MIN_FILL_SECONDS", .integer 0 none⟩,
    ⟨"ENQUIRY_RATE_LIMIT", .integer 1 none⟩, ⟨"ENQUIRY_RATE_WINDOW_MINUTES", .integer 1 none⟩]

/-- the variables of the server -/
def serverVariables : List Variable := [⟨"HOST", .free⟩, ⟨"PORT", .integer 1 (some 65535)⟩]

/-- all variables of the configuration, in order -/
def schema : List Variable := smtpVariables ++ (enquiryVariables ++ serverVariables)

/-- a name of the relay's variables -/
def isSmtp (name : String) : Bool := "SMTP_".toList.isPrefixOf name.toList

/-! ## Issues that are accounted for -/

/-- issues are all of one variable, and there are none exactly when its rule holds -/
structure Blames (env : Environment) (v : Variable) (is : List Issue) : Prop where
  named : ∀ i ∈ is, i.name = v.name
  faultless : is = [] ↔ v.Holds env

/-- issues for which variables account, one variable after another -/
inductive Accounts (env : Environment) : List Variable → List Issue → Prop
  | nil : Accounts env [] []
  | cons {v : Variable} {vs : List Variable} {is js : List Issue} (h : Blames env v is) (hrest : Accounts env vs js) :
      Accounts env (v :: vs) (is ++ js)

variable {env : Environment} {vs ws : List Variable} {is js : List Issue}

/-- a variable without a rule has no issues -/
theorem blames_free (name : String) : Blames env ⟨name, .free⟩ [] :=
  ⟨fun _ h => (nomatch h), iff_of_true rfl trivial⟩

theorem Accounts.append (h : Accounts env vs is) (h' : Accounts env ws js) : Accounts env (vs ++ ws) (is ++ js) := by
  induction h with
  | nil => exact h'
  | cons hv _ ih =>
    rw [List.append_assoc]
    exact .cons hv ih

theorem Accounts.mem_name (h : Accounts env vs is) : ∀ i ∈ is, i.name ∈ vs.map Variable.name := by
  induction h with
  | nil => intro i hi; cases hi
  | cons hv _ ih =>
    intro i hi
    rw [List.map_cons]
    rcases List.mem_append.1 hi with hi | hi
    · rw [hv.named i hi]
      exact List.mem_cons_self
    · exact List.mem_cons_of_mem _ (ih i hi)

theorem Accounts.eq_nil_iff (h : Accounts env vs is) : is = [] ↔ ∀ v ∈ vs, v.Holds env := by
  induction h with
  | nil => simp
  | cons hv _ ih => simp [hv.faultless, ih]

/-- repetitions of a name that does not come again are dropped -/
theorem dedup_repeated {name : String} {as bs : List String} (hne : as ≠ []) (has : ∀ a ∈ as, a = name)
    (hbs : name ∉ bs) : (as ++ bs).dedup = name :: bs.dedup := by
  induction as with
  | nil => exact absurd rfl hne
  | cons a as ih =>
    obtain rfl : a = name := has a List.mem_cons_self
    rw [List.cons_append]
    by_cases hlast : as = []
    · rw [hlast, List.nil_append, List.dedup_cons_of_notMem hbs]
    · obtain ⟨b, hb⟩ := List.exists_mem_of_ne_nil as hlast
      have hagain : a ∈ as ++ bs := by
        rw [← has b (List.mem_cons_of_mem _ hb)]
        exact List.mem_append_left _ hb
      rw [List.dedup_cons_of_mem hagain]
      exact ih hlast fun c hc => has c (List.mem_cons_of_mem _ hc)

/-- **The variables that issues name** are those that break their rules, in order. -/
theorem Accounts.dedup_names (h : Accounts env vs is) (hnodup : (vs.map Variable.name).Nodup) :
    (is.map Issue.name).dedup = (vs.filter fun v => ¬ v.Holds env).map Variable.name := by
  induction h with
  | nil => rfl
  | @cons v vs is js hv hrest ih =>
    obtain ⟨hfresh, hnodup⟩ := List.nodup_cons.1 hnodup
    have hjs : v.name ∉ js.map Issue.name := by
      intro hmem
      obtain ⟨j, hj, hname⟩ := List.mem_map.1 hmem
      exact hfresh (hname ▸ hrest.mem_name j hj)
    rw [List.map_append]
    by_cases hholds : v.Holds env
    · rw [hv.faultless.2 hholds, List.filter_cons_of_neg (by simpa using hholds)]
      exact ih hnodup
    · have hne : is.map Issue.name ≠ [] := by
        intro hnil
        exact hholds (hv.faultless.1 (List.map_eq_nil_iff.1 hnil))
      have hnamed : ∀ a ∈ is.map Issue.name, a = v.name := by
        intro a ha
        obtain ⟨i, hi, rfl⟩ := List.mem_map.1 ha
        exact hv.named i hi
      rw [dedup_repeated hne hnamed hjs, List.filter_cons_of_pos (by simpa using hholds), List.map_cons, ih hnodup]

/-! ## Readings -/

/-- a reading goes by variables: they account for its issues, and without issues it gives a value -/
structure Reads {α : Type} (env : Environment) (vs : List Variable) (a : Reading α) : Prop where
  accounts : Accounts env vs a.faults
  settled : a.faults = [] → ∃ x, a = .ok x

variable {α β : Type}

/-- a reading that goes by a rule goes by the variable of it -/
theorem Obeys.reads {r : Rule} {name : String} {a : Reading α} (h : Obeys r env name a) :
    Reads env [⟨name, r⟩] a := by
  cases a with
  | ok x =>
    have hholds : (⟨name, r⟩ : Variable).Holds env := h.accepts.1 ⟨x, rfl⟩
    have hblames : Blames env ⟨name, r⟩ [] := ⟨by simp, iff_of_true rfl hholds⟩
    exact ⟨.cons hblames .nil, fun _ => ⟨x, rfl⟩⟩
  | error is =>
    obtain ⟨hne, hnamed⟩ := h.issues is rfl
    have hbroken : ¬ (⟨name, r⟩ : Variable).Holds env := by
      intro hholds
      obtain ⟨x, hx⟩ := h.accepts.2 hholds
      cases hx
    have haccounts : Accounts env [⟨name, r⟩] (is ++ []) := .cons ⟨hnamed, iff_of_false hne hbroken⟩ .nil
    rw [List.append_nil] at haccounts
    exact ⟨haccounts, fun hnone => absurd hnone hne⟩

theorem Reads.free (h : Reads env vs (a : Reading α)) (name : String) : Reads env (⟨name, .free⟩ :: vs) a :=
  ⟨.cons (blames_free name) h.accounts, h.settled⟩

theorem Reads.free_behind (h : Reads env vs (a : Reading α)) (name : String) : Reads env (vs ++ [⟨name, .free⟩]) a := by
  refine ⟨?_, h.settled⟩
  have haccounts := h.accounts.append (.cons (blames_free name) .nil)
  rwa [List.append_nil, List.append_nil] at haccounts

theorem both_eq_ok {a : Reading α} {b : Reading β} {x : α} {y : β} :
    both a b = .ok (x, y) ↔ a = .ok x ∧ b = .ok y := by
  cases a <;> cases b <;> simp [both]

theorem Reads.both {a : Reading α} {b : Reading β} (ha : Reads env vs a) (hb : Reads env ws b) :
    Reads env (vs ++ ws) (both a b) := by
  refine ⟨?_, ?_⟩
  · rw [both_faults]
    exact ha.accounts.append hb.accounts
  · intro hnone
    rw [both_faults, List.append_eq_nil_iff] at hnone
    obtain ⟨x, hx⟩ := ha.settled hnone.1
    obtain ⟨y, hy⟩ := hb.settled hnone.2
    exact ⟨(x, y), both_eq_ok.2 ⟨hx, hy⟩⟩

/-- what is made of the value of a reading goes by the same variables -/
theorem Reads.of_eq {a : Reading α} {b : Reading β} (ha : Reads env vs a) (hok : ∀ x, a = .ok x → ∃ y, b = .ok y)
    (herror : ∀ is, a = .error is → b = .error is) : Reads env vs b := by
  cases a with
  | ok x =>
    obtain ⟨y, rfl⟩ := hok x rfl
    exact ⟨ha.accounts, fun _ => ⟨y, rfl⟩⟩
  | error is =>
    rw [herror is rfl]
    refine ⟨ha.accounts, fun hnone => ?_⟩
    obtain ⟨x, hx⟩ := ha.settled hnone
    cases hx

/-- a reading fails exactly when a variable by which it goes breaks its rule -/
theorem Reads.refused_iff {a : Reading α} (h : Reads env vs a) :
    (∃ is, a = .error is) ↔ ∃ v ∈ vs, ¬ v.Holds env := by
  have hfaults : a.faults = [] ↔ ∀ v ∈ vs, v.Holds env := h.accounts.eq_nil_iff
  have hbroken : (∃ v ∈ vs, ¬ v.Holds env) ↔ a.faults ≠ [] := by
    rw [ne_eq, hfaults]
    simp
  rw [hbroken]
  cases a with
  | ok x => simp [faults]
  | error is =>
    refine iff_of_true ⟨is, rfl⟩ ?_
    intro hnone
    obtain ⟨x, hx⟩ := h.settled hnone
    cases hx

/-! ## Parts of the configuration -/

theorem reads_smtp (env : Environment) : Reads env smtpVariables (smtpReading env) := by
  have hconnect := (obeys_positiveNumber env "SMTP_CONNECT_TIMEOUT" 10000 (by decide) (by decide)).reads
  have hread := (obeys_positiveNumber env "SMTP_READ_TIMEOUT" 10000 (by decide) (by decide)).reads
  have htail := hconnect.both ((hread.free_behind "SMTP_TLS_REJECT_UNAUTHORIZED").free_behind "SMTP_TLS_CA_FILE")
  have hsender := (obeys_optionalAddress env "SMTP_FROM").reads.both
    ((htail.free "SMTP_EHLO_DOMAIN").free "SMTP_FROM_NAME")
  have hlogin := (obeys_requiredText env "SMTP_USERNAME").reads.both
    ((obeys_requiredText env "SMTP_PASSWORD").reads.both hsender)
  have hport := (obeys_portNumber env "SMTP_PORT" 587 (by decide) (by decide)).reads
  refine Reads.of_eq ((obeys_requiredTrimmed env "SMTP_HOST").reads.both (hport.both hlogin)) ?_ ?_
  · rintro ⟨host, port, username, password, sender, connectTimeout, readTimeout⟩ h
    simp only [smtpReading, h, Except.ok.injEq, exists_eq']
  · intro is h
    simp only [smtpReading, h]

theorem reads_enquiry (env : Environment) : Reads env enquiryVariables (enquiryReading env) := by
  have hlimit := (obeys_positiveNumber env "ENQUIRY_RATE_LIMIT" 3 (by decide) (by decide)).reads
  have hwindow := (obeys_positiveNumber env "ENQUIRY_RATE_WINDOW_MINUTES" 10 (by decide) (by decide)).reads
  have hminFill := (obeys_naturalNumber env "ENQUIRY_MIN_FILL_SECONDS" 3 (by decide)).reads
  have htail := (obeys_optionalAddress env "ENQUIRY_FALLBACK_ADDRESS").reads.both
    (hminFill.both (hlimit.both hwindow))
  refine Reads.of_eq ((obeys_addressList env "ENQUIRY_RECIPIENTS").reads.both
    ((htail.free "ENQUIRY_SITE_NAME").free "ENQUIRY_SUBJECT")) ?_ ?_
  · rintro ⟨recipients, fallback, minFillSeconds, rateLimit, rateWindowMinutes⟩ h
    simp only [enquiryReading, h, Except.ok.injEq, exists_eq']
  · intro is h
    simp only [enquiryReading, h]

theorem reads_server (env : Environment) : Reads env serverVariables (serverReading env) := by
  refine Reads.of_eq ((obeys_portNumber env "PORT" 8080 (by decide) (by decide)).reads.free "HOST") ?_ ?_
  · intro port h
    simp only [serverReading, h, Except.ok.injEq, exists_eq']
  · intro is h
    simp only [serverReading, h]

/-! ## Configurations -/

/-- the issues with which a configuration is refused -/
def issuesOf : Except Invalid α → List Issue
  | .ok _ => []
  | .error e => e.issues

theorem orInvalid_eq_ok {a : Reading α} {x : α} : orInvalid a = .ok x ↔ a = .ok x := by
  cases a <;> simp [orInvalid]

theorem issuesOf_orInvalid (a : Reading α) : issuesOf (orInvalid a) = a.faults := by
  cases a <;> rfl

theorem refused_orInvalid {a : Reading α} : (∃ e, orInvalid a = .error e) ↔ ∃ is, a = .error is := by
  cases a <;> simp [orInvalid]

/-- what a configuration is made of -/
theorem read_eq_ok {m : Mailer} :
    read env = .ok m ↔ ∃ enquiry fallback, smtpReading env = .ok m.smtp ∧
      enquiryReading env = .ok (enquiry, fallback) ∧ serverReading env = .ok m.server ∧
      { enquiry with fallbackAddress := fallback.getD m.smtp.sender } = m.enquiry := by
  rw [read, orInvalid_eq_ok]
  constructor
  · intro h
    split at h
    · cases h
    · rename_i smtp enquiry fallback server hwhole
      obtain ⟨hsmtp, hrest⟩ := both_eq_ok.1 hwhole
      obtain ⟨henquiry, hserver⟩ := both_eq_ok.1 hrest
      cases h
      exact ⟨enquiry, fallback, hsmtp, henquiry, hserver, rfl⟩
  · rintro ⟨enquiry, fallback, hsmtp, henquiry, hserver, hfallback⟩
    rw [both_eq_ok.2 ⟨hsmtp, both_eq_ok.2 ⟨henquiry, hserver⟩⟩]
    dsimp only
    rw [hfallback]

theorem reads_read (env : Environment) : ∃ a, read env = orInvalid a ∧ Reads env schema a ∧
    a.faults = (smtpReading env).faults ++ (both (enquiryReading env) (serverReading env)).faults := by
  refine ⟨_, rfl, ?_, ?_⟩
  · refine Reads.of_eq ((reads_smtp env).both ((reads_enquiry env).both (reads_server env))) ?_ ?_
    · rintro ⟨smtp, ⟨enquiry, fallback⟩, server⟩ h
      simp only [h, Except.ok.injEq, exists_eq']
    · intro is h
      simp only [h]
  · rw [← both_faults]
    split
    · rename_i is h
      rw [h]
      rfl
    · rename_i h
      rw [h]
      rfl

/-- issues of variables that are all the relay's, or all not, are all kept or all dropped -/
theorem Accounts.filter_smtp (h : Accounts env vs is) (hsmtp : ∀ v ∈ vs, isSmtp v.name = true) :
    is.filter (fun i => isSmtp i.name) = is := by
  rw [List.filter_eq_self]
  intro i hi
  obtain ⟨v, hv, hname⟩ := List.mem_map.1 (h.mem_name i hi)
  rw [← hname]
  exact hsmtp v hv

theorem Accounts.filter_other (h : Accounts env vs is) (hother : ∀ v ∈ vs, isSmtp v.name = false) :
    is.filter (fun i => isSmtp i.name) = [] := by
  rw [List.filter_eq_nil_iff]
  intro i hi
  obtain ⟨v, hv, hname⟩ := List.mem_map.1 (h.mem_name i hi)
  rw [← hname, hother v hv]
  simp

/-- how the two readings of an environment are refused, and how they agree -/
structure Accounted (env : Environment) : Prop where
  /-- a configuration is refused exactly when a variable breaks its rule -/
  refused : (∃ e, read env = .error e) ↔ ∃ v ∈ schema, ¬ v.Holds env
  /-- its issues name the variables that do, all of them, in the order of the schema -/
  named : ((issuesOf (read env)).map Issue.name).dedup = (schema.filter fun v => ¬ v.Holds env).map Variable.name
  /-- relay settings are refused exactly when a variable of the relay breaks its rule -/
  smtpRefused : (∃ e, readSmtp env = .error e) ↔ ∃ v ∈ schema, isSmtp v.name = true ∧ ¬ v.Holds env
  /-- their issues are those of the configuration that name a variable of the relay -/
  smtpIssues : issuesOf (readSmtp env) = (issuesOf (read env)).filter fun i => isSmtp i.name
  /-- the relay settings of a configuration are those that are read alone -/
  same : ∀ m, read env = .ok m → readSmtp env = .ok m.smtp

theorem smtpVariables_eq : smtpVariables = schema.filter fun v => isSmtp v.name := by
  decide +kernel

/-- **Refusals are accounted for.** In every environment, a configuration is refused exactly when some variable breaks
its own rule, and its issues name the variables that do, so that none hides another; the relay settings alone are
refused with exactly the issues of the relay's variables, and are otherwise those of the configuration. -/
theorem readings_accounted (env : Environment) : Accounted env := by
  obtain ⟨a, hread, ha, hfaults⟩ := reads_read env
  have hsmtp := reads_smtp env
  have hsite := ((reads_enquiry env).both (reads_server env)).accounts
  have hnodup : (schema.map Variable.name).Nodup := by decide +kernel
  have hown : ∀ v ∈ smtpVariables, isSmtp v.name = true := by decide +kernel
  have hother : ∀ v ∈ enquiryVariables ++ serverVariables, isSmtp v.name = false := by decide +kernel
  constructor
  case refused => rw [hread, refused_orInvalid, ha.refused_iff]
  case named => rw [hread, issuesOf_orInvalid, ha.accounts.dedup_names hnodup]
  case smtpRefused =>
    rw [readSmtp, refused_orInvalid, hsmtp.refused_iff, smtpVariables_eq]
    simp only [List.mem_filter, and_assoc]
  case smtpIssues =>
    rw [hread, readSmtp, issuesOf_orInvalid, issuesOf_orInvalid, hfaults, List.filter_append,
      hsmtp.accounts.filter_smtp hown, hsite.filter_other hother, List.append_nil]
  case same =>
    intro m hm
    obtain ⟨_, _, hsettings, -⟩ := read_eq_ok.1 hm
    exact orInvalid_eq_ok.2 hsettings

example : (issuesOf (read [("PORT", "70000")])).map Issue.message =
    ["SMTP_HOST: is required", "SMTP_USERNAME: is required", "SMTP_PASSWORD: is required",
      "ENQUIRY_RECIPIENTS: is required", "PORT: Number must be less than or equal to 65535"] := by
  decide +kernel

end EnquiryMail.Config
