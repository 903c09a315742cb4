/-
Sessions side by side. Two sessions run in parallel when they ask the same of their channels and of their surroundings,
but for what they are given leeway in: secret lines, texts written as they are, log calls and identifiers. Over handlers
that answer both alike they end alike.

- `Parallel`: sessions side by side; `parallel_bind` puts them together from their parts.
- `Sustains.run`: over handlers that bear with the leeway, sessions side by side end with values that belong together.
- `parallel_credentials`: with other credentials, a session differs in its two secret lines only.
- `parallel_identifiers`: with other identifiers, a delivery differs in what it writes and logs and in the id that it
  gives.
-/
import EnquiryMail.Proofs.Session.Turn

namespace EnquiryMail.Smtp

open Mail (Message)
open Script (Handler Runs)

variable {α β γ δ σ σ' : Type}

/-! ## Leeway -/

/-- in what two sessions may differ -/
structure Leeway where
  /-- secret lines that may stand for each other -/
  secrets : String → String → Prop
  /-- texts written as they are -/
  raws : String → String → Prop
  /-- log calls -/
  calls : Log.Call → Log.Call → Prop
  /-- identifiers made -/
  ids : String → String → Prop

/-- two requests that may stand for each other, and the answers that belong together -/
inductive Leeway.Pairs (w : Leeway) : (r r' : Request) → (r.Answer → r'.Answer → Prop) → Prop
  | same (r : Request) (hr : r ≠ .freshId) : Pairs w r r Eq
  | secret {text text' : String} (h : w.secrets text text') : Pairs w (.writeLine text true) (.writeLine text' true) Eq
  | raw {text text' : String} (h : w.raws text text') : Pairs w (.writeRaw text) (.writeRaw text') Eq
  | log {c c' : Log.Call} (h : w.calls c c') : Pairs w (.log c) (.log c') Eq
  | freshId : Pairs w .freshId .freshId w.ids

/-- two sessions side by side; `V` relates the values that they end with -/
inductive Parallel (w : Leeway) (V : α → β → Prop) : Script α → Script β → Prop
  | done {a : α} {b : β} (h : V a b) : Parallel w V (.done a) (.done b)
  | ask {r r' : Request} {A : r.Answer → r'.Answer → Prop} {next : r.Answer → Script α} {next' : r'.Answer → Script β}
      (hr : w.Pairs r r' A) (h : ∀ x x', A x x' → Parallel w V (next x) (next' x')) :
      Parallel w V (.ask r next) (.ask r' next')

variable {w : Leeway} {V : α → β → Prop} {W : γ → δ → Prop}

theorem parallel_bind {p : Script α} {q : Script β} {f : α → Script γ} {g : β → Script δ} (h : Parallel w V p q)
    (hfg : ∀ a b, V a b → Parallel w W (f a) (g b)) : Parallel w W (p.bind f) (q.bind g) := by
  induction h with
  | done hab => exact hfg _ _ hab
  | ask hr _ ih => exact .ask hr ih

/-- the same request on both sides -/
theorem parallel_same {r : Request} (hr : r ≠ .freshId) {f : r.Answer → Script γ} {g : r.Answer → Script δ}
    (h : ∀ x, Parallel w W (f x) (g x)) : Parallel w W (.ask r f) (.ask r g) := by
  refine .ask (.same r hr) ?_
  rintro x _ rfl
  exact h x

theorem parallel_request {r : Request} (hr : r ≠ .freshId) {f : r.Answer → Script γ} {g : r.Answer → Script δ}
    (h : ∀ x, Parallel w W (f x) (g x)) : Parallel w W (Script.request r >>= f) (Script.request r >>= g) :=
  parallel_same hr h

/-- where identifiers are the same on both sides, a session runs beside itself -/
theorem parallel_refl (hids : ∀ x x', w.ids x x' → x = x') (p : Script α) : Parallel w Eq p p := by
  induction p with
  | done a => exact .done rfl
  | ask r next ih =>
    by_cases hr : r = .freshId
    · subst hr
      refine .ask .freshId fun x x' hx => ?_
      obtain rfl := hids x x' hx
      exact ih x
    · exact parallel_same hr ih

/-- a session that makes no identifier runs beside itself -/
theorem parallel_self {p : Script α} (h : ∀ tr a, Runs p tr a → ∀ e ∈ tr, e.request ≠ .freshId) :
    Parallel w Eq p p := by
  induction p with
  | done a => exact .done rfl
  | ask r next ih =>
    have hnext : ∀ x tr a, Runs (next x) tr a → ∀ e ∈ tr, e.request ≠ .freshId := fun x tr a hr e he =>
      h _ a (.ask x hr) e (List.mem_cons_of_mem _ he)
    refine parallel_same ?_ fun x => ih x (hnext x)
    obtain ⟨tr, a, hr⟩ := Script.exists_runs (.ask r next)
    cases hr with
    | ask x hx => exact h _ a (.ask x hx) ⟨r, x⟩ List.mem_cons_self

/-- what takes nothing from the surroundings makes no identifier -/
theorem parallel_follows {p : Step α} {plan : List Stage} {U : List Reply → α → Prop} (h : Follows p plan U) :
    Parallel w Eq p.run p.run := by
  refine parallel_self fun tr out hr e he hfresh => ?_
  have hmem : e ∈ takings tr := List.mem_filter.2 ⟨he, by rw [hfresh]; rfl⟩
  rw [(h tr out hr).1] at hmem
  cases hmem

/-! ## Steps -/

/-- results that belong together: the same failure, or values that do -/
def Both (V : α → β → Prop) : Except Failure α → Except Failure β → Prop
  | .ok a, .ok b => V a b
  | .error f, .error f' => f = f'
  | _, _ => False

/-- equal results belong together -/
theorem parallel_both {p q : Script (Except Failure α)} (h : Parallel w Eq p q) : Parallel w (Both Eq) p q := by
  induction h with
  | done hab =>
    subst hab
    rename_i out
    refine .done ?_
    cases out <;> rfl
  | ask hr _ ih => exact .ask hr ih

theorem parallel_step {p : Step α} {q : Step β} {f : α → Step γ} {g : β → Step δ}
    (h : Parallel w (Both V) p.run q.run) (hfg : ∀ a b, V a b → Parallel w (Both W) (f a).run (g b).run) :
    Parallel w (Both W) (p >>= f).run (q >>= g).run := by
  rw [Step.run_bind, Step.run_bind]
  refine parallel_bind h ?_
  rintro (e | a) (e' | b) hab
  · exact .done hab
  · cases hab
  · cases hab
  · exact hfg a b hab

/-- the first step gives the same on both sides -/
theorem parallel_then {p q : Step α} {f : α → Step γ} {g : α → Step δ} (h : Parallel w Eq p.run q.run)
    (hfg : ∀ a, Parallel w (Both W) (f a).run (g a).run) : Parallel w (Both W) (p >>= f).run (q >>= g).run := by
  rw [Step.run_bind, Step.run_bind]
  refine parallel_bind h ?_
  rintro (e | a) _ rfl
  · exact .done rfl
  · exact hfg a

theorem parallel_pure {a : γ} {b : δ} (h : W a b) :
    Parallel w (Both W) (pure a : Step γ).run (pure b : Step δ).run := .done h

/-- a step made only under a condition -/
theorem parallel_when {c : Prop} [Decidable c] {p : Step Unit} (hp : Parallel w Eq p.run p.run)
    {f : Unit → Step γ} {g : Unit → Step δ} (h : Parallel w (Both W) (f ()).run (g ()).run) :
    Parallel w (Both W) (if c then p >>= f else f ()).run (if c then p >>= g else g ()).run := by
  split
  · exact parallel_then hp fun _ => h
  · exact h

/-- two steps over channels of their own, reported alike -/
theorem parallel_overChannel {p : Step α} {q : Step β} {report : Except Failure α → Script Unit}
    {report' : Except Failure β → Script Unit} (h : Parallel w (Both V) p.run q.run)
    (hreport : ∀ out out', Both V out out' → Parallel w Eq (report out) (report' out')) :
    Parallel w (Both V) (Session.overChannel p report) (Session.overChannel q report') := by
  have hended (f : Failure) : Parallel w (Both V) ((report (.error f)).bind fun _ => .done (.error f))
      ((report' (.error f)).bind fun _ => .done (.error f)) :=
    parallel_bind (hreport _ _ rfl) fun _ _ _ => .done rfl
  refine parallel_same (r := .openChannel) nofun fun x => ?_
  cases x with
  | failed m => exact hended _
  | absent => exact hended _
  | ready =>
    show Parallel w (Both V)
      (p.run.bind fun out => (report out).bind fun _ => (Script.request .close).bind fun _ => .done out)
      (q.run.bind fun out => (report' out).bind fun _ => (Script.request .close).bind fun _ => .done out)
    refine parallel_bind h fun out out' hout => ?_
    refine parallel_bind (hreport out out' hout) fun _ _ _ => ?_
    exact parallel_request (r := .close) nofun fun _ => .done hout

theorem parallel_quit : Parallel w Eq Session.quit.run Session.quit.run := by
  refine parallel_self fun tr out hr e he hfresh => ?_
  have hmem : e ∈ takings tr := List.mem_filter.2 ⟨he, by rw [hfresh]; rfl⟩
  rw [(runs_quit hr).2.1] at hmem
  cases hmem

/-- a delivery from its parts: what is composed on both sides belongs together, and so do the receipts -/
theorem parallel_delivery {s t : Settings} {m : Message} {offset : Int} {dating : Session.Dating}
    {C : String × String → String × String → Prop} {V : Receipt → Receipt → Prop} (hsender : t.sender = s.sender)
    (hhandshake : Parallel w (Both Eq) (Session.handshake s).run (Session.handshake t).run)
    (hcompose : Parallel w (Both C) (Session.compose s m offset dating).run (Session.compose t m offset dating).run)
    (htransfer : ∀ c c', C c c' → Parallel w (Both Eq) (Session.transfer c.2).run (Session.transfer c'.2).run)
    (hreceipt : ∀ c c' text, C c c' → V ⟨c.1, text⟩ ⟨c'.1, text⟩) :
    Parallel w (Both V) (Session.delivery s m offset dating).run (Session.delivery t m offset dating).run := by
  refine parallel_step hhandshake ?_
  rintro a _ rfl
  rw [hsender]
  refine parallel_then (parallel_follows (follows_envelope s.sender m.recipient)) fun _ => ?_
  refine parallel_step hcompose fun c c' hc => ?_
  refine parallel_step (htransfer c c' hc) ?_
  rintro r _ rfl
  refine parallel_then parallel_quit fun _ => ?_
  exact parallel_pure (hreceipt c c' r.text hc)

/-! ## Other credentials -/

/-- settings with other credentials -/
def Settings.signedAs (s : Settings) (username password : String) : Settings := { s with username, password }

/-- the secret lines of two settings may stand for each other, and nothing else -/
def Leeway.credentials (s t : Settings) : Leeway where
  secrets a b := (a = base64 s.username ∧ b = base64 t.username) ∨ a = base64 s.password ∧ b = base64 t.password
  raws := Eq
  calls := Eq
  ids := Eq

section Credentials

variable {s : Settings} {username password : String}

theorem credentials_refl {t : Settings} (p : Script α) : Parallel (.credentials s t) Eq p p :=
  parallel_refl (fun _ _ h => h) p

theorem parallel_secret {text text' : String} {t : Settings} (h : (Leeway.credentials s t).secrets text text') :
    Parallel (.credentials s t) Eq (Session.command text true).run (Session.command text' true).run := by
  have hexchange : Parallel (.credentials s t) Eq (Session.exchange text true) (Session.exchange text' true) := by
    refine .ask (.secret h) ?_
    rintro x _ rfl
    cases x <;> exact credentials_refl _
  refine parallel_bind (V := Eq) (parallel_bind (V := Eq) hexchange ?_) ?_
  · rintro x _ rfl
    exact .done rfl
  · rintro x _ rfl
    exact credentials_refl _

theorem parallel_handshake : Parallel (.credentials s (s.signedAs username password)) (Both Eq)
    (Session.handshake s).run (Session.handshake (s.signedAs username password)).run := by
  refine parallel_then (credentials_refl _) fun x => ?_
  refine parallel_then (credentials_refl _) fun greeting => ?_
  refine parallel_then (credentials_refl _) fun _ => ?_
  refine parallel_then (credentials_refl _) fun plain => ?_
  refine parallel_when (credentials_refl _) ?_
  refine parallel_then (credentials_refl _) fun start => ?_
  refine parallel_then (credentials_refl _) fun _ => ?_
  refine parallel_then (credentials_refl _) fun _ => ?_
  refine parallel_then (credentials_refl _) fun offer => ?_
  refine parallel_when (credentials_refl _) ?_
  refine parallel_then (credentials_refl _) fun login => ?_
  refine parallel_then (credentials_refl _) fun _ => ?_
  refine parallel_then (parallel_secret (.inl ⟨rfl, rfl⟩)) fun name => ?_
  refine parallel_then (credentials_refl _) fun _ => ?_
  refine parallel_then (parallel_secret (.inr ⟨rfl, rfl⟩)) fun answer => ?_
  refine parallel_then (credentials_refl _) fun _ => ?_
  exact parallel_pure rfl

theorem parallel_signIn : Parallel (.credentials s (s.signedAs username password)) (Both Eq)
    (Session.signIn s).run (Session.signIn (s.signedAs username password)).run := by
  refine parallel_step parallel_handshake ?_
  rintro a _ rfl
  exact parallel_then (credentials_refl _) fun _ => parallel_pure rfl

variable (hs : s.problems = []) (ht : (s.signedAs username password).problems = [])

include hs ht

/-- **Delivering with other credentials** differs in the two secret lines only. -/
theorem parallel_credentials (m : Message) (offset : Int) (dating : Session.Dating) :
    Parallel (.credentials s (s.signedAs username password)) (Both Eq) (sendMail s m offset dating)
      (sendMail (s.signedAs username password) m offset dating) := by
  unfold sendMail
  rw [preflight_eq_none hs, preflight_eq_none ht]
  cases hm : refusal m with
  | some f => exact parallel_same (r := .log _) nofun fun _ => .done rfl
  | none =>
    refine parallel_request (r := .clock) nofun fun started => ?_
    refine parallel_overChannel ?_ ?_
    · refine parallel_delivery (C := Eq) rfl parallel_handshake (parallel_both (credentials_refl _)) ?_ ?_
      · rintro c _ rfl
        exact parallel_both (credentials_refl _)
      · rintro c _ text rfl
        rfl
    · rintro (f | r) (f' | r') h
      · cases h
        exact credentials_refl _
      · cases h
      · cases h
      · cases h
        exact credentials_refl _

/-- **Trying a relay out with other credentials** differs in the two secret lines only. -/
theorem parallel_verifyRelay :
    Parallel (.credentials s (s.signedAs username password)) (Both Eq) (verifyRelay s)
      (verifyRelay (s.signedAs username password)) := by
  unfold verifyRelay
  rw [preflight_eq_none hs, preflight_eq_none ht]
  refine parallel_overChannel parallel_signIn ?_
  rintro (f | a) (f' | a') h
  · cases h
    exact credentials_refl _
  · cases h
  · cases h
  · cases h
    exact credentials_refl _

end Credentials

/-! ## Other identifiers -/

/-- identifiers may differ, and with them what is written as it is and what is logged -/
def Leeway.identifiers : Leeway where
  secrets _ _ := False
  raws _ _ := True
  calls _ _ := True
  ids _ _ := True

section Identifiers

theorem parallel_ask {r : Request} (hr : r ≠ .freshId) : Parallel w Eq (Step.ask r).run (Step.ask r).run :=
  parallel_same hr fun _ => .done rfl

theorem parallel_orTransport (x : Except String α) :
    Parallel w Eq (Step.orTransport x).run (Step.orTransport x).run := by
  cases x <;> exact .done rfl

theorem parallel_expect (r : Reply) (code : String) (kind : FailureKind) :
    Parallel w Eq (Session.expect r code kind).run (Session.expect r code kind).run := by
  unfold Session.expect
  split <;> exact .done rfl

theorem parallel_command (text : String) (secret : Bool) :
    Parallel w Eq (Session.command text secret).run (Session.command text secret).run := by
  have hexchange : Parallel w Eq (Session.exchange text secret) (Session.exchange text secret) := by
    refine parallel_request (r := .writeLine text secret) nofun fun x => ?_
    cases x with
    | error m => exact .done rfl
    | ok u => exact parallel_same (r := .read) nofun fun y => .done rfl
  refine parallel_bind (V := Eq) (parallel_bind (V := Eq) hexchange ?_) ?_
  · rintro x _ rfl
    exact .done rfl
  · rintro (e | x) _ rfl
    · exact .done rfl
    · exact parallel_orTransport x

/-- payloads that may stand for each other are taken down alike -/
theorem parallel_transfer {payload payload' : String} (h : w.raws payload payload') :
    Parallel w (Both Eq) (Session.transfer payload).run (Session.transfer payload').run := by
  have hraw : Parallel w Eq (Step.ask (.writeRaw payload)).run (Step.ask (.writeRaw payload')).run := by
    refine .ask (.raw h) ?_
    rintro x _ rfl
    exact .done rfl
  refine parallel_then (parallel_command _ _) fun go => ?_
  refine parallel_then (parallel_expect _ _ _) fun _ => ?_
  refine parallel_then hraw fun x => ?_
  refine parallel_then (parallel_orTransport x) fun _ => ?_
  refine parallel_then (parallel_ask (r := .read) nofun) fun y => ?_
  refine parallel_then (parallel_orTransport y) fun r => ?_
  refine parallel_then (parallel_expect _ _ _) fun _ => ?_
  exact parallel_pure rfl

theorem parallel_compose (s : Settings) (m : Message) (offset : Int) (dating : Session.Dating) :
    Parallel .identifiers (Both fun _ _ => True) (Session.compose s m offset dating).run
      (Session.compose s m offset dating).run := by
  have hfresh : Parallel .identifiers (Both fun _ _ => True) (Step.ask .freshId).run (Step.ask .freshId).run :=
    .ask .freshId fun x x' h => .done h
  refine parallel_step hfresh fun id id' _ => ?_
  have hdated : Parallel .identifiers Eq (Session.dated dating).run (Session.dated dating).run := by
    rcases dating with _ | _ | t
    · exact parallel_ask (r := .clock) nofun
    · exact .done rfl
    · exact .done rfl
  exact parallel_then hdated fun t => parallel_pure trivial

/-- **A delivery with other identifiers** gives the same, but for the id of its message. -/
theorem parallel_identifiers (s : Settings) (m : Message) (offset : Int) (dating : Session.Dating) :
    Parallel .identifiers (Both fun r r' => r.response = r'.response) (sendMail s m offset dating)
      (sendMail s m offset dating) := by
  unfold sendMail
  split
  · exact parallel_request (r := .log _) nofun fun _ => .done rfl
  · refine parallel_request (r := .clock) nofun fun started => ?_
    refine parallel_overChannel ?_ ?_
    · exact parallel_delivery rfl (parallel_both (parallel_follows (follows_handshake s)))
        (parallel_compose s m offset dating) (fun c c' _ => parallel_transfer trivial) fun _ _ _ _ => rfl
    · rintro (f | r) (f' | r') h
      · exact .ask (.log trivial) fun _ _ _ => .done rfl
      · cases h
      · cases h
      · refine parallel_request (r := .clock) nofun fun ended => ?_
        exact .ask (.log trivial) fun _ _ _ => .done rfl

end Identifiers

/-! ## Handlers -/

/-- a request and one that may stand for it lead to the same turn when they are answered alike -/
theorem after_of_pairs {r r' : Request} {A : r.Answer → r'.Answer → Prop} (hr : w.Pairs r r' A) {x : r.Answer}
    {x' : r'.Answer} (hx : A x x') (φ : Turn) : Turn.after φ ⟨r, x⟩ = Turn.after φ ⟨r', x'⟩ := by
  cases hr with
  | same r hne =>
    subst hx
    rfl
  | secret h =>
    subst hx
    cases φ <;> rfl
  | raw h =>
    subst hx
    cases φ <;> rfl
  | log h => cases φ <;> rfl
  | freshId => cases φ <;> rfl

/-- the secret line that a request writes, if it writes one -/
def Request.secrets : Request → List String
  | .writeLine text true => [text]
  | _ => []

/-- the secret lines that a run asks to write, in order -/
def Script.secrets (handle : Handler σ) (p : Script α) (st : σ) : List String :=
  (transcript handle p st).flatMap (·.request.secrets)

/-- of two requests that may stand for each other both write a secret line, or none does -/
theorem secrets_of_pairs {r r' : Request} {A : r.Answer → r'.Answer → Prop} (hr : w.Pairs r r' A) :
    r.secrets.length = r'.secrets.length ∧ (r.secrets.zip r'.secrets).length ≤ 1 := by
  have hself (r : Request) : (r.secrets.zip r.secrets).length ≤ 1 := by
    cases r with
    | writeLine text secret => cases secret <;> simp [Request.secrets]
    | _ => simp [Request.secrets]
  cases hr with
  | same r hne => exact ⟨rfl, hself r⟩
  | secret h => exact ⟨rfl, le_refl _⟩
  | raw h => exact ⟨rfl, Nat.zero_le _⟩
  | log h => exact ⟨rfl, Nat.zero_le _⟩
  | freshId => exact ⟨rfl, Nat.zero_le _⟩

variable {handle : Handler σ} {handle' : Handler σ'} {R : List (String × String) → Turn → σ → σ' → Prop}

/-- two handlers that answer alike what may stand for each other, as long as it is asked in turn; what relates their
states may depend on the secret lines so far, newest first -/
structure Sustains (w : Leeway) (handle : Handler σ) (handle' : Handler σ')
    (R : List (String × String) → Turn → σ → σ' → Prop) : Prop where
  step {r r' : Request} {A : r.Answer → r'.Answer → Prop} (hr : w.Pairs r r' A) {ps : List (String × String)}
    {φ ψ ψ' : Turn} {st : σ} {st' : σ'} (h : R ps φ st st') (hψ : Turn.after φ ⟨r, (handle r st).1⟩ = some ψ)
    (hψ' : Turn.after φ ⟨r', (handle' r' st').1⟩ = some ψ') :
    A (handle r st).1 (handle' r' st').1 ∧
      R (r.secrets.zip r'.secrets ++ ps) ψ (handle r st).2 (handle' r' st').2

/-- **Sessions side by side over such handlers** end with values that belong together. -/
theorem Sustains.run (h : Sustains w handle handle' R) {p : Script α} {q : Script β} (hpq : Parallel w V p q) {φ : Turn}
    (hp : Concludes φ p) (hq : Concludes φ q) {ps : List (String × String)} {st : σ} {st' : σ'} (hst : R ps φ st st') :
    V (p.run handle st).1 (q.run handle' st').1 ∧
      ∃ ψ, R (((p.secrets handle st).zip (q.secrets handle' st')).reverse ++ ps) ψ (p.run handle st).2
        (q.run handle' st').2 := by
  induction hpq generalizing φ ps st st' with
  | done hab => exact ⟨hab, φ, hst⟩
  | @ask r r' A next next' hr hnext ih =>
    obtain ⟨ψ, hψ, hp'⟩ := hp.after (handle r st).1
    obtain ⟨ψ', hψ', hq'⟩ := hq.after (handle' r' st').1
    obtain ⟨hanswer, hst'⟩ := h.step hr hst hψ hψ'
    have hsame : ψ = ψ' := by
      rw [after_of_pairs hr hanswer φ] at hψ
      exact Option.some.inj (hψ.symm.trans hψ')
    subst hsame
    obtain ⟨hvalue, χ, hχ⟩ := ih _ _ hanswer hp' hq' hst'
    obtain ⟨hlength, hone⟩ := secrets_of_pairs hr
    have hzip : ((Script.ask r next).secrets handle st).zip ((Script.ask r' next').secrets handle' st') =
        r.secrets.zip r'.secrets ++
          ((next (handle r st).1).secrets handle (handle r st).2).zip
            ((next' (handle' r' st').1).secrets handle' (handle' r' st').2) :=
      List.zip_append hlength
    -- there is one such pair at most, so its order is no matter
    have hreverse : (r.secrets.zip r'.secrets).reverse = r.secrets.zip r'.secrets := by
      cases hpairs : r.secrets.zip r'.secrets with
      | nil => rfl
      | cons pair rest =>
        rw [hpairs, List.length_cons] at hone
        rw [List.length_eq_zero_iff.1 (Nat.le_zero.1 (Nat.le_of_succ_le_succ hone))]
        rfl
    refine ⟨hvalue, χ, ?_⟩
    rw [hzip, List.reverse_append, hreverse, List.append_assoc]
    exact hχ

end EnquiryMail.Smtp
