/-
Protocols of a session with its channel: phases, and which use of the channel is in place in which phase. A protocol
that opens, closes and follows the plans of a session is followed by the sessions, whatever is answered.

- `Reaches`: whatever keeps to a plan is in place, and leads to a phase when nothing deviates.
- `Obeys`: a session makes no use that is out of place, whatever is answered; `Obeys.after`: nor does what is left of it
  behind an answer.
- `Serves.obeys_sendMail`, `Serves.obeys_verifyRelay`: deliveries and tries obey.
-/
import EnquiryMail.Proofs.Session.Conformance

namespace EnquiryMail.Smtp

open Mail (Message)
open Script (Runs)

/-- phases of a session, and the phase behind a request and its answer; none when the request is out of place -/
structure Protocol (Φ : Type) where
  after : Φ → Exchange → Option Φ
  /-- the channel is open -/
  isOpen : Φ → Bool
  /-- what goes to the surroundings is always in place -/
  quiet : ∀ φ e, e.request.ofChannel = false → after φ e = some φ

namespace Protocol

variable {Φ : Type}

/-- the phase behind a transcript; none when a request is out of place -/
def follow (P : Protocol Φ) (φ : Φ) (tr : List Exchange) : Option Φ := tr.foldlM P.after φ

variable {P : Protocol Φ} {φ ψ χ : Φ}

theorem follow_append (P : Protocol Φ) (φ : Φ) (a b : List Exchange) :
    P.follow φ (a ++ b) = (P.follow φ a).bind (P.follow · b) := List.foldlM_append

theorem follow_cons (P : Protocol Φ) (φ : Φ) (e : Exchange) (tr : List Exchange) :
    P.follow φ (e :: tr) = (P.after φ e).bind (P.follow · tr) := List.foldlM_cons

theorem follow_uses (P : Protocol Φ) (φ : Φ) (tr : List Exchange) : P.follow φ (uses tr) = P.follow φ tr := by
  induction tr generalizing φ with
  | nil => rfl
  | cons e tr ih =>
    rw [follow_cons]
    cases h : e.request.ofChannel with
    | false => rw [uses_cons_of_not_channel tr h, P.quiet φ e h, ih]; rfl
    | true =>
      rw [uses_cons_of_channel tr h, follow_cons]
      simp only [ih]

/-! ## Plans -/

/-- whatever keeps to a plan is in place from one phase on, leaves the channel open, and leads to another phase when
nothing deviates -/
def Reaches (P : Protocol Φ) (φ : Φ) (plan : List Stage) (ψ : Φ) : Prop :=
  ∀ us o, Keeps plan us o → ∃ χ, P.follow φ us = some χ ∧ P.isOpen χ = true ∧ (o = none → χ = ψ)

theorem reaches_nil (h : P.isOpen φ = true) : P.Reaches φ [] φ := by
  intro us o hk
  cases hk
  exact ⟨φ, rfl, h, fun _ => rfl⟩

theorem reaches_cons {stage : Stage} {plan : List Stage}
    (hcut : ∀ x f, stage.verdict x = some f → ∃ χ, P.after φ ⟨stage.request, x⟩ = some χ ∧ P.isOpen χ = true)
    (hnext : ∀ x, stage.verdict x = none → P.after φ ⟨stage.request, x⟩ = some ψ) (h : P.Reaches ψ plan χ) :
    P.Reaches φ (stage :: plan) χ := by
  intro us o hk
  cases hk with
  | cut hx =>
    obtain ⟨χ', hafter, hopen⟩ := hcut _ _ hx
    exact ⟨χ', by rw [follow_cons, hafter]; rfl, hopen, fun ho => nomatch ho⟩
  | next hx hrest =>
    obtain ⟨χ', hfollow, hend⟩ := h _ _ hrest
    exact ⟨χ', by rw [follow_cons, hnext _ hx]; exact hfollow, hend⟩

theorem Reaches.isOpen {plan : List Stage} (hplan : P.Reaches φ plan ψ) {us : List Exchange} {o : Option Failure}
    (hk : Keeps plan us o) : ∃ χ, P.follow φ us = some χ ∧ P.isOpen χ = true := by
  obtain ⟨χ, hfollow, hopen, -⟩ := hplan us o hk
  exact ⟨χ, hfollow, hopen⟩

/-! ## Sessions -/

/-- from a phase on a session makes no use of its channel that is out of place, whatever is answered -/
def Obeys {α : Type} (P : Protocol Φ) (φ : Φ) (p : Script α) : Prop :=
  ∀ tr a, Runs p tr a → (P.follow φ tr).isSome

/-- behind an answer the session is in the phase that it leads to -/
theorem Obeys.after {α : Type} {r : Request} {next : r.Answer → Script α} (h : P.Obeys φ (.ask r next))
    (x : r.Answer) : ∃ ψ, P.after φ ⟨r, x⟩ = some ψ ∧ P.Obeys ψ (next x) := by
  have hfollow : ∀ tr a, Runs (next x) tr a → ((P.after φ ⟨r, x⟩).bind (P.follow · tr)).isSome :=
    fun tr a hr => follow_cons P φ ⟨r, x⟩ tr ▸ h _ a (.ask x hr)
  cases hafter : P.after φ ⟨r, x⟩ with
  | none =>
    obtain ⟨tr, a, hr⟩ := Script.exists_runs (next x)
    have hplace := hfollow tr a hr
    rw [hafter] at hplace
    cases hplace
  | some ψ =>
    rw [hafter] at hfollow
    exact ⟨ψ, rfl, hfollow⟩

/-- a protocol for the sessions with some settings: from the phase before the channel is opened, through the phase in
which it is open, to the one in which all is done -/
structure Serves (P : Protocol Φ) (s : Settings) (unopened opened served : Φ) : Prop where
  opens : ∀ x : Opening, ∃ χ, P.after unopened ⟨.openChannel, x⟩ = some χ ∧ (x = .ready → χ = opened)
  delivers : ∀ m composed, P.Reaches opened (Plan.delivery s m composed) served
  signsIn : P.Reaches opened (Plan.handshake s) served
  leaves : ∀ vs, Farewell vs → ∃ χ, P.follow served vs = some χ ∧ P.isOpen χ = true
  closes : ∀ χ, P.isOpen χ = true → (P.after χ ⟨.close, ()⟩).isSome

variable {s : Settings} {unopened opened served : Φ}

theorem Serves.follow_left (hP : P.Serves s unopened opened served) {plan : List Stage}
    (hplan : P.Reaches opened plan served) {us vs : List Exchange} (hk : Keeps plan us none) (hv : Farewell vs) :
    ∃ χ, P.follow opened (us ++ vs) = some χ ∧ P.isOpen χ = true := by
  obtain ⟨χ, hfollow, -, hend⟩ := hplan us none hk
  obtain rfl := hend rfl
  obtain ⟨χ', hleave, hopen⟩ := hP.leaves vs hv
  exact ⟨χ', by rw [follow_append, hfollow]; exact hleave, hopen⟩

theorem Serves.follow_delivered (hP : P.Serves s unopened opened served) {m : Message} {dating : Session.Dating}
    {composed : Option (String × String)} {us : List Exchange} {out : Except Failure Receipt}
    (h : Delivered s m dating composed us out) : ∃ χ, P.follow opened us = some χ ∧ P.isOpen χ = true := by
  have hplan := hP.delivers m composed
  rcases h.keeps with ⟨f, hk, -⟩ | ⟨hk, -⟩ | ⟨ws, vs, id, payload, r, rfl, hk, -, -, hv, -⟩
  · exact hplan.isOpen hk
  · exact hplan.isOpen hk
  · exact hP.follow_left hplan hk hv

theorem Serves.follow_signedIn (hP : P.Serves s unopened opened served) {us : List Exchange}
    {out : Except Failure Acceptance} (h : SignedIn s us out) :
    ∃ χ, P.follow opened us = some χ ∧ P.isOpen χ = true := by
  cases h with
  | cut hk => exact hP.signsIn.isOpen hk
  | accepted hk ha hv => exact hP.follow_left hP.signsIn hk hv

theorem Serves.follow_overChannel (hP : P.Serves s unopened opened served) {α : Type}
    {During : List Exchange → Except Failure α → Prop}
    (hduring : ∀ us out, During us out → ∃ χ, P.follow opened us = some χ ∧ P.isOpen χ = true)
    {us : List Exchange} {out : Except Failure α} (h : OverChannel During us out) : (P.follow unopened us).isSome := by
  cases h with
  | refused m =>
    obtain ⟨χ, hopens, -⟩ := hP.opens (.failed m)
    rw [follow_cons, hopens]
    rfl
  | absent =>
    obtain ⟨χ, hopens, -⟩ := hP.opens .absent
    rw [follow_cons, hopens]
    rfl
  | closed h =>
    obtain ⟨χ, hopens, hready⟩ := hP.opens .ready
    obtain rfl := hready rfl
    obtain ⟨χ', hfollow, hopen⟩ := hduring _ _ h
    have hclose : (P.follow χ' [⟨.close, ()⟩]).isSome := by
      obtain ⟨χ'', hc⟩ := Option.isSome_iff_exists.1 (hP.closes χ' hopen)
      rw [follow_cons]
      exact Option.isSome_of_eq_some (congrArg (Option.bind · (P.follow · [])) hc)
    rw [List.cons_append, follow_cons, hopens, Option.bind_some, follow_append, hfollow]
    exact hclose

/-- **Every use of the channel in a delivery is in place.** -/
theorem Serves.obeys_sendMail (hP : P.Serves s unopened opened served) (m : Message) (offset : Int)
    (dating : Session.Dating) : P.Obeys unopened (sendMail s m offset dating) := by
  intro tr out h
  rw [← follow_uses]
  rcases runs_sendMail h with ⟨f, -, huses, -⟩ | ⟨-, hover⟩
  · rw [huses]; rfl
  · exact hP.follow_overChannel (fun _ _ => hP.follow_delivered) hover

/-- **Every use of the channel in trying a relay out is in place.** -/
theorem Serves.obeys_verifyRelay (hP : P.Serves s unopened opened served) : P.Obeys unopened (verifyRelay s) := by
  intro tr out h
  rw [← follow_uses]
  rcases runs_verifyRelay h with ⟨f, -, huses, -⟩ | ⟨-, hover⟩
  · rw [huses]; rfl
  · exact hP.follow_overChannel (fun _ _ => hP.follow_signedIn) hover

end Protocol

end EnquiryMail.Smtp
