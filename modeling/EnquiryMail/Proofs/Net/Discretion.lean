/-
Nothing but two lines tells credentials apart. Over a network as over a scripted channel, a session with one user name
and password and the same session with others give the same result, make the same log calls at the same times, and do
the same on the wire, but for the text of the two lines with the user name and the password.

- `Redacted`: what has been done, alike but for secret lines, each in one place at most.
- `secrets_sendMail`, `secrets_verifyRelay`: a session asks to write two secret lines at most, the user name first.
- `Scripted.sustains`: scripted channels answer alike whatever secret lines are written.
- `credentials_undisclosed`: so the credentials show in those two lines only.
-/
import EnquiryMail.Log.Journal
import EnquiryMail.Proofs.Net.Refinement
import EnquiryMail.Proofs.Net.Twins

namespace EnquiryMail.Smtp

open Mail (Message)
open Script (Handler Runs transcript)

variable {α ε σ : Type}

/-! ## Alike but for secret lines -/

/-- what has been done on two sides, newest first, is alike but for secret lines: each of these is in one place at
most, and they come in their order. `S` says how the two lines of a pair show -/
inductive Redacted (S : String × String → ε → ε → Prop) : List (String × String) → List ε → List ε → Prop
  | nil : Redacted S [] [] []
  | same {ps : List (String × String)} {l l' : List ε} (e : ε) (h : Redacted S ps l l') :
      Redacted S ps (e :: l) (e :: l')
  | secret {ps : List (String × String)} {l l' : List ε} {p : String × String} {e e' : ε} (hp : S p e e')
      (h : Redacted S ps l l') : Redacted S (p :: ps) (e :: l) (e' :: l')
  | unwritten {ps : List (String × String)} {l l' : List ε} (p : String × String) (h : Redacted S ps l l') :
      Redacted S (p :: ps) l l'

variable {S : String × String → ε → ε → Prop} {ps : List (String × String)} {l l' : List ε}

/-- more lines might have been written -/
theorem Redacted.of_suffix {qs : List (String × String)} (h : Redacted S ps l l') (hps : ps <:+ qs) :
    Redacted S qs l l' := by
  obtain ⟨front, rfl⟩ := hps
  induction front with
  | nil => exact h
  | cons p front ih => exact .unwritten p ih

theorem Redacted.refl (l : List ε) : Redacted S [] l l := by
  induction l with
  | nil => exact .nil
  | cons e l ih => exact .same e ih

/-! ## The secret lines of a session -/

theorem secrets_uses (tr : List Exchange) :
    (uses tr).flatMap (·.request.secrets) = tr.flatMap (·.request.secrets) := by
  induction tr with
  | nil => rfl
  | cons e tr ih =>
    cases h : e.request.ofChannel with
    | true => rw [uses_cons_of_channel tr h, List.flatMap_cons, List.flatMap_cons, ih]
    | false =>
      have hnone : e.request.secrets = [] := by
        obtain ⟨r, x⟩ := e
        cases r <;> first | rfl | cases h
      rw [uses_cons_of_not_channel tr h, List.flatMap_cons, hnone, ih]
      rfl

/-- what keeps to a plan writes its secret lines in their order -/
theorem Keeps.secrets {plan : List Stage} {us : List Exchange} {o : Option Failure} (h : Keeps plan us o) :
    us.flatMap (·.request.secrets) <+: plan.flatMap (·.request.secrets) := by
  obtain ⟨rest, hrest⟩ := h.requests_prefix
  have hplan : plan.flatMap (·.request.secrets) = (us.map Exchange.request ++ rest).flatMap Request.secrets := by
    rw [hrest, List.flatMap_map]
  rw [hplan, List.flatMap_append, List.flatMap_map]
  exact List.prefix_append _ _

theorem Farewell.secrets {vs : List Exchange} (h : Farewell vs) : vs.flatMap (·.request.secrets) = [] := by
  cases h <;> rfl

/-- the lines with the credentials, in their order -/
def Settings.secrets (s : Settings) : List String := [base64 s.username, base64 s.password]

theorem Delivered.secrets {s : Settings} {m : Message} {dating : Session.Dating}
    {composed : Option (String × String)} {us : List Exchange} {out : Except Failure Receipt}
    (h : Delivered s m dating composed us out) : us.flatMap (·.request.secrets) <+: s.secrets := by
  have hplan : (Plan.delivery s m composed).flatMap (·.request.secrets) = s.secrets := by
    cases composed <;> rfl
  rw [← hplan]
  rcases h.keeps with ⟨f, hk, -⟩ | ⟨hk, -⟩ | ⟨ws, vs, id, payload, r, rfl, hk, -, -, hv, -⟩
  · exact hk.secrets
  · exact hk.secrets
  · rw [List.flatMap_append, hv.secrets, List.append_nil]
    exact hk.secrets

theorem SignedIn.secrets {s : Settings} {us : List Exchange} {out : Except Failure Acceptance}
    (h : SignedIn s us out) : us.flatMap (·.request.secrets) <+: s.secrets := by
  show _ <+: (Plan.handshake s).flatMap (·.request.secrets)
  cases h with
  | cut hk => exact hk.secrets
  | accepted hk ha hv =>
    rw [List.flatMap_append, hv.secrets, List.append_nil]
    exact hk.secrets

theorem OverChannel.secrets {During : List Exchange → Except Failure α → Prop} {lines : List String}
    (hduring : ∀ us out, During us out → us.flatMap (·.request.secrets) <+: lines) {us : List Exchange}
    {out : Except Failure α} (h : OverChannel During us out) : us.flatMap (·.request.secrets) <+: lines := by
  cases h with
  | refused m => exact List.nil_prefix
  | absent => exact List.nil_prefix
  | closed h =>
    rw [List.cons_append, List.flatMap_cons, List.flatMap_append]
    refine (List.append_nil _).symm ▸ ?_
    exact hduring _ _ h

theorem secrets_sendMail (handle : Handler σ) (st : σ) (s : Settings) (m : Message) (offset : Int)
    (dating : Session.Dating) : (sendMail s m offset dating).secrets handle st <+: s.secrets := by
  rw [Script.secrets, ← secrets_uses]
  rcases runs_sendMail (Script.runs_transcript handle (sendMail s m offset dating) st) with ⟨f, -, huses, -⟩ | ⟨-, h⟩
  · rw [huses]
    exact List.nil_prefix
  · exact h.secrets fun us out hus => hus.secrets

theorem secrets_verifyRelay (handle : Handler σ) (st : σ) (s : Settings) :
    (verifyRelay s).secrets handle st <+: s.secrets := by
  rw [Script.secrets, ← secrets_uses]
  rcases runs_verifyRelay (Script.runs_transcript handle (verifyRelay s) st) with ⟨f, -, huses, -⟩ | ⟨-, h⟩
  · rw [huses]
    exact List.nil_prefix
  · exact h.secrets fun us out hus => hus.secrets

/-- what begins two lists, in pairs -/
theorem prefix_zip {β : Type} {a l : List α} {b l' : List β} (ha : a <+: l) (hb : b <+: l') :
    a.zip b <+: l.zip l' := by
  obtain ⟨x, rfl⟩ := ha
  induction a generalizing b l' with
  | nil => exact List.nil_prefix
  | cons e a ih =>
    cases b with
    | nil => exact List.nil_prefix
    | cons f b =>
      obtain ⟨y, rfl⟩ := hb
      exact List.cons_prefix_cons.2 ⟨rfl, ih ⟨y, rfl⟩⟩

theorem eq_of_both {out out' : Except Failure α} (h : Both Eq out out') : out = out' := by
  cases out <;> cases out' <;> first | exact congrArg _ h | cases h

/-! ## Scripted channels -/

namespace Scripted

/-- the two texts of a pair as acts over a scripted channel -/
def Shows (p : String × String) (a a' : Act) : Prop := a = .secret p.1 ∧ a' = .secret p.2

/-- two channels that differ in what has been done, and there in secret lines only -/
def Apart (ps : List (String × String)) (c c' : Scripted) : Prop :=
  ∃ acts, c' = { c with acts } ∧ Redacted Shows ps c.acts acts

variable {c c' : Scripted}

theorem Apart.record (h : Apart ps c c') (a : Act) : Apart ps (c.record a) (c'.record a) := by
  obtain ⟨acts, rfl, hacts⟩ := h
  exact ⟨a :: acts, rfl, .same a hacts⟩

/-- what is written fails on both sides or on neither -/
theorem Apart.write {qs : List (String × String)} (h : Apart ps c c') {a a' : Act}
    (hwritten : ∀ acts, Redacted Shows ps c.acts acts → Redacted Shows qs (a :: c.acts) (a' :: acts))
    (hunwritten : ∀ acts, Redacted Shows ps c.acts acts → Redacted Shows qs c.acts acts) :
    (c.write a).1 = (c'.write a').1 ∧ Apart qs (c.write a).2 (c'.write a').2 := by
  obtain ⟨acts, rfl, hacts⟩ := h
  simp only [Scripted.write]
  split
  · split
    · exact ⟨rfl, acts, rfl, hunwritten acts hacts⟩
    · exact ⟨rfl, a' :: acts, rfl, hwritten acts hacts⟩
  · exact ⟨rfl, a' :: acts, rfl, hwritten acts hacts⟩

/-- the same is written on both sides -/
theorem Apart.write_same (h : Apart ps c c') (a : Act) :
    (c.write a).1 = (c'.write a).1 ∧ Apart ps (c.write a).2 (c'.write a).2 :=
  h.write (fun _ hacts => .same a hacts) fun _ hacts => hacts

theorem Apart.write_secret (h : Apart ps c c') (p : String × String) :
    (c.write (.secret p.1)).1 = (c'.write (.secret p.2)).1 ∧
      Apart (p :: ps) (c.write (.secret p.1)).2 (c'.write (.secret p.2)).2 :=
  h.write (fun _ hacts => .secret ⟨rfl, rfl⟩ hacts) fun _ hacts => .unwritten p hacts

theorem Apart.same (h : Apart ps c c') (r : Request) :
    (handle r c).1 = (handle r c').1 ∧
      Apart (r.secrets.zip r.secrets ++ ps) (handle r c).2 (handle r c').2 := by
  cases r with
  | openChannel =>
    refine ⟨?_, h.record .opened⟩
    obtain ⟨acts, rfl, -⟩ := h
    rfl
  | read =>
    obtain ⟨acts, rfl, hacts⟩ := h
    simp only [handle]
    split <;> exact ⟨rfl, acts, rfl, hacts⟩
  | writeLine text secret =>
    cases secret with
    | true => exact h.write_secret (text, text)
    | false => exact h.write_same (.line text)
  | writeRaw text => exact h.write_same (.raw text)
  | startTls =>
    obtain ⟨acts, rfl, hacts⟩ := h
    simp only [handle, Scripted.record]
    split <;> exact ⟨rfl, _, rfl, .same _ hacts⟩
  | close => exact ⟨rfl, h.record .closed⟩
  | _ =>
    obtain ⟨acts, rfl, hacts⟩ := h
    exact ⟨rfl, acts, rfl, hacts⟩

/-- **Scripted channels** answer alike whatever secret lines are written. -/
theorem sustains (s t : Settings) : Sustains (.credentials s t) handle handle fun ps _ => Apart ps where
  step := by
    intro r r' A hr ps φ ψ ψ' c c' h _ _
    cases hr with
    | same r hne => exact h.same r
    | secret htext => exact h.write_secret (_, _)
    | raw htext =>
      obtain rfl := htext
      exact h.same (.writeRaw _)
    | log hcalls =>
      obtain rfl := hcalls
      exact h.same (.log _)
    | freshId => exact h.same .freshId

end Scripted

end EnquiryMail.Smtp

namespace EnquiryMail.Net

open EnquiryMail.Smtp
open Mail (Message)

/-! ## Networks -/

/-- the two texts of a pair as lines on the wire -/
def WireEvent.Shows (p : String × String) (e e' : WireEvent) : Prop :=
  ∃ layer, e = .wrote layer (p.1 ++ "\r\n") ∧ e' = .wrote layer (p.2 ++ "\r\n")

/-- two networks of the same surroundings, on which different secret lines may have been written -/
def Books.credentials (s t : Settings) : Books (.credentials s t) where
  wires := Redacted WireEvent.Shows
  worlds := Eq
  same e h := .same e h
  unwritten p h := .unwritten p h
  secret layer p h := .secret ⟨layer, rfl, rfl⟩ h
  raw layer htext h := by
    obtain rfl := htext
    exact .same _ h
  now h := h ▸ rfl
  anchor h s := h ▸ rfl
  jump h t := h ▸ rfl
  noted h c := h ▸ rfl
  logged hc h := by
    obtain rfl := hc
    rw [h]
  fresh h := by
    obtain rfl := h
    exact ⟨rfl, rfl⟩

/-- two networks before their first connection -/
theorem abreast_start {w : Leeway} (B : Books w) {v v' : World} (relays : List Relay) (hv : B.worlds v v')
    (hwires : B.wires [] [] []) :
    Network.Abreast B [] .unopened (Network.start v relays) (Network.start v' relays) :=
  Network.abreast_of_poised ⟨rfl, hwires, hv⟩ (Network.kept_start v relays) (Network.kept_start v' relays) rfl rfl
    (Network.dated_start v relays) (Network.dated_start v' relays)

/-! ## Credentials -/

section Discreet

variable {α ε σ : Type} (s t : Settings) (surroundings : σ → World) (doings : σ → List ε)
  (S : String × String → ε → ε → Prop)

/-- two runs that nothing but the secret lines tells apart; what they have done is listed newest first -/
structure Undisclosed (run run' : α × σ) : Prop where
  result : run.1 = run'.1
  world : surroundings run.2 = surroundings run'.2
  /-- whatever the settings of logging are, the lines written are the same -/
  lines : ∀ (j : Log.Journal) (offset : Int),
    j.lines offset (surroundings run.2).calls.reverse = j.lines offset (surroundings run'.2).calls.reverse
  /-- the secret lines are the user name and the password -/
  doings : Redacted S (s.secrets.zip t.secrets).reverse (doings run.2) (doings run'.2)

/-- over such channels neither deliveries nor tries disclose the credentials -/
structure Discreet (handle handle' : Script.Handler σ) (st : σ) : Prop where
  delivery : ∀ (m : Message) (offset : Int) (dating : Session.Dating), Undisclosed s t surroundings doings S
    ((sendMail s m offset dating).run handle st) ((sendMail t m offset dating).run handle' st)
  trial : Undisclosed s t surroundings doings S ((verifyRelay s).run handle st) ((verifyRelay t).run handle' st)

variable {s t surroundings doings S} {handle handle' : Script.Handler σ}
  {R : List (String × String) → Turn → σ → σ → Prop}

/-- sessions side by side over channels that keep to themselves which secret lines are written -/
theorem undisclosed_of_sustains (h : Sustains (.credentials s t) handle handle' R)
    (hR : ∀ ps ψ st st', R ps ψ st st' → surroundings st = surroundings st' ∧ Redacted S ps (doings st) (doings st'))
    {p q : Script (Except Failure α)} (hpq : Parallel (.credentials s t) (Both Eq) p q) {φ : Turn}
    (hp : Concludes φ p) (hq : Concludes φ q) {st st' : σ} (hst : R [] φ st st')
    (hsecrets : p.secrets handle st <+: s.secrets) (hsecrets' : q.secrets handle' st' <+: t.secrets) :
    Undisclosed s t surroundings doings S (p.run handle st) (q.run handle' st') := by
  obtain ⟨hresult, ψ, hψ⟩ := h.run hpq hp hq hst
  obtain ⟨hworld, hdone⟩ := hR _ _ _ _ hψ
  rw [List.append_nil] at hdone
  have hsuffix := List.reverse_suffix.2 (prefix_zip hsecrets hsecrets')
  exact ⟨eq_of_both hresult, hworld, fun j offset => by rw [hworld], hdone.of_suffix hsuffix⟩

theorem discreet_of_sustains {username password : String} (hs : s.problems = [])
    (ht : (s.signedAs username password).problems = [])
    (h : Sustains (.credentials s (s.signedAs username password)) handle handle' R)
    (hR : ∀ ps ψ st st', R ps ψ st st' → surroundings st = surroundings st' ∧ Redacted S ps (doings st) (doings st'))
    {st : σ} (hst : R [] .unopened st st) :
    Discreet s (s.signedAs username password) surroundings doings S handle handle' st where
  delivery m offset dating :=
    undisclosed_of_sustains h hR (parallel_credentials hs ht m offset dating) (concludes_sendMail s m offset dating)
      (concludes_sendMail _ m offset dating) hst (secrets_sendMail handle st s m offset dating)
      (secrets_sendMail handle' st _ m offset dating)
  trial :=
    undisclosed_of_sustains h hR (parallel_verifyRelay hs ht) (concludes_verifyRelay s) (concludes_verifyRelay _) hst
      (secrets_verifyRelay handle st s) (secrets_verifyRelay handle' st _)

end Discreet

/-- **Credentials show in two lines only.** With two user names and two passwords that can both be used, over a network
of any relays and over any scripted channel, deliveries and tries give the same result, leave the same surroundings with
the same log behind, and do the same but for the text of the lines with the user name and the password. -/
theorem credentials_undisclosed (s : Settings) (username password : String) (hs : s.problems = [])
    (ht : (s.signedAs username password).problems = []) :
    (∀ (w : World) (relays : List Relay), Discreet s (s.signedAs username password) Network.world Network.wire
      WireEvent.Shows (Network.handle s) (Network.handle (s.signedAs username password)) (Network.start w relays)) ∧
    ∀ c : Scripted, Discreet s (s.signedAs username password) Scripted.world Scripted.acts Scripted.Shows
      Scripted.handle Scripted.handle c := by
  constructor
  · intro w relays
    let books := Books.credentials s (s.signedAs username password)
    have hmasked : s.masked = (s.signedAs username password).masked := rfl
    refine discreet_of_sustains hs ht (Network.sustains_handle books hmasked) ?_ (abreast_start books relays rfl .nil)
    intro ps ψ n n' h
    exact ⟨h.alike.1.worlds, h.alike.1.wires⟩
  · intro c
    refine discreet_of_sustains hs ht (Scripted.sustains _ _) ?_ ⟨c.acts, rfl, ?_⟩
    · rintro ps ψ c c' ⟨acts, rfl, hacts⟩
      exact ⟨rfl, hacts⟩
    · exact .refl c.acts

set_option maxRecDepth 20000 in
/-- two users of one relay, which does not know the recipient -/
theorem credentials_undisclosed_unknownRecipient :
    let s := Settings.submission
    let t := s.signedAs "someone" "else"
    s.problems = [] ∧ t.problems = [] ∧
      Discreet s t Network.world Network.wire WireEvent.Shows (Network.handle s) (Network.handle t)
        (Network.start quietWorld [Relay.accepting]) ∧
      Discreet s t Scripted.world Scripted.acts Scripted.Shows Scripted.handle Scripted.handle
        Scripted.unknownRecipient ∧
      ((sendMail t dottedMessage 0 (.fixed (some 0))).run Scripted.handle Scripted.unknownRecipient).1 =
        .error (Failure.ofReply .recipientRejected "550 no such user") :=
  ⟨by decide, by decide,
    (credentials_undisclosed Settings.submission "someone" "else" (by decide) (by decide)).1 quietWorld
      [Relay.accepting],
    (credentials_undisclosed Settings.submission "someone" "else" (by decide) (by decide)).2
      Scripted.unknownRecipient,
    rfl⟩

end EnquiryMail.Net
