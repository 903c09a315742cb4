/-
Trying a relay out and delivering over it. Both sign in by the same plan, so over one channel they do the same up to
the reply to the password. If something deviates until then, both fail with the same failure; otherwise trying the
relay out tells what it offered under encryption and what it said to the password, says goodbye and closes.

- `Realises`: a handler whose channel behaves in a given way, whatever its surroundings are.
- `keeps_unique`: over one channel there is one way to keep to a plan.
- `keeps_handshake`: what has been done and read when all of a handshake went well.
- `verifyRelay_agrees`: what a try does and tells, by what a delivery over the same channel does.
-/
import EnquiryMail.Proofs.Session.Conformance
import EnquiryMail.Proofs.Text.Encodings

namespace EnquiryMail.Smtp

open Mail (Message)
open Script (Handler Runs transcript)

/-! ## One channel -/

section Channel

variable {σ κ : Type} {handle : Handler σ} {react : Handler κ} {Shows : σ → κ → Prop} {k : κ}
  {us us' vs : List Exchange}

/-- the channel of a handler behaves as `react` does, which sees the uses of the channel and nothing else; `Shows`
tells how far the channel is -/
structure Realises (handle : Handler σ) (react : Handler κ) (Shows : σ → κ → Prop) : Prop where
  reacts {r : Request} {st : σ} {k : κ} (hr : r.ofChannel = true) (h : Shows st k) :
    (handle r st).1 = (react r k).1 ∧ Shows (handle r st).2 (react r k).2
  stays {r : Request} {st : σ} {k : κ} (hr : r.ofChannel = false) (h : Shows st k) : Shows (handle r st).2 k

/-- the uses of a channel are answered as `react` answers them, one after another -/
inductive Answers (react : Handler κ) : κ → List Exchange → Prop
  | nil {k : κ} : Answers react k []
  | cons {k : κ} {e : Exchange} {us : List Exchange} (answer : e.answer = (react e.request k).1)
      (rest : Answers react (react e.request k).2 us) : Answers react k (e :: us)

theorem Answers.answer {e : Exchange} (h : Answers react k (e :: us)) : e.answer = (react e.request k).1 := by
  cases h with
  | cons answer _ => exact answer

theorem Answers.rest {e : Exchange} (h : Answers react k (e :: us)) : Answers react (react e.request k).2 us := by
  cases h with
  | cons _ rest => exact rest

theorem Realises.transcript {α : Type} (h : Realises handle react Shows) (p : Script α) {st : σ} (hst : Shows st k) :
    Answers react k (uses (transcript handle p st)) := by
  induction p generalizing st k with
  | done a => exact .nil
  | ask r next ih =>
    rw [Script.transcript]
    cases hr : r.ofChannel with
    | false =>
      rw [uses_cons_of_not_channel _ hr]
      exact ih _ (h.stays hr hst)
    | true =>
      rw [uses_cons_of_channel _ hr]
      obtain ⟨hanswer, hshows⟩ := h.reacts hr hst
      exact .cons hanswer (ih _ hshows)

theorem Answers.left (h : Answers react k (us ++ vs)) : Answers react k us := by
  induction us generalizing k with
  | nil => exact .nil
  | cons e us ih => exact .cons h.answer (ih h.rest)

/-- **Over one channel there is one way to keep to a plan.** -/
theorem keeps_unique {plan : List Stage} {o o' : Option Failure} (h : Keeps plan us o) (h' : Keeps plan us' o')
    (hk : Answers react k us) (hk' : Answers react k us') : us = us' ∧ o = o' := by
  induction h generalizing us' o' k with
  | through =>
    cases h'
    exact ⟨rfl, rfl⟩
  | cut hx =>
    cases h' with
    | cut hy =>
      obtain rfl := hk.answer.trans hk'.answer.symm
      exact ⟨rfl, hx.symm.trans hy⟩
    | next hy hrest =>
      obtain rfl := hk.answer.trans hk'.answer.symm
      cases hx.symm.trans hy
  | next hx hrest ih =>
    cases h' with
    | cut hy =>
      obtain rfl := hk.answer.trans hk'.answer.symm
      cases hx.symm.trans hy
    | next hy hrest' =>
      obtain rfl := hk.answer.trans hk'.answer.symm
      obtain ⟨rfl, rfl⟩ := ih hrest' hk.rest hk'.rest
      exact ⟨rfl, rfl⟩

end Channel

/-! ## Parts of plans -/

/-- a plan in two parts is left in the first one, or the first one is gone through -/
theorem Keeps.parts {plan more : List Stage} {us : List Exchange} {o : Option Failure} (h : Keeps (plan ++ more) us o) :
    (∃ f, o = some f ∧ Keeps plan us (some f)) ∨
      ∃ us₁ us₂, us = us₁ ++ us₂ ∧ Keeps plan us₁ none ∧ Keeps more us₂ o := by
  induction plan generalizing us with
  | nil => exact .inr ⟨[], us, rfl, .through, h⟩
  | cons stage plan ih =>
    cases h with
    | cut hx => exact .inl ⟨_, rfl, .cut hx⟩
    | next hx hrest =>
      rcases ih hrest with ⟨f, rfl, hf⟩ | ⟨us₁, us₂, rfl, h₁, h₂⟩
      · exact .inl ⟨f, rfl, .next hx hf⟩
      · exact .inr ⟨_ :: us₁, us₂, rfl, .next hx h₁, h₂⟩

section Through

variable {rest : List Stage} {us : List Exchange}

theorem through_line {text : String} {secret : Bool} (h : Keeps (.line text secret :: rest) us none) :
    ∃ us', us = ⟨.writeLine text secret, .ok ()⟩ :: us' ∧ Keeps rest us' none := by
  cases h with
  | @next _ _ x us' _ hx hrest =>
    cases x with
    | error m => cases hx
    | ok u => exact ⟨us', rfl, hrest⟩

theorem through_anyReply (h : Keeps (.anyReply :: rest) us none) :
    ∃ r us', us = ⟨.read, .ok r⟩ :: us' ∧ Keeps rest us' none := by
  cases h with
  | @next _ _ x us' _ hx hrest =>
    cases x with
    | error m => cases hx
    | ok r => exact ⟨r, us', rfl, hrest⟩

theorem through_reply {code : String} {kind : FailureKind} (h : Keeps (.reply code kind :: rest) us none) :
    ∃ r us', us = ⟨.read, .ok r⟩ :: us' ∧ Keeps rest us' none := by
  cases h with
  | @next _ _ x us' _ hx hrest =>
    cases x with
    | error m => cases hx
    | ok r => exact ⟨r, us', rfl, hrest⟩

theorem through_upgrade (h : Keeps (.upgrade :: .encrypted :: rest) us none) :
    ∃ us', us = ⟨.startTls, .ok ()⟩ :: ⟨.isSecure, true⟩ :: us' ∧ Keeps rest us' none := by
  cases h with
  | @next _ _ x us₁ _ hx h₁ =>
    cases x with
    | error m => cases hx
    | ok u =>
      cases h₁ with
      | @next _ _ y us' _ hy hrest =>
        cases y with
        | false => cases hy
        | true => exact ⟨us', rfl, hrest⟩

end Through

/-- what is done from the greeting to the password, with the replies read -/
def Plan.signedIn (s : Settings) (greeting plain go offer login username answer : Reply) : List Exchange :=
  [⟨.read, .ok greeting⟩,
    ⟨.writeLine ("EHLO " ++ s.ehloDomain) false, .ok ()⟩, ⟨.read, .ok plain⟩,
    ⟨.writeLine "STARTTLS" false, .ok ()⟩, ⟨.read, .ok go⟩,
    ⟨.startTls, .ok ()⟩, ⟨.isSecure, true⟩,
    ⟨.writeLine ("EHLO " ++ s.ehloDomain) false, .ok ()⟩, ⟨.read, .ok offer⟩,
    ⟨.writeLine "AUTH LOGIN" false, .ok ()⟩, ⟨.read, .ok login⟩,
    ⟨.writeLine (base64 s.username) true, .ok ()⟩, ⟨.read, .ok username⟩,
    ⟨.writeLine (base64 s.password) true, .ok ()⟩, ⟨.read, .ok answer⟩]

theorem keeps_handshake {s : Settings} {us : List Exchange} (h : Keeps (Plan.handshake s) us none) :
    ∃ greeting plain go offer login username answer,
      us = Plan.signedIn s greeting plain go offer login username answer := by
  obtain ⟨greeting, us₁, rfl, h₁⟩ := through_reply h
  obtain ⟨us₂, rfl, h₂⟩ := through_line h₁
  obtain ⟨plain, us₃, rfl, h₃⟩ := through_anyReply h₂
  obtain ⟨us₄, rfl, h₄⟩ := through_line h₃
  obtain ⟨go, us₅, rfl, h₅⟩ := through_reply h₄
  obtain ⟨us₆, rfl, h₆⟩ := through_upgrade h₅
  obtain ⟨us₇, rfl, h₇⟩ := through_line h₆
  obtain ⟨offer, us₈, rfl, h₈⟩ := through_anyReply h₇
  obtain ⟨us₉, rfl, h₉⟩ := through_line h₈
  obtain ⟨login, us₁₀, rfl, h₁₀⟩ := through_reply h₉
  obtain ⟨us₁₁, rfl, h₁₁⟩ := through_line h₁₀
  obtain ⟨username, us₁₂, rfl, h₁₂⟩ := through_reply h₁₁
  obtain ⟨us₁₃, rfl, h₁₃⟩ := through_line h₁₂
  obtain ⟨answer, us₁₄, rfl, h₁₄⟩ := through_reply h₁₃
  cases h₁₄
  exact ⟨greeting, plain, go, offer, login, username, answer, rfl⟩

/-! ## What a try never asks for -/

/-- a request that only a delivery makes -/
def Request.ofDelivery : Request → Prop
  | .writeRaw _ => True
  | .writeLine text _ => "MAIL FROM:".toList <+: text.toList ∨ "RCPT TO:".toList <+: text.toList ∨ text = "DATA"
  | _ => False

theorem not_ofDelivery_of_not_channel {r : Request} (h : r.ofChannel = false) : ¬ r.ofDelivery := by
  cases r <;> first | exact id | cases h

/-- the letters would stand for octets that are no text -/
theorem base64_ne_data (s : String) : base64 s ≠ "DATA" := by
  intro h
  have hletters : Text.Base64.encode (utf8 s) = "DATA".toList := by rw [← h, base64, String.toList_ofList]
  have hoctets : utf8 s = [12, 4, 192] := by
    rw [← Text.Base64.decode_encode (utf8 s), hletters]
    decide
  have htext : s.toList = Text.Utf8.decode [12, 4, 192] := by rw [← hoctets, utf8, Text.Utf8.decode_encode]
  rw [utf8, htext] at hoctets
  exact absurd hoctets (by decide)

theorem colon_not_mem_base64 (s : String) : ':' ∉ (base64 s).toList := by
  rw [base64, String.toList_ofList]
  intro h
  rcases Text.Base64.mem_encode h with hletter | hpad
  · exact absurd hletter (by decide)
  · exact absurd hpad (by decide)

theorem not_ofDelivery_greeting (domain : String) (secret : Bool) :
    ¬ (Request.writeLine ("EHLO " ++ domain) secret).ofDelivery := by
  rintro (⟨rest, h⟩ | ⟨rest, h⟩ | h)
  · rw [String.toList_append] at h
    cases h
  · rw [String.toList_append] at h
    cases h
  · have hlist := congrArg String.toList h
    rw [String.toList_append] at hlist
    cases hlist

theorem not_ofDelivery_word {text : String} (hcolon : ':' ∉ text.toList) (hdata : text ≠ "DATA") (secret : Bool) :
    ¬ (Request.writeLine text secret).ofDelivery := by
  rintro (h | h | h)
  · exact hcolon (h.subset (by decide))
  · exact hcolon (h.subset (by decide))
  · exact hdata h

/-- **No request of a try** is one of a delivery. -/
theorem not_ofDelivery_handshake (s : Settings) :
    ∀ r ∈ Request.openChannel :: (Plan.requests (Plan.handshake s) ++ [.close]), ¬ r.ofDelivery := by
  have hgreeting := not_ofDelivery_greeting s.ehloDomain false
  have hstart : ¬ (Request.writeLine "STARTTLS" false).ofDelivery := not_ofDelivery_word (by decide) (by decide) _
  have hauth : ¬ (Request.writeLine "AUTH LOGIN" false).ofDelivery := not_ofDelivery_word (by decide) (by decide) _
  have husername := not_ofDelivery_word (colon_not_mem_base64 s.username) (base64_ne_data s.username) true
  have hpassword := not_ofDelivery_word (colon_not_mem_base64 s.password) (base64_ne_data s.password) true
  have hquit : ¬ (Request.writeLine "QUIT" false).ofDelivery := not_ofDelivery_word (by decide) (by decide) _
  simp only [Plan.requests, Plan.handshake, Stage.reply, Stage.line, Stage.anyReply, Stage.upgrade, Stage.encrypted,
    List.map_cons, List.map_nil, List.cons_append, List.nil_append, List.forall_mem_cons]
  exact ⟨id, id, hgreeting, id, hstart, id, id, id, hgreeting, id, hauth, id, husername, id, hpassword, id, hquit, id,
    id, List.forall_mem_nil _⟩

theorem not_ofDelivery_verifyRelay {s : Settings} {tr : List Exchange} {out : Except Failure Acceptance}
    (h : Runs (verifyRelay s) tr out) : ∀ e ∈ tr, ¬ e.request.ofDelivery := by
  intro e he
  cases hch : e.request.ofChannel with
  | false => exact not_ofDelivery_of_not_channel hch
  | true =>
    have hmem : e.request ∈ (uses tr).map Exchange.request := List.mem_map_of_mem (List.mem_filter.2 ⟨he, hch⟩)
    rcases runs_verifyRelay h with ⟨f, -, huses, -⟩ | ⟨-, hover⟩
    · rw [huses] at hmem
      cases hmem
    · have hsub := hover.requests fun us out hin => hin.requests
      exact not_ofDelivery_handshake s _ (hsub.subset hmem)

/-! ## The two sessions -/

/-- a session over a channel that was opened -/
def overOpen (us : List Exchange) : List Exchange := ⟨.openChannel, .ready⟩ :: us ++ [⟨.close, ()⟩]

/-- what a delivery and a try over the same channel do and give -/
inductive Agreement (s : Settings) :
    List Exchange → Except Failure Receipt → List Exchange → Except Failure Acceptance → Prop
  /-- the settings are of no use, and nothing is asked of the channel -/
  | unusable {f : Failure} (h : preflight s = some f) : Agreement s [] (.error f) [] (.error f)
  /-- there is no channel -/
  | unopened {x : Opening} {f : Failure} (h : x ≠ .ready) :
      Agreement s [⟨.openChannel, x⟩] (.error f) [⟨.openChannel, x⟩] (.error f)
  /-- the first answer that deviates is the reply to the password or an earlier one -/
  | cut {us : List Exchange} {f : Failure} (h : Keeps (Plan.handshake s) us (some f)) :
      Agreement s (overOpen us) (.error f) (overOpen us) (.error f)
  /-- nothing deviates until then, and the try tells what was offered under encryption -/
  | accepted {more vs : List Exchange} {out : Except Failure Receipt}
      {greeting plain go offer login username answer : Reply}
      (h : Keeps (Plan.handshake s) (Plan.signedIn s greeting plain go offer login username answer) none)
      (hleft : Farewell vs) :
      Agreement s (overOpen (Plan.signedIn s greeting plain go offer login username answer ++ more)) out
        (overOpen (Plan.signedIn s greeting plain go offer login username answer ++ vs))
        (.ok ⟨offer.capabilities, answer.text⟩)

/-- a delivery over an open channel leaves the handshake, or goes through it -/
theorem Delivered.handshake {s : Settings} {m : Message} {dating : Session.Dating}
    {composed : Option (String × String)} {us : List Exchange} {out : Except Failure Receipt}
    (h : Delivered s m dating composed us out) :
    (∃ f, out = .error f ∧ Keeps (Plan.handshake s) us (some f)) ∨
      ∃ us₁ us₂, us = us₁ ++ us₂ ∧ Keeps (Plan.handshake s) us₁ none := by
  have hparts {us : List Exchange} {o : Option Failure} (hk : Keeps (Plan.delivery s m composed) us o) :
      (∃ f, o = some f ∧ Keeps (Plan.handshake s) us (some f)) ∨
        ∃ us₁ us₂, us = us₁ ++ us₂ ∧ Keeps (Plan.handshake s) us₁ none := by
    rw [Plan.delivery_handshake] at hk
    rcases hk.parts with hcut | ⟨us₁, us₂, rfl, h₁, -⟩
    · exact .inl hcut
    · exact .inr ⟨us₁, us₂, rfl, h₁⟩
  rcases h.keeps with ⟨f, hk, rfl⟩ | ⟨hk, -⟩ | ⟨ws, vs, id, payload, r, rfl, hk, -⟩
  · rcases hparts hk with ⟨f, hf, hcut⟩ | hthrough
    · cases hf
      exact .inl ⟨_, rfl, hcut⟩
    · exact .inr hthrough
  · rcases hparts hk with ⟨f, hf, -⟩ | hthrough
    · cases hf
    · exact .inr hthrough
  · rcases hparts hk with ⟨f, hf, -⟩ | ⟨us₁, us₂, rfl, h₁⟩
    · cases hf
    · exact .inr ⟨us₁, us₂ ++ _, List.append_assoc .., h₁⟩

variable {κ : Type} {react : Handler κ} {k : κ}

/-- over an open channel the two sessions agree -/
theorem agreement_overOpen {s : Settings} {m : Message} {dating : Session.Dating}
    {composed : Option (String × String)} {us us' : List Exchange} {out : Except Failure Receipt}
    {out' : Except Failure Acceptance} (h : Delivered s m dating composed us out) (h' : SignedIn s us' out')
    (hk : Answers react k us) (hk' : Answers react k us') :
    Agreement s (overOpen us) out (overOpen us') out' := by
  rcases h.handshake with ⟨f, rfl, hcut⟩ | ⟨us₁, more, rfl, h₁⟩
  · cases h' with
    | cut hcut' =>
      obtain ⟨rfl, ho⟩ := keeps_unique hcut hcut' hk hk'
      cases ho
      exact .cut hcut
    | accepted h₂ ha hv =>
      cases (keeps_unique hcut h₂ hk hk'.left).2
  · cases h' with
    | cut hcut' =>
      cases (keeps_unique h₁ hcut' hk.left hk').2
    | accepted h₂ ha hv =>
      obtain ⟨rfl, -⟩ := keeps_unique h₁ h₂ hk.left hk'.left
      obtain ⟨greeting, plain, go, offer, login, username, answer, rfl⟩ := keeps_handshake h₁
      obtain ⟨_, _, _, _, _, _, _, hreplies, rfl⟩ := ha
      cases hreplies
      exact .accepted h₁ hv

/-- the same opening, and then the same over the channel -/
theorem agreement_overChannel {s : Settings} {m : Message} {dating : Session.Dating}
    {composed : Option (String × String)} {us us' : List Exchange} {out : Except Failure Receipt}
    {out' : Except Failure Acceptance} (h : OverChannel (Delivered s m dating composed) us out)
    (h' : OverChannel (SignedIn s) us' out') (hk : Answers react k us) (hk' : Answers react k us') :
    Agreement s us out us' out' := by
  cases h with
  | refused message =>
    cases h' with
    | refused message' =>
      cases hk.answer.trans hk'.answer.symm
      exact .unopened nofun
    | absent => cases hk.answer.trans hk'.answer.symm
    | closed _ => cases hk.answer.trans hk'.answer.symm
  | absent =>
    cases h' with
    | refused message' => cases hk.answer.trans hk'.answer.symm
    | absent => exact .unopened nofun
    | closed _ => cases hk.answer.trans hk'.answer.symm
  | closed hduring =>
    cases h' with
    | refused message' => cases hk.answer.trans hk'.answer.symm
    | absent => cases hk.answer.trans hk'.answer.symm
    | closed hduring' => exact agreement_overOpen hduring hduring' hk.rest.left hk'.rest.left

theorem agreement_runs {s : Settings} {m : Message} {offset : Int} {dating : Session.Dating} {tr tr' : List Exchange}
    {out : Except Failure Receipt} {out' : Except Failure Acceptance} (h : Runs (sendMail s m offset dating) tr out)
    (h' : Runs (verifyRelay s) tr' out') (hm : m.problems = []) (hk : Answers react k (uses tr))
    (hk' : Answers react k (uses tr')) : Agreement s (uses tr) out (uses tr') out' := by
  rcases runs_verifyRelay h' with ⟨f, hf, huses', rfl⟩ | ⟨hf, hover'⟩
  · rcases runs_sendMail h with ⟨f', hf', huses, rfl⟩ | ⟨hf', -⟩
    · rw [hf] at hf'
      cases hf'
      rw [huses, huses']
      exact .unusable hf
    · rw [hf] at hf'
      cases hf'
  · rcases runs_sendMail h with ⟨f', hf', -⟩ | ⟨-, hover⟩
    · rw [hf, refusal_eq_none hm] at hf'
      cases hf'
    · exact agreement_overChannel hover hover' hk hk'

/-- **A try agrees with a delivery.** Over the same channel, whatever it answers and whatever the surroundings of the
two sessions are: when the delivery of a valid message fails until the reply to the password, the try does the same and
fails with the same failure; otherwise it does the same until then, says goodbye and closes, and tells what the relay
offered under encryption and said to the password. In no case does it ask for anything that belongs to a delivery. -/
theorem verifyRelay_agrees {σ : Type} {handle : Handler σ} {Shows : σ → κ → Prop}
    (hchannel : Realises handle react Shows) {st st' : σ} (hst : Shows st k) (hst' : Shows st' k) (s : Settings)
    (m : Message) (hm : m.problems = []) (offset : Int) (dating : Session.Dating) :
    let delivery := sendMail s m offset dating
    let trial := verifyRelay s
    Agreement s (uses (transcript handle delivery st)) (delivery.run handle st).1
      (uses (transcript handle trial st')) (trial.run handle st').1 ∧
    ∀ e ∈ transcript handle trial st', ¬ e.request.ofDelivery := by
  intro delivery trial
  exact ⟨agreement_runs (Script.runs_transcript handle delivery st) (Script.runs_transcript handle trial st') hm
      (hchannel.transcript delivery hst) (hchannel.transcript trial hst'),
    not_ofDelivery_verifyRelay (Script.runs_transcript handle trial st')⟩

/-- a scripted channel but for what it took down and for its surroundings -/
def Scripted.Unrecorded (c k : Scripted) : Prop := ∃ acts world, k = { c with acts, world }

theorem Scripted.unrecorded_self (c : Scripted) : Unrecorded c c := ⟨c.acts, c.world, rfl⟩

/-- what was taken down and the surroundings do not matter to a scripted channel -/
theorem Scripted.realises : Realises handle handle Unrecorded where
  reacts {r c k} hr h := by
    obtain ⟨acts, world, rfl⟩ := h
    have hwrite (a : Act) : (c.write a).1 = (write { c with acts, world } a).1 ∧
        Unrecorded (c.write a).2 (write { c with acts, world } a).2 := by
      simp only [write]
      split <;> (try split) <;> exact ⟨rfl, _, _, rfl⟩
    cases r with
    | read => simp only [handle]; split <;> exact ⟨rfl, _, _, rfl⟩
    | writeLine text secret => exact hwrite _
    | writeRaw text => exact hwrite _
    | startTls => simp only [handle, record]; split <;> exact ⟨rfl, _, _, rfl⟩
    | log call => cases hr
    | clock => cases hr
    | freshId => cases hr
    | _ => exact ⟨rfl, _, _, rfl⟩
  stays {r c k} hr h := by
    obtain ⟨acts, world, rfl⟩ := h
    cases r <;> first | exact ⟨_, _, rfl⟩ | cases hr

set_option maxRecDepth 20000 in
/-- the relay takes the credentials but does not know the recipient -/
theorem verifyRelay_agrees_unknownRecipient :
    dottedMessage.problems = [] ∧
      (let delivery := sendMail Settings.submission dottedMessage 0 (.fixed (some 0))
      let trial := verifyRelay Settings.submission
      let c := Scripted.unknownRecipient
      (Agreement Settings.submission (uses (transcript Scripted.handle delivery c)) (delivery.run Scripted.handle c).1
          (uses (transcript Scripted.handle trial c)) (trial.run Scripted.handle c).1 ∧
        ∀ e ∈ transcript Scripted.handle trial c, ¬ e.request.ofDelivery) ∧
      (trial.run Scripted.handle c).1 = .ok ⟨["AUTH LOGIN"], "235 welcome"⟩) :=
  ⟨by decide,
    verifyRelay_agrees Scripted.realises (Scripted.unrecorded_self _) (Scripted.unrecorded_self _) Settings.submission
      dottedMessage (by decide) 0 (.fixed (some 0)),
    rfl⟩

end EnquiryMail.Smtp
