/-
Submissions over any courier. What the service does is the same whoever carries its mail: it answers at once, or tries
each recipient in order and answers by what came of that.

- `Answered`, `answered_submit`: the ways a submission goes.
- `failures_deliver`: a delivery that is told to have failed is one that the courier was handed and gave up.
- `Courier.noting`, `deliver_noting`, `submit_noting`: noting what a courier is handed leaves the rest as it is.
-/
import EnquiryMail.Proofs.Enquiry.FanOut

namespace EnquiryMail.Enquiry

open Mail (Message)

variable {σ : Type} (courier : Courier σ) (s : Settings)

/-! ## The ways a submission goes -/

/-- the answer to a submission whose recipients have been tried -/
def concluded (company : String) : Except Thrown (List String × List Undelivered) × σ → Except Thrown Outcome × σ
  | (.error thrown, st) => (.error thrown, st)
  | (.ok (delivered, []), st) =>
    (.ok (.sent delivered), courier.log (Log.call component .info ("Enquiry from " ++ company ++ " delivered")
      [("recipients", .nat delivered.length)]) st)
  | (.ok (_, failures), st) => (.ok (.failed (unavailable s) failures), st)

/-- how a submission is answered, and the state behind it -/
inductive Answered (submission : Submission) (st : σ) : Except Thrown Outcome × σ → Prop
  /-- the hidden field is filled in -/
  | discarded : submission.website ≠ "" → Answered submission st
      (.ok .discarded, courier.log (Log.call component .info "Honeypot field filled; enquiry discarded" []) st)
  /-- guard or form find something -/
  | rejected : submission.website = "" → found s submission (courier.world st).now ≠ [] → Answered submission st
      (.ok (.rejected (found s submission (courier.world st).now)), courier.log (Log.call component .debug
        "Enquiry rejected" [("errors", .nat (found s submission (courier.world st).now).length)]) st)
  /-- every recipient is tried -/
  | tried : submission.website = "" → found s submission (courier.world st).now = [] → Answered submission st
      (concluded courier s submission.company (deliver courier s submission.enquiry s.recipients st))

/-- **A submission goes one of these ways.** -/
theorem answered_submit (input : Json) (st : σ) :
    Answered courier s (Submission.read input) st (submit courier s input st) := by
  have hbot := guard_bot (Submission.read input) s.minFillSeconds (some (courier.world st).now)
  unfold submit
  dsimp only
  by_cases hwebsite : (Submission.read input).website = ""
  · rw [if_neg (by simp [hbot, hwebsite])]
    split
    · rename_i hnone
      exact .tried hwebsite hnone
    · rename_i hsome
      exact .rejected hwebsite hsome
  · rw [if_pos (by simp [hbot, hwebsite])]
    exact .discarded hwebsite

/-! ## Deliveries -/

theorem map_eq_ok {ε α β : Type} {f : α → β} {x : Except ε α} {b : β} : x.map f = .ok b ↔ ∃ a, x = .ok a ∧ f a = b := by
  cases x <;> simp [Except.map]

theorem isOk_map {ε α β : Type} (f : α → β) (x : Except ε α) : (x.map f).isOk = x.isOk := by
  cases x <;> rfl

/-- **A failure that is told** is one that the courier gave for the mail to that recipient. -/
theorem failures_deliver {e : Enquiry} {recipients : List String} {st : σ} {delivered : List String}
    {failures : List Undelivered} (h : (deliver courier s e recipients st).1 = .ok (delivered, failures)) :
    ∀ f ∈ failures, f.recipient ∈ recipients ∧
      ∃ st', (courier.send (mailTo s e f.recipient) st').1 = .ok (.error f.failure) := by
  induction recipients generalizing st delivered failures with
  | nil =>
    cases h
    exact List.forall_mem_nil _
  | cons recipient rest ih =>
    have hrest : ∀ {r st'}, (deliver courier s e rest st').1 = .ok r → ∀ f ∈ r.2, f.recipient ∈ recipient :: rest ∧
        ∃ st', (courier.send (mailTo s e f.recipient) st').1 = .ok (.error f.failure) := by
      intro r st' hr f hf
      obtain ⟨hmem, hsend⟩ := ih hr f hf
      exact ⟨List.mem_cons_of_mem _ hmem, hsend⟩
    rw [deliver] at h
    split at h
    · cases h
    · obtain ⟨r, hr, hpair⟩ := map_eq_ok.1 h
      cases hpair
      exact hrest hr
    · rename_i failure st' hsend
      obtain ⟨r, hr, hpair⟩ := map_eq_ok.1 h
      cases hpair
      refine List.forall_mem_cons.2 ⟨⟨List.mem_cons_self, st, ?_⟩, hrest hr⟩
      rw [hsend]

/-! ## Mails handed over -/

/-- a courier that notes what it is handed, oldest first -/
def Courier.noting (courier : Courier σ) : Courier (σ × List Message) where
  send m st := ((courier.send m st.1).1, (courier.send m st.1).2, st.2 ++ [m])
  world st := courier.world st.1
  update f st := (courier.update f st.1, st.2)

/-- **The mails of deliveries** go to the recipients in order, to all of them unless something is thrown; noting them
changes nothing else. -/
theorem deliver_noting (e : Enquiry) (recipients : List String) (st : σ) (mails : List Message) :
    ∃ tried, tried <+: recipients ∧
      deliver courier.noting s e recipients (st, mails) =
        ((deliver courier s e recipients st).1, (deliver courier s e recipients st).2,
          mails ++ tried.map (mailTo s e)) ∧
      ((deliver courier s e recipients st).1.isOk = true → tried = recipients) := by
  induction recipients generalizing st mails with
  | nil => exact ⟨[], List.prefix_rfl, by simp [deliver], fun _ => rfl⟩
  | cons recipient rest ih =>
    -- what is behind the first mail, and how the rest of the deliveries is put behind its result
    have hbehind : ∀ (st' : σ) (f : List String × List Undelivered → List String × List Undelivered),
        ∃ tried, tried <+: recipient :: rest ∧
          ((deliver courier.noting s e rest (st', mails ++ [mailTo s e recipient])).1.map f,
            (deliver courier.noting s e rest (st', mails ++ [mailTo s e recipient])).2) =
            ((deliver courier s e rest st').1.map f, (deliver courier s e rest st').2,
              mails ++ tried.map (mailTo s e)) ∧
          (((deliver courier s e rest st').1.map f).isOk = true → tried = recipient :: rest) := by
      intro st' f
      obtain ⟨tried, hfront, hdeliver, hall⟩ := ih st' (mails ++ [mailTo s e recipient])
      refine ⟨recipient :: tried, List.cons_prefix_cons.2 ⟨rfl, hfront⟩, ?_, ?_⟩
      · rw [hdeliver, List.append_assoc]
        rfl
      · intro hok
        rw [isOk_map] at hok
        rw [hall hok]
    rw [deliver, deliver]
    have hnoted : courier.noting.send (mailTo s e recipient) (st, mails) =
        ((courier.send (mailTo s e recipient) st).1, (courier.send (mailTo s e recipient) st).2,
          mails ++ [mailTo s e recipient]) := rfl
    rw [hnoted]
    obtain ⟨thrown | failure | receipt, st'⟩ := courier.send (mailTo s e recipient) st
    · refine ⟨[recipient], ?_, rfl, ?_⟩
      · simp
      · rintro ⟨⟩
    · exact hbehind _ _
    · exact hbehind _ _

theorem isOk_concluded (company : String) (run : Except Thrown (List String × List Undelivered) × σ) :
    (concluded courier s company run).1.isOk = run.1.isOk := by
  fun_cases concluded <;> rfl

/-- failures that are told are those of the deliveries -/
theorem concluded_failed {company text : String} {failures : List Undelivered}
    {run : Except Thrown (List String × List Undelivered) × σ}
    (h : (concluded courier s company run).1 = .ok (.failed text failures)) :
    ∃ delivered, run.1 = .ok (delivered, failures) := by
  revert h
  fun_cases concluded with
  | case1 => exact fun h => nomatch h
  | case2 => exact fun h => nomatch h
  | case3 delivered failures' =>
    intro h
    cases h
    exact ⟨delivered, rfl⟩

/-- answering notes nothing -/
theorem concluded_noting (company : String) (result : Except Thrown (List String × List Undelivered)) (st : σ)
    (mails : List Message) :
    concluded courier.noting s company (result, st, mails) =
      ((concluded courier s company (result, st)).1, (concluded courier s company (result, st)).2, mails) := by
  rcases result with thrown | ⟨delivered, _ | ⟨failure, failures⟩⟩ <;> rfl

/-- guard and form have nothing against a submission at a time -/
structure Submission.Taken (submission : Submission) (s : Settings) (now : Time.Instant) : Prop where
  unfilled : submission.website = ""
  unfaulted : found s submission now = []

/-- **The mails of a submission**: none unless guard and form have nothing against it, and else those of its
deliveries; noting them changes nothing else. -/
theorem submit_noting (input : Json) (st : σ) :
    ∃ tried, tried <+: s.recipients ∧
      submit courier.noting s input (st, []) =
        ((submit courier s input st).1, (submit courier s input st).2,
          tried.map (mailTo s (Submission.read input).enquiry)) ∧
      (¬ (Submission.read input).Taken s (courier.world st).now → tried = []) ∧
      ((Submission.read input).Taken s (courier.world st).now → (submit courier s input st).1.isOk = true →
        tried = s.recipients) := by
  have hnoted := answered_submit courier.noting s input (st, [])
  have hplain := answered_submit courier s input st
  generalize submit courier.noting s input (st, []) = noted at hnoted
  generalize submit courier s input st = plain at hplain
  cases hplain with
  | discarded hfilled =>
    have hnot : ¬ (Submission.read input).Taken s (courier.world st).now := fun h => hfilled h.unfilled
    cases hnoted with
    | discarded _ => exact ⟨[], List.nil_prefix, rfl, fun _ => rfl, fun h => absurd h hnot⟩
    | rejected hempty _ => exact absurd hempty hfilled
    | tried hempty _ => exact absurd hempty hfilled
  | rejected hempty hfound =>
    have hnot : ¬ (Submission.read input).Taken s (courier.world st).now := fun h => hfound h.unfaulted
    cases hnoted with
    | discarded hfilled => exact absurd hempty hfilled
    | rejected _ _ => exact ⟨[], List.nil_prefix, rfl, fun _ => rfl, fun h => absurd h hnot⟩
    | tried _ hnone => exact absurd hnone hfound
  | tried hempty hnone =>
    have htaken : (Submission.read input).Taken s (courier.world st).now := ⟨hempty, hnone⟩
    cases hnoted with
    | discarded hfilled => exact absurd hempty hfilled
    | rejected _ hfound => exact absurd hnone hfound
    | tried _ _ =>
      obtain ⟨tried, hfront, hdeliver, hall⟩ :=
        deliver_noting courier s (Submission.read input).enquiry s.recipients st []
      refine ⟨tried, hfront, ?_, fun h => absurd htaken h, fun _ hok => hall ?_⟩
      · rw [hdeliver, concluded_noting]
        rfl
      · rwa [isOk_concluded] at hok

end EnquiryMail.Enquiry
