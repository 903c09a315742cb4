/-
Transcripts of sessions: what a session asks for and what it is answered, in order. `Runs` lists the transcripts that
a session may have when any answers may come back; a run over a handler has one of them (`runs_transcript`). Whatever
holds of all transcripts therefore holds over every channel.

- `runs_bind`: the transcript of a composed session is that of its parts, one behind the other.
- `Step.runs_bind`: a step that fails ends the transcript, any other is followed by that of the next step.
- `uses_append`, `replies_append`: the uses of the channel and the replies read, part by part.
-/
import Mathlib.Tactic
import EnquiryMail.Smtp.Script

namespace EnquiryMail.Smtp

/-- a request and the answer to it -/
structure Exchange where
  request : Request
  answer : request.Answer

/-- the request is one to the channel; the others go to the surroundings -/
def Request.ofChannel : Request → Bool
  | .log _ | .clock | .freshId => false
  | _ => true

/-- the part of a transcript that concerns the channel -/
def uses (tr : List Exchange) : List Exchange := tr.filter (·.request.ofChannel)

/-- the request takes something from the surroundings: the time or an identifier -/
def Request.ofSurroundings : Request → Bool
  | .clock | .freshId => true
  | _ => false

/-- what a transcript takes from the surroundings -/
def takings (tr : List Exchange) : List Exchange := tr.filter (·.request.ofSurroundings)

/-- the reply that an exchange brought, if it brought one -/
def Exchange.reply? : Exchange → Option Reply
  | ⟨.read, .ok reply⟩ => some reply
  | _ => none

/-- the replies read -/
def replies (tr : List Exchange) : List Reply := tr.filterMap Exchange.reply?

theorem uses_append (a b : List Exchange) : uses (a ++ b) = uses a ++ uses b := List.filter_append ..

theorem uses_cons (e : Exchange) (tr : List Exchange) : uses (e :: tr) = uses [e] ++ uses tr := uses_append [e] tr

theorem takings_append (a b : List Exchange) : takings (a ++ b) = takings a ++ takings b := List.filter_append ..

theorem replies_append (a b : List Exchange) : replies (a ++ b) = replies a ++ replies b := List.filterMap_append ..

theorem reply?_of_not_channel {e : Exchange} (h : e.request.ofChannel = false) : e.reply? = none := by
  obtain ⟨r, x⟩ := e
  cases r <;> first | rfl | simp [Request.ofChannel] at h

theorem uses_cons_of_channel {e : Exchange} (tr : List Exchange) (h : e.request.ofChannel = true) :
    uses (e :: tr) = e :: uses tr := List.filter_cons_of_pos h

theorem uses_cons_of_not_channel {e : Exchange} (tr : List Exchange) (h : e.request.ofChannel = false) :
    uses (e :: tr) = uses tr := List.filter_cons_of_neg (by simp [h])

theorem takings_cons_of_channel {e : Exchange} (tr : List Exchange) (h : e.request.ofChannel = true) :
    takings (e :: tr) = takings tr := by
  obtain ⟨r, x⟩ := e
  cases r <;> first | rfl | cases h

/-- what is gathered from uses of the channel only is gathered from them -/
theorem filterMap_uses {β : Type} {f : Exchange → Option β} (hf : ∀ e, e.request.ofChannel = false → f e = none)
    (tr : List Exchange) : (uses tr).filterMap f = tr.filterMap f := by
  induction tr with
  | nil => rfl
  | cons e tr ih =>
    cases h : e.request.ofChannel with
    | false => rw [uses_cons_of_not_channel tr h, List.filterMap_cons_none (hf e h), ih]
    | true => rw [uses_cons_of_channel tr h, List.filterMap_cons, List.filterMap_cons, ih]

theorem replies_uses (tr : List Exchange) : replies (uses tr) = replies tr :=
  filterMap_uses (fun _ => reply?_of_not_channel) tr

namespace Script

variable {σ α β : Type}

/-- the transcript of a run -/
def transcript (handle : Handler σ) : Script α → σ → List Exchange
  | done _, _ => []
  | ask r next, st => ⟨r, (handle r st).1⟩ :: transcript handle (next (handle r st).1) (handle r st).2

/-- a transcript that a session may have, and the value it ends with -/
inductive Runs : Script α → List Exchange → α → Prop
  | done (a : α) : Runs (done a) [] a
  | ask {r : Request} {next : r.Answer → Script α} {tr : List Exchange} {a : α} (x : r.Answer) :
      Runs (next x) tr a → Runs (ask r next) (⟨r, x⟩ :: tr) a

theorem runs_transcript (handle : Handler σ) (p : Script α) (st : σ) :
    Runs p (transcript handle p st) (run handle p st).1 := by
  induction p generalizing st with
  | done a => exact .done a
  | ask r next ih => exact .ask _ (ih _ _)

/-- every session has a run -/
theorem exists_runs (p : Script α) : ∃ tr a, Runs p tr a := by
  induction p with
  | done a => exact ⟨[], a, .done a⟩
  | ask r next ih =>
    have hanswer : Nonempty r.Answer := by
      cases r <;> first
        | exact ⟨Except.error ""⟩ | exact ⟨Opening.ready⟩ | exact ⟨false⟩ | exact ⟨()⟩ | exact ⟨(0 : Int)⟩ | exact ⟨""⟩
    obtain ⟨x⟩ := hanswer
    obtain ⟨tr, a, h⟩ := ih x
    exact ⟨⟨r, x⟩ :: tr, a, .ask x h⟩

theorem runs_done {a b : α} {tr : List Exchange} : Runs (done a) tr b ↔ tr = [] ∧ b = a := by
  constructor
  · intro h; cases h; exact ⟨rfl, rfl⟩
  · rintro ⟨rfl, rfl⟩; exact .done b

theorem runs_ask {r : Request} {next : r.Answer → Script α} {tr : List Exchange} {a : α} :
    Runs (ask r next) tr a ↔ ∃ x tr', tr = ⟨r, x⟩ :: tr' ∧ Runs (next x) tr' a := by
  constructor
  · intro h; cases h with | ask x h => exact ⟨x, _, rfl, h⟩
  · rintro ⟨x, tr', rfl, h⟩; exact .ask x h

theorem runs_bind {p : Script α} {f : α → Script β} {tr : List Exchange} {b : β} :
    Runs (p.bind f) tr b ↔ ∃ t₁ a t₂, tr = t₁ ++ t₂ ∧ Runs p t₁ a ∧ Runs (f a) t₂ b := by
  induction p generalizing tr with
  | done a =>
    constructor
    · intro h; exact ⟨[], a, tr, rfl, .done a, h⟩
    · rintro ⟨t₁, a', t₂, rfl, h₁, h₂⟩
      cases h₁; exact h₂
  | ask r next ih =>
    constructor
    · intro h
      cases h with
      | ask x h =>
        obtain ⟨t₁, a, t₂, rfl, h₁, h₂⟩ := (ih x).1 h
        exact ⟨⟨r, x⟩ :: t₁, a, t₂, rfl, .ask x h₁, h₂⟩
    · rintro ⟨t₁, a, t₂, rfl, h₁, h₂⟩
      cases h₁ with
      | ask x h₁ => exact .ask x ((ih x).2 ⟨_, a, t₂, rfl, h₁, h₂⟩)

theorem bind_done (p : Script α) : p.bind done = p := by
  induction p with
  | done a => rfl
  | ask r next ih => exact congrArg (ask r) (funext ih)

theorem runs_request {r : Request} {tr : List Exchange} {x : r.Answer} :
    Runs (request r) tr x ↔ tr = [⟨r, x⟩] := by
  constructor
  · intro h
    cases h with
    | ask y h => cases h; rfl
  · rintro rfl; exact .ask x (.done x)

end Script

namespace Step

variable {α β : Type}

open Script (Runs)

theorem run_bind (p : Step α) (f : α → Step β) :
    (p >>= f).run = p.run.bind fun
      | .ok a => (f a).run
      | .error e => Script.done (.error e) := by
  show p.run.bind _ = p.run.bind _
  congr 1
  funext x
  cases x <;> rfl

theorem bind_pure (p : Step α) : p >>= pure = p := by
  have h : (fun x : Except Failure α => match x with
      | .ok a => (pure a : Step α).run
      | .error e => Script.done (.error e)) = Script.done := by
    funext x; cases x <;> rfl
  show (p >>= pure).run = p.run
  rw [run_bind, h, Script.bind_done]

theorem runs_bind {p : Step α} {f : α → Step β} {tr : List Exchange} {out : Except Failure β} :
    Runs (p >>= f).run tr out ↔
      (∃ e, Runs p.run tr (.error e) ∧ out = .error e) ∨
      ∃ t₁ a t₂, tr = t₁ ++ t₂ ∧ Runs p.run t₁ (.ok a) ∧ Runs (f a).run t₂ out := by
  rw [run_bind, Script.runs_bind]
  constructor
  · rintro ⟨t₁, (e | a), t₂, rfl, h₁, h₂⟩
    · cases h₂; rw [List.append_nil]; exact .inl ⟨e, h₁, rfl⟩
    · exact .inr ⟨t₁, a, t₂, rfl, h₁, h₂⟩
  · rintro (⟨e, h, rfl⟩ | ⟨t₁, a, t₂, rfl, h₁, h₂⟩)
    · exact ⟨tr, .error e, [], (List.append_nil tr).symm, h, .done _⟩
    · exact ⟨t₁, .ok a, t₂, rfl, h₁, h₂⟩

theorem runs_ask {r : Request} {tr : List Exchange} {out : Except Failure r.Answer} :
    Runs (ask r).run tr out ↔ ∃ x, tr = [⟨r, x⟩] ∧ out = .ok x := by
  constructor
  · intro h
    cases h with
    | ask x h => cases h; exact ⟨x, rfl, rfl⟩
  · rintro ⟨x, rfl, rfl⟩; exact .ask x (.done _)

theorem runs_lift {p : Script α} {tr : List Exchange} {out : Except Failure α} :
    Runs (ExceptT.lift p : Step α).run tr out ↔ ∃ a, Runs p tr a ∧ out = .ok a := by
  show Runs (p.bind fun a => Script.done (.ok a)) tr out ↔ _
  rw [Script.runs_bind]
  constructor
  · rintro ⟨t₁, a, t₂, rfl, h₁, h₂⟩
    cases h₂; rw [List.append_nil]; exact ⟨a, h₁, rfl⟩
  · rintro ⟨a, h, rfl⟩
    exact ⟨tr, a, [], (List.append_nil tr).symm, h, .done _⟩

theorem runs_fail {f : Failure} {tr : List Exchange} {out : Except Failure α} :
    Runs (fail f : Step α).run tr out ↔ tr = [] ∧ out = .error f := Script.runs_done

theorem runs_pure {a : α} {tr : List Exchange} {out : Except Failure α} :
    Runs (pure a : Step α).run tr out ↔ tr = [] ∧ out = .ok a := Script.runs_done

end Step

end EnquiryMail.Smtp
