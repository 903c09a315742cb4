/-
What can be traced in the log. Every call that the mailer makes has fields that can be carried, and the last call of an
answered request has its id, the one that the response names. All of it is lost when the message of the call happens to
hold a format token, and messages tell methods and targets as clients wrote them.

- `accounted`: what becomes of a call whose fields have names of their own.
- `plain_line`: when the call of an answered request loses nothing; `traced_answer`: that call and the response.
- `calls_carried`: every call, every run, every request.
- `request_untraced`: a request that leaves its message and no more.
-/
import EnquiryMail.Proofs.Http.Heard

namespace EnquiryMail

namespace Log

/-- what becomes of a call -/
structure Call.Accounted (c : Call) : Prop where
  /-- its entry carries component, fields and stack exactly if it is plain -/
  carried : (∃ e, c.entry? = some e ∧ e.Carries c) ↔ c.Plain
  /-- with a format token in its message there is nothing but level and message -/
  bare : hasToken c.message.toList = true → c.entry? = some ⟨c.level, c.message, []⟩
  /-- written as an object it is one line in which all is found, if it is plain and passes -/
  shown : c.Plain → ∀ (j : Journal) (o : Outputs), j.Open o → o.format = .json → ∀ (offset : Int) (time : Time.Instant),
    j.passes ⟨time, c⟩ = true → j.Leaves offset ⟨time, c⟩ (c.FoundIn (Time.isoStamp time))
  /-- with a format token in its message no other field is found in that line -/
  bared : hasToken c.message.toList = true → ∀ (j : Journal) (o : Outputs), j.Open o → o.format = .json →
    ∀ (offset : Int) (time : Time.Instant), j.passes ⟨time, c⟩ = true → j.Leaves offset ⟨time, c⟩ Journal.Bare

theorem accounted {c : Call} (h : c.Sound) : c.Accounted where
  carried := carries_iff h
  bare := entry?_of_token c
  shown hplain _ _ hopen hformat offset _ hpasses := Journal.leaves_plain hopen hformat offset hpasses h hplain
  bared htoken _ _ hopen hformat offset _ hpasses := Journal.leaves_bare hopen hformat offset hpasses htoken

end Log

namespace Http

open Enquiry (Courier Standin standinCourier)
open Log (hasToken)

variable {σ : Type} {courier : Courier σ} {r : Request}

/-! ## Requests -/

theorem tidy_line (r : Request) (id : String) (status : Nat) (ms : Int) : (line r id status ms).Tidy := rfl

/-- the message of an answered request holds a format token where its method or its target does -/
theorem hasToken_line (r : Request) (id : String) (status : Nat) (ms : Int) :
    hasToken (line r id status ms).message.toList = (hasToken r.method.toList || hasToken r.target.toList) := by
  have hstatus : hasToken (toString status).toList = false := by
    refine Log.hasToken_of_not_mem fun hmem => ?_
    have hdigit : '%' ∈ Nat.toDigits 10 status := by simpa [Nat.repr] using hmem
    exact absurd (Nat.isDigit_of_mem_toDigits (by decide) (by decide) hdigit) (by decide)
  have hmessage : (line r id status ms).message.toList =
      r.method.toList ++ ' ' :: (r.target.toList ++ ' ' :: (toString status).toList) := by
    simp [line, Log.call]
  rw [hmessage, Log.hasToken_append_blank, Log.hasToken_append_blank, hstatus, Bool.or_false]

/-- **When an answered request is told with its id**: unless a format token stands in its method or its target. -/
theorem plain_line (r : Request) (id : String) (status : Nat) (ms : Int) :
    (line r id status ms).Plain ↔ hasToken r.method.toList = false ∧ hasToken r.target.toList = false := by
  rw [(tidy_line r id status ms).plain_iff, hasToken_line, Bool.or_eq_false_iff]

theorem get?_finished (r : Request) (id : String) (response : Response) :
    (finished r id response).headers.get? requestIdField = some id := by
  have hsecurity : securityFields.find? (fun f => Headers.sameName f.1 requestIdField) = none := by decide
  have hself : Headers.sameName requestIdField requestIdField = true := by decide
  simp only [finished, bodiless, Headers.get?, List.find?_append, hsecurity, Option.none_or, List.find?_cons, hself,
    Option.map_some]

/-- how an answered request is told: in the call after all others there is the id that its response names -/
structure Traced (r : Request) (response : Response) (after : World) (id : String) : Prop where
  header : response.headers.get? requestIdField = some id
  last : ∃ ms, after.calls.head? = some ⟨after.now, line r id response.status ms⟩

theorem traced_answer (hworld : ∀ f st, courier.world (courier.update f st) = f (courier.world st)) (app : App)
    (l : Limiter) (st : σ) {path : List Char} (hpath : Target.path r.target.toList = .ok path) :
    ∃ id, Traced r (app.answer courier r l st).1 (courier.world (app.answer courier r l st).2.2) id := by
  rw [App.answer, hpath]
  dsimp only [App.answerAt]
  refine ⟨_, get?_finished _ _ _, ?_⟩
  rw [Courier.log, hworld]
  exact ⟨_, rfl⟩

/-- a request whose target has no path leaves nothing, and no id is named -/
theorem untold_answer (app : App) (l : Limiter) (st : σ) {fault : Target.Fault}
    (hpath : Target.path r.target.toList = .error fault) :
    (app.answer courier r l st).1.headers.get? requestIdField = none ∧ (app.answer courier r l st).2.2 = st := by
  rw [App.answer, hpath]
  exact ⟨rfl, rfl⟩

/-! ## Calls -/

open Net (Network)

/-- all calls that were made have names of their own for their fields, and lose something exactly if their message holds
a format token -/
def Carried (w : World) : Prop :=
  ∀ t ∈ w.calls, t.call.Sound ∧ (t.call.Plain ↔ hasToken t.call.message.toList = false)

theorem carried_of_tidy {w : World} (h : w.Heard Log.Call.Tidy) : Carried w :=
  fun t ht => ⟨(h t ht).sound, (h t ht).plain_iff⟩

/-- **What entries carry.** The entry of a call whose fields have names of their own carries its component, its fields
and its stack, and all of them are found in its line, unless its message holds a format token, a field marks an
exception or one has the name that is never carried. After anything that was done over a network or with a stand-in,
every call is such a call, and loses something exactly if its message holds a format token. A request whose target has a
path is told last, by a call with the id that its response names; one whose target has none is not told. The id is kept
unless a format token stands in the method or the target. -/
theorem calls_carried (courier : Courier σ)
    (hworld : ∀ f st, courier.world (courier.update f st) = f (courier.world st)) (app : App) (r : Request)
    (l : Limiter) (st : σ) :
    (∀ c : Log.Call, c.Sound → c.Accounted) ∧
    (∀ n, Reached Network.world NetworkStep n → Carried n.world) ∧
    (∀ st, Reached Standin.world StandinStep st → Carried st.world) ∧
    (∀ path, Target.path r.target.toList = .ok path →
      ∃ id, Traced r (app.answer courier r l st).1 (courier.world (app.answer courier r l st).2.2) id) ∧
    (∀ fault, Target.path r.target.toList = .error fault →
      (app.answer courier r l st).1.headers.get? requestIdField = none ∧ (app.answer courier r l st).2.2 = st) ∧
    ∀ (id : String) (status : Nat) (ms : Int),
      (line r id status ms).Plain ↔ hasToken r.method.toList = false ∧ hasToken r.target.toList = false := by
  refine ⟨fun c => Log.accounted, ?_, ?_, ?_, ?_, plain_line r⟩
  · intro n hn
    exact carried_of_tidy (hn.heard fun _ _ h hbefore => tidy_networkStep h hbefore)
  · intro st hst
    exact carried_of_tidy (hst.heard fun _ _ h hbefore => tidy_standinStep h hbefore)
  · intro path hpath
    exact traced_answer hworld app l st hpath
  · intro fault hpath
    exact untold_answer app l st hpath

/-- an interface with settings of a form -/
def plainApp : App := ⟨Enquiry.plainSettings, 0⟩

/-- a request without a format token -/
def plainRequest : Request := ⟨"GET", "/health?name=caf%e9", "203.0.113.7", [], []⟩

/-- the answer to it, from a stand-in at the beginning -/
def plainAnswer : Response × Limiter × Standin :=
  plainApp.answer standinCourier plainRequest (.opened 0 0) Enquiry.plainStandin

/-- that request is told with the id that its response names -/
theorem calls_carried_plain :
    ∃ id ms, plainAnswer.1.headers.get? requestIdField = some id ∧
      plainAnswer.2.2.world.calls.head? = some ⟨0, line plainRequest id 200 ms⟩ ∧
      (line plainRequest id 200 ms).Accounted ∧ (line plainRequest id 200 ms).Plain := by
  obtain ⟨haccounted, -, -, htraced, -, hplain⟩ :=
    calls_carried standinCourier (fun _ _ => rfl) plainApp plainRequest (.opened 0 0) Enquiry.plainStandin
  have hpath : Target.path plainRequest.target.toList = .ok "/health".toList := by decide +kernel
  have hstatus : plainAnswer.1.status = 200 := by decide +kernel
  obtain ⟨id, hheader, ms, hlast⟩ := htraced _ hpath
  rw [← plainAnswer, hstatus] at hlast
  refine ⟨id, ms, hheader, hlast, haccounted _ (tidy_line _ _ _ _).sound, ?_⟩
  rw [hplain]
  exact ⟨by decide, by decide⟩

/-- a request with a format token in its target -/
def tokenRequest : Request := ⟨"GET", "/health?name=caf%c3%a9", "203.0.113.7", [], []⟩

/-- the answer to it, from a stand-in at the beginning -/
def tokenAnswer : Response × Limiter × Standin :=
  plainApp.answer standinCourier tokenRequest (.opened 0 0) Enquiry.plainStandin

/-- the call that tells of it -/
def tokenCall : Log.Timed := ⟨0, line tokenRequest "00000000-0000-4000-8000-000000000001" 200 0⟩

/-- a journal that takes all calls, as objects -/
def verbose : Log.Journal := .boot [("LOG_LEVEL", "DEBUG"), ("LOG_FORMAT", "json")]

/-- **A request can be lost**: its response names an id, the one call that tells of it passes and brings that id, and
the line of that call has neither component nor id. -/
theorem request_untraced :
    tokenAnswer.1.headers.get? requestIdField = some "00000000-0000-4000-8000-000000000001" ∧
      tokenAnswer.2.2.world.calls = [tokenCall] ∧ tokenCall.call.Sound ∧ verbose.passes tokenCall = true ∧
      ∃ block fields, verbose.lines 0 [tokenCall] = [block] ∧ Json.read? block.toList = some (.obj fields) ∧
        Json.Fields.get? fields "component" = none ∧ Json.Fields.get? fields "requestId" = none := by
  have hopen : verbose.Open ⟨.json, .classic, none, false⟩ := ⟨rfl, rfl⟩
  have hpasses : verbose.passes tokenCall = true := by decide +kernel
  obtain ⟨block, fields, hconsole, -, hread, hnone⟩ :=
    Log.Journal.leaves_bare hopen rfl 0 hpasses (by decide +kernel)
  refine ⟨by decide +kernel, rfl, (tidy_line _ _ _ _).sound, hpasses, block, fields, ?_, hread,
    hnone _ (by decide) (by decide) (by decide), hnone _ (by decide) (by decide) (by decide)⟩
  have hstart : verbose.console = [] := rfl
  rw [Log.Journal.lines, List.foldl_cons, List.foldl_nil, hconsole, hstart, List.reverse_singleton]

end Http

end EnquiryMail
