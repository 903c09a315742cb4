/-
How often a client may submit. A submission that reaches the limiter is refused exactly when the limit of submissions
was sent in its window; whatever else became of earlier ones, and whatever other clients do, uses nothing up.

- `Visit`, `App.serve`: requests one after another, each with the state it comes upon, and what the limiter sees of
  them.
- `used`: the submissions of a client that were sent in the window of a given time.
- `answer_posted`: what the interface does with a submission that reaches the limiter.
- `Reckoned`: the limiter has counted for a client what was sent in its last window; `reckoned_serve`: it has, for
  every client, after any visits.
- `limit_counts_sent`: when a submission is refused, and what the others are answered.
-/
import EnquiryMail.Http.App
import EnquiryMail.Proofs.Http.Windows
import EnquiryMail.Proofs.Net.Refinement

namespace EnquiryMail.Http

open Enquiry (Courier Outcome Thrown)
open Time (longestDelay)

variable {σ : Type}

/-! ## Visits -/

/-- a request and the state it comes upon -/
structure Visit (σ : Type) where
  request : Request
  state : σ

namespace Visit

/-- the document that a visit submits, if it gets as far as the limiter -/
def submitted? (v : Visit σ) : Option Json :=
  match Target.path v.request.target.toList with
  | .ok path => if route v.request path = .submission then (posted v.request).toOption else none
  | .error _ => none

/-- the id of the request and the state with it taken -/
def entered (courier : Courier σ) (v : Visit σ) : String × σ := takeRequestId courier v.request v.state

/-- when the visit gets to the limiter -/
def time (courier : Courier σ) (v : Visit σ) : Int := (courier.world (v.entered courier).2).now

/-- who comes -/
def client (app : App) (v : Visit σ) : String := Http.client app.proxies v.request

end Visit

/-- the answer to a visit, the limiter behind it and the state -/
def App.meets (courier : Courier σ) (app : App) (l : Limiter) (v : Visit σ) : Response × Limiter × σ :=
  app.answer courier v.request l v.state

/-- a submission that has reached the limiter: whose, when, and whether its outcome was that it was sent -/
structure Posting where
  client : String
  time : Int
  sent : Bool

/-- the outcome of a document submitted by a visit, unless it was refused -/
def App.outcome? (courier : Courier σ) (app : App) (l : Limiter) (v : Visit σ) (document : Json) :
    Option (Except Thrown Outcome) :=
  if (app.meets courier l v).1.status = 429 then none
  else some (Enquiry.submit courier app.settings document (v.entered courier).2).1

/-- what the limiter sees of a visit -/
def App.posting? (courier : Courier σ) (app : App) (l : Limiter) (v : Visit σ) : Option Posting :=
  v.submitted?.map fun document =>
    ⟨v.client app, v.time courier, (app.outcome? courier l v document).any counts⟩

/-- the limiter of an interface that began at some time, after visits, and the submissions that reached it -/
def App.serve (courier : Courier σ) (app : App) (began : Int) (visits : List (Visit σ)) : Limiter × List Posting :=
  visits.foldl (fun (l, postings) v => ((app.meets courier l v).2.1, postings ++ (app.posting? courier l v).toList))
    (app.limiter began, [])

/-! ## Windows of submissions -/

/-- where the last window of some submissions of one client begins -/
def lastStart (length : Nat) (postings : List Posting) : Option Int :=
  postings.foldl (fun past p => some (windowStart length past p.time)) none

/-- how many were sent from a time on -/
def sentSince (start : Int) (postings : List Posting) : Nat := postings.countP fun p => p.sent && start ≤ p.time

/-- how many of the earlier submissions of a client were sent in the window of a submission at a time -/
def used (length : Nat) (postings : List Posting) (t : Int) : Nat :=
  sentSince (windowStart length (lastStart length postings) t) postings

/-- the submissions of one client -/
def ofClient (client : String) (postings : List Posting) : List Posting := postings.filter (·.client = client)

theorem lastStart_append (length : Nat) (postings : List Posting) (p : Posting) :
    lastStart length (postings ++ [p]) = some (windowStart length (lastStart length postings) p.time) :=
  List.foldl_append ..

theorem lastStart_eq_none {length : Nat} {postings : List Posting} (h : lastStart length postings = none) :
    postings = [] := by
  induction postings using List.reverseRecOn with
  | nil => rfl
  | append_singleton postings p ih =>
    rw [lastStart_append] at h
    cases h

theorem sentSince_append (start : Int) (postings more : List Posting) :
    sentSince start (postings ++ more) = sentSince start postings + sentSince start more := List.countP_append ..

theorem sentSince_le_length (start : Int) (postings : List Posting) : sentSince start postings ≤ postings.length :=
  List.countP_le_length

/-! ## What a visit does -/

section Visits

variable (courier : Courier σ) (app : App) (l : Limiter) (v : Visit σ)

theorem serve_append (began : Int) (visits : List (Visit σ)) :
    app.serve courier began (visits ++ [v]) =
      ((app.meets courier (app.serve courier began visits).1 v).2.1,
        (app.serve courier began visits).2 ++
          (app.posting? courier (app.serve courier began visits).1 v).toList) := List.foldl_append ..

/-- a submission is not a request that may be answered with nothing -/
theorem conditional_of_post {r : Request} (h : methodName r = "post") (response : Response) :
    conditional r response = response := by
  have hget : r.method ≠ "GET" := by
    intro hr
    rw [methodName, hr] at h
    exact absurd h (by decide)
  have hhead : r.method ≠ "HEAD" := by
    intro hr
    rw [methodName, hr] at h
    exact absurd h (by decide)
  simp [conditional, hget, hhead]

theorem methodName_of_submission {r : Request} {path : List Char} (h : route r path = .submission) :
    methodName r = "post" := by
  unfold route at h
  split at h
  · cases h
  · split at h
    · split at h
      · assumption
      · split at h <;> cases h
    · cases h

/-- **What becomes of a submission** that reaches the limiter. -/
theorem meets_of_submitted {document : Json} (hv : v.submitted? = some document) :
    let answer := answerSubmission courier app v.request (v.entered courier).1 document l (v.entered courier).2
    app.meets courier l v = (finished v.request (v.entered courier).1 answer.1, answer.2.1,
      courier.log (line v.request (v.entered courier).1 answer.1.status
        ((courier.world answer.2.2).now - v.time courier)) answer.2.2) := by
  unfold Visit.submitted? at hv
  split at hv
  · rename_i path hpath
    split at hv
    · rename_i hroute
      obtain ⟨document', hposted⟩ : ∃ d, posted v.request = .ok d := by
        cases h : posted v.request with
        | error e => rw [h] at hv; cases hv
        | ok d => exact ⟨d, rfl⟩
      rw [hposted] at hv
      cases hv
      have hmethod := methodName_of_submission hroute
      simp only [App.meets, App.answer, App.answerAt, answerRoute, hpath, hposted, hroute,
        conditional_of_post hmethod, Visit.entered, Visit.time]
    · cases hv
  · cases hv

variable {courier app l v}

theorem submitted?_limiter (hv : v.submitted? = none) : (app.meets courier l v).2.1 = l := by
  unfold Visit.submitted? at hv
  unfold App.meets App.answer
  split
  · rename_i path hpath
    rw [hpath] at hv
    dsimp only at hv
    simp only [App.answerAt]
    cases hposted : posted v.request with
    | error e => rfl
    | ok document =>
      simp only [answerRoute]
      cases hroute : route v.request path with
      | submission =>
        rw [if_pos hroute, hposted] at hv
        cases hv
      | _ => rfl
  · rfl

/-- a submission beyond the limit: nothing is done but taking its id and logging it -/
theorem meets_refused {document : Json} (hv : v.submitted? = some document)
    (hfull : Limiter.isExceeded app.settings.rateLimit (l.hit (v.client app) (v.time courier)).1 = true) :
    (app.meets courier l v).1.status = 429 ∧
      (app.meets courier l v).2.1 = (l.hit (v.client app) (v.time courier)).2.takeBack (v.client app) (v.time courier) ∧
      (app.meets courier l v).2.2 = courier.log (line v.request (v.entered courier).1 429 0) (v.entered courier).2 := by
  have hmeets := meets_of_submitted courier app l v hv
  have hatOnce : (courier.world (v.entered courier).2).now - v.time courier = 0 := Int.sub_self _
  simp only [Visit.client, Visit.time] at hfull hatOnce ⊢
  simp only [answerSubmission, hfull, if_true, hatOnce, Visit.time] at hmeets
  rw [hmeets]
  exact ⟨rfl, rfl, rfl⟩

/-- a submission within the limit is answered as its outcome says, and counts if it was sent -/
theorem meets_within {document : Json} (hv : v.submitted? = some document)
    (hroom : Limiter.isExceeded app.settings.rateLimit (l.hit (v.client app) (v.time courier)).1 = false) :
    let answer := answerWithin courier app (v.entered courier).1 document (v.entered courier).2
    let hit := (l.hit (v.client app) (v.time courier)).2
    (app.meets courier l v).1.status = answer.2.1.status ∧
      (app.meets courier l v).2.1 = (if answer.1 then hit else hit.takeBack (v.client app) (v.time courier)) ∧
      (app.meets courier l v).2.2 = courier.log (line v.request (v.entered courier).1 answer.2.1.status
        ((courier.world answer.2.2).now - v.time courier)) answer.2.2 := by
  have hmeets := meets_of_submitted courier app l v hv
  simp only [Visit.client, Visit.time] at hroom ⊢
  simp only [answerSubmission, hroom, Bool.false_eq_true, if_false] at hmeets
  rw [hmeets]
  exact ⟨rfl, rfl, rfl⟩

end Visits

/-! ## Outcomes -/

/-- what the service throws was thrown by the courier -/
theorem thrown_of_deliver {courier : Courier σ} {s : Enquiry.Settings} {e : Enquiry} {recipients : List String}
    {st : σ} {thrown : Thrown} (h : (Enquiry.deliver courier s e recipients st).1 = .error thrown) :
    ∃ m st', (courier.send m st').1 = .error thrown := by
  induction recipients generalizing st with
  | nil => cases h
  | cons recipient rest ih =>
    have hmap {β γ : Type} {r : Except Thrown β} {f : β → γ} (hr : r.map f = .error thrown) : r = .error thrown := by
      cases r with
      | error e => cases hr; rfl
      | ok a => cases hr
    unfold Enquiry.deliver at h
    split at h
    · rename_i hsend
      cases h
      exact ⟨_, _, congrArg Prod.fst hsend⟩
    · exact ih (hmap h)
    · exact ih (hmap h)

theorem thrown_of_submit {courier : Courier σ} {s : Enquiry.Settings} {input : Json} {st : σ} {thrown : Thrown}
    (h : (Enquiry.submit courier s input st).1 = .error thrown) : ∃ m st', (courier.send m st').1 = .error thrown := by
  unfold Enquiry.submit at h
  dsimp only at h
  split at h
  · cases h
  · split at h
    · split at h
      · rename_i hdeliver
        cases h
        exact thrown_of_deliver (congrArg Prod.fst hdeliver)
      · cases h
      · cases h
    · cases h

/-- nothing but the limiter answers with too many requests: what the courier throws does not say so -/
def Candid (courier : Courier σ) : Prop :=
  ∀ m st thrown, (courier.send m st).1 = .error thrown → clientFault? thrown ≠ some 429

/-- the status that an outcome is answered with -/
theorem status_answerWithin {courier : Courier σ} (hcandid : Candid courier) (app : App) (id : String) (document : Json)
    (st : σ) :
    (answerWithin courier app id document st).2.1.status ≠ 429 ∧
      ((answerWithin courier app id document st).1 = true →
        (answerWithin courier app id document st).2.1.status = 200) ∧
      (answerWithin courier app id document st).1 = counts (Enquiry.submit courier app.settings document st).1 := by
  have hthrown {thrown : Thrown} (h : (Enquiry.submit courier app.settings document st).1 = .error thrown) :
      clientFault? thrown ≠ some 429 := by
    obtain ⟨m, st', hsend⟩ := thrown_of_submit h
    exact hcandid m st' thrown hsend
  unfold answerWithin
  split
  · rename_i outcome st' hsubmit
    rw [hsubmit]
    cases outcome <;> simp [ofOutcome, successful, unsuccessful, Response.document, counts]
  · rename_i thrown st' hsubmit
    have hfault := hthrown (congrArg Prod.fst hsubmit)
    rw [hsubmit]
    refine ⟨?_, Bool.noConfusion, rfl⟩
    unfold ofThrown
    split
    · rename_i status hstatus
      rw [hstatus] at hfault
      exact fun h => hfault (congrArg some h)
    · show (500 : Nat) ≠ 429
      decide

/-! ## The count of a client -/

/-- the limiter has counted for a client what was sent in its last window, and that is within the limit -/
structure Reckoned (length limit : Nat) (now : Int) (l : Limiter) (client : String) (postings : List Posting) :
    Prop where
  past : ∀ p ∈ postings, p.time ≤ now
  stands : l.Stands length client ((lastStart length postings).map fun start => (start, sentSince start postings))
  inside : ∀ start, lastStart length postings = some start → ∀ p ∈ postings, p.time < start + length
  begun : ∀ start, lastStart length postings = some start → start ≤ now
  within : ∀ start, lastStart length postings = some start → sentSince start postings ≤ limit

variable {length limit : Nat} {now t : Int} {l l' : Limiter} {client : String} {postings : List Posting}

theorem Reckoned.later (h : Reckoned length limit now l client postings) (ht : now ≤ t) :
    Reckoned length limit t l client postings where
  past p hp := (h.past p hp).trans ht
  stands := h.stands
  inside := h.inside
  begun start hstart := (h.begun start hstart).trans ht
  within := h.within

/-- what the limiter counts when a client comes is what was sent in its window -/
theorem Reckoned.counted (h : Reckoned length limit t l client postings) :
    Limiter.counted length ((lastStart length postings).map fun start => (start, sentSince start postings)) t =
      used length postings t := by
  cases hstart : lastStart length postings with
  | none =>
    rw [lastStart_eq_none hstart]
    rfl
  | some start =>
    simp only [Option.map_some, Limiter.counted, used, hstart, windowStart]
    split
    · rfl
    · rename_i hover
      refine (List.countP_eq_zero.2 fun p hp => ?_).symm
      have htime := h.inside start hstart p hp
      have : ¬ t ≤ p.time := by omega
      simp [this]

theorem Reckoned.used_le (h : Reckoned length limit t l client postings) : used length postings t ≤ limit := by
  rw [← h.counted]
  cases hstart : lastStart length postings with
  | none => exact Nat.zero_le _
  | some start =>
    simp only [Option.map_some, Limiter.counted]
    split
    · exact h.within start hstart
    · exact Nat.zero_le _

/-- a hit of a client comes on top of what was sent in its window -/
theorem Reckoned.hit (h : Reckoned length limit t l client postings) (hlength : l.length = .finite length)
    (hpos : 1 ≤ length) (hlong : length ≤ longestDelay) (ht : InRange t) :
    l.hit client t =
      (⟨used length postings t + 1, closing length (windowStart length (lastStart length postings) t)⟩,
        l.put client t
          ⟨used length postings t + 1, closing length (windowStart length (lastStart length postings) t)⟩) := by
  have hhit := Limiter.hit_of_stands hlength hpos hlong h.stands ht
  have hstarts (past : Option Int) (f : Int → Nat) : (past.map fun start => (start, f start)).map Prod.fst = past := by
    cases past <;> rfl
  rw [h.counted, hstarts] at hhit
  exact hhit

/-- **One more submission** of a client, refused, sent or neither, put down in its window. -/
theorem Reckoned.post (h : Reckoned length limit t l client postings) (hpos : 1 ≤ length) (p : Posting)
    (htime : p.time = t) (hwithin : used length postings t + (if p.sent then 1 else 0) ≤ limit) :
    Reckoned length limit t
      (l.put client t ⟨used length postings t + (if p.sent then 1 else 0),
        closing length (windowStart length (lastStart length postings) t)⟩)
      client (postings ++ [p]) := by
  have hlast : lastStart length (postings ++ [p]) = some (windowStart length (lastStart length postings) t) := by
    rw [lastStart_append, htime]
  have hle : windowStart length (lastStart length postings) t ≤ t := windowStart_le h.begun
  have hsent : sentSince (windowStart length (lastStart length postings) t) (postings ++ [p]) =
      used length postings t + (if p.sent then 1 else 0) := by
    rw [sentSince_append]
    congr 1
    simp [sentSince, htime, hle]
  refine ⟨?_, ?_, ?_, ?_, ?_⟩
  · intro q hq
    rcases List.mem_append.1 hq with hq | hq
    · exact h.past q hq
    · rw [List.mem_singleton.1 hq, htime]
  · rw [hlast, Option.map_some, hsent]
    exact Limiter.stands_put hle
  · intro start hstart q hq
    rw [hlast] at hstart
    cases hstart
    have hopen := lt_windowStart hpos (lastStart length postings) t
    rcases List.mem_append.1 hq with hq | hq
    · exact lt_of_le_of_lt (h.past q hq) hopen
    · rw [List.mem_singleton.1 hq, htime]
      exact hopen
  · intro start hstart
    rw [hlast] at hstart
    cases hstart
    exact hle
  · intro start hstart
    rw [hlast] at hstart
    cases hstart
    rw [hsent]
    exact hwithin

theorem Reckoned.put_of_ne {other : String} {w : Window} (h : Reckoned length limit now l client postings)
    (hne : client ≠ other) : Reckoned length limit now (l.put other t w) client postings where
  past := h.past
  stands := h.stands.put_of_ne hne
  inside := h.inside
  begun := h.begun
  within := h.within

theorem isExceeded_natCast {hits : Nat} {ends : Option Int} (hexact : hits < 2 ^ 53) :
    Limiter.isExceeded (.finite limit) ⟨hits, ends⟩ = decide (limit < hits) := by
  have hsmall : (hits : Int).natAbs < 2 ^ 53 := by omega
  rw [Limiter.isExceeded, Number.ofInt, Number.nearest_intCast hsmall, Number.lt_finite]
  refine decide_eq_decide.2 ?_
  rw [Int.cast_natCast, Nat.cast_lt]

/-! ## Any visits -/

/-- the limit and the length of a window are whole numbers, and an alarm can be set for a window -/
structure App.Allows (app : App) (limit length : Nat) : Prop where
  limit : app.settings.rateLimit = .finite limit
  minutes : ∃ minutes : Nat, app.settings.rateWindowMinutes = .finite minutes ∧ 1 ≤ minutes ∧ length = minutes * 60000
  long : length ≤ longestDelay

theorem App.Allows.pos {app : App} (h : app.Allows limit length) : 1 ≤ length := by
  obtain ⟨minutes, -, hpos, rfl⟩ := h.minutes
  omega

theorem App.Allows.windowLength {app : App} (h : app.Allows limit length) : app.windowLength = .finite length := by
  obtain ⟨minutes, hminutes, -, rfl⟩ := h.minutes
  have hlong := h.long
  simp only [longestDelay] at hlong
  have hseconds : (minutes : Rat) * 60 = ((minutes * 60 : Nat) : Int) := by push_cast; rfl
  have hmillis : (((minutes * 60 : Nat) : Int) : Rat) * 1000 = ((minutes * 60000 : Nat) : Int) := by push_cast; ring
  have h₁ : (minutes * 60 : Int).natAbs < 2 ^ 53 := by omega
  have h₂ : (minutes * 60000 : Int).natAbs < 2 ^ 53 := by omega
  rw [App.windowLength, hminutes, Number.scale, hseconds, Number.nearest_intCast (by exact_mod_cast h₁), Number.scale,
    hmillis, Number.nearest_intCast (by exact_mod_cast h₂)]
  rfl

variable {courier : Courier σ} {app : App} {v : Visit σ}

/-- the submissions of a client so far that were sent in the window of a visit -/
def Visit.used (courier : Courier σ) (app : App) (length : Nat) (postings : List Posting) (v : Visit σ) : Nat :=
  Http.used length (ofClient (v.client app) postings) (v.time courier)

/-- what a visit has sent -/
def App.sends (courier : Courier σ) (app : App) (l : Limiter) (v : Visit σ) (document : Json) : Bool :=
  (app.outcome? courier l v document).any counts

/-- **What a limiter does that has counted right** with a submission: it is refused if the limit of submissions was
sent in its window, and counted if it is sent. -/
theorem meets_of_reckoned (hcandid : Candid courier) (hallows : app.Allows limit length)
    (hlength : l.length = .finite length) (hrange : InRange (v.time courier))
    (h : Reckoned length limit (v.time courier) l (v.client app) (ofClient (v.client app) postings))
    (hexact : v.used courier app length postings + 1 < 2 ^ 53) {document : Json}
    (hv : v.submitted? = some document) :
    ((app.meets courier l v).1.status = 429 ↔ v.used courier app length postings = limit) ∧
      v.used courier app length postings + (if app.sends courier l v document then 1 else 0) ≤ limit ∧
      (app.meets courier l v).2.1 = l.put (v.client app) (v.time courier)
        ⟨v.used courier app length postings + (if app.sends courier l v document then 1 else 0),
          closing length (windowStart length (lastStart length (ofClient (v.client app) postings)) (v.time courier))⟩ := by
  have hused : v.used courier app length postings ≤ limit := h.used_le
  have hhit := h.hit hlength hallows.pos hallows.long hrange
  have hexceeded : Limiter.isExceeded app.settings.rateLimit (l.hit (v.client app) (v.time courier)).1 =
      decide (limit < v.used courier app length postings + 1) := by
    rw [hhit, hallows.limit]
    exact isExceeded_natCast hexact
  by_cases hfull : limit < v.used courier app length postings + 1
  · rw [decide_eq_true hfull] at hexceeded
    obtain ⟨hstatus, hlimiter, -⟩ := meets_refused hv hexceeded
    have hunsent : app.sends courier l v document = false := by
      rw [App.sends, App.outcome?, if_pos hstatus]
      rfl
    refine ⟨iff_of_true hstatus (by omega), by simpa [hunsent] using hused, ?_⟩
    rw [hlimiter, hhit, Limiter.takeBack_put, hunsent]
    rfl
  · rw [decide_eq_false hfull] at hexceeded
    obtain ⟨hstatus, hlimiter, -⟩ := meets_within hv hexceeded
    obtain ⟨hne, -, hcounts⟩ :=
      status_answerWithin hcandid app (v.entered courier).1 document (v.entered courier).2
    rw [← hstatus] at hne
    have hsends : app.sends courier l v document =
        (answerWithin courier app (v.entered courier).1 document (v.entered courier).2).1 := by
      rw [App.sends, App.outcome?, if_neg hne, hcounts]
      rfl
    refine ⟨iff_of_false hne (by omega), ?_, ?_⟩
    · split <;> omega
    · rw [hlimiter, hhit, hsends]
      dsimp only
      split
      · rfl
      · rw [Limiter.takeBack_put]
        rfl

theorem ofClient_append (client : String) (postings more : List Posting) :
    ofClient client (postings ++ more) = ofClient client postings ++ ofClient client more := List.filter_append ..

theorem used_le_length (length : Nat) (client : String) (postings : List Posting) (t : Int) :
    used length (ofClient client postings) t ≤ postings.length :=
  (sentSince_le_length _ _).trans (List.length_filter_le ..)

/-- the limiter keeps to its reckoning over one visit -/
theorem reckoned_meets (hcandid : Candid courier) (hallows : app.Allows limit length)
    (hlength : l.length = .finite length) (hrange : InRange (v.time courier))
    (h : ∀ client, Reckoned length limit (v.time courier) l client (ofClient client postings))
    (hexact : min limit postings.length + 1 < 2 ^ 53) :
    (app.meets courier l v).2.1.length = .finite length ∧
      ∀ client, Reckoned length limit (v.time courier) (app.meets courier l v).2.1 client
        (ofClient client (postings ++ (app.posting? courier l v).toList)) := by
  cases hv : v.submitted? with
  | none =>
    rw [submitted?_limiter hv, App.posting?, hv]
    exact ⟨hlength, by simpa using h⟩
  | some document =>
    have hsmall : v.used courier app length postings + 1 < 2 ^ 53 := by
      have hlimit : v.used courier app length postings ≤ limit := (h (v.client app)).used_le
      have hcount : v.used courier app length postings ≤ postings.length := used_le_length ..
      omega
    obtain ⟨-, hwithin, hlimiter⟩ := meets_of_reckoned hcandid hallows hlength hrange (h (v.client app)) hsmall hv
    rw [hlimiter, App.posting?, hv]
    refine ⟨hlength, fun client => ?_⟩
    rw [ofClient_append]
    by_cases hclient : client = v.client app
    · have hown (sent : Bool) : ofClient client [⟨v.client app, v.time courier, sent⟩] =
          [⟨v.client app, v.time courier, sent⟩] := by simp [ofClient, hclient]
      subst hclient
      have hpost := (h (v.client app)).post hallows.pos
        ⟨v.client app, v.time courier, app.sends courier l v document⟩ rfl hwithin
      rw [← hown] at hpost
      exact hpost
    · have hother (sent : Bool) : ofClient client [⟨v.client app, v.time courier, sent⟩] = [] := by
        simp [ofClient, Ne.symm hclient]
      have hput := (h client).put_of_ne (t := v.time courier) (w := ⟨v.used courier app length postings +
        (if app.sends courier l v document then 1 else 0), closing length (windowStart length
          (lastStart length (ofClient (v.client app) postings)) (v.time courier))⟩) hclient
      rw [Option.map_some, Option.toList_some, hother, List.append_nil]
      exact hput

/-- **After any visits** the limiter has counted for every client what was sent in its last window. -/
theorem reckoned_serve (hcandid : Candid courier) (hallows : app.Allows limit length) (began : Int)
    (visits : List (Visit σ)) (hrange : ∀ v ∈ visits, InRange (v.time courier))
    (horder : (visits.map (Visit.time courier)).Pairwise (· ≤ ·)) (hexact : min limit visits.length + 1 < 2 ^ 53) :
    (app.serve courier began visits).1.length = .finite length ∧
      (app.serve courier began visits).2.length ≤ visits.length ∧
      ∀ now, (∀ v ∈ visits, v.time courier ≤ now) → ∀ client,
        Reckoned length limit now (app.serve courier began visits).1 client
          (ofClient client (app.serve courier began visits).2) := by
  induction visits using List.reverseRecOn with
  | nil =>
    refine ⟨hallows.windowLength, Nat.le_refl _, fun now _ client => ?_⟩
    refine ⟨List.forall_mem_nil _, rfl, ?_, ?_, ?_⟩ <;> intro start hstart <;> cases hstart
  | append_singleton visits v ih =>
    rw [List.map_append, List.pairwise_append] at horder
    obtain ⟨horder, -, hlast⟩ := horder
    rw [List.length_append] at hexact
    have hsmall : min limit visits.length + 1 < 2 ^ 53 := by omega
    obtain ⟨hlength, hcount, hreckoned⟩ :=
      ih (fun u hu => hrange u (List.mem_append_left _ hu)) horder hsmall
    have hearlier : ∀ u ∈ visits, u.time courier ≤ v.time courier := fun u hu =>
      hlast _ (List.mem_map_of_mem hu) _ (List.mem_singleton_self _)
    have hexact' : min limit (app.serve courier began visits).2.length + 1 < 2 ^ 53 := by omega
    obtain ⟨hlength', hreckoned'⟩ := reckoned_meets hcandid hallows hlength
      (hrange v (List.mem_append_right _ (List.mem_singleton_self _))) (hreckoned _ hearlier) hexact'
    rw [serve_append]
    refine ⟨hlength', ?_, fun now hnow client => ?_⟩
    · rw [List.length_append, List.length_append]
      have hone : (app.posting? courier (app.serve courier began visits).1 v).toList.length ≤ 1 := by
        cases app.posting? courier (app.serve courier began visits).1 v <;> simp
      exact Nat.add_le_add hcount hone
    · exact (hreckoned' client).later (hnow v (List.mem_append_right _ (List.mem_singleton_self _)))

/-- how a submission fares behind earlier ones -/
structure Rationed (courier : Courier σ) (app : App) (length limit : Nat) (earlier : Limiter × List Posting)
    (v : Visit σ) (document : Json) : Prop where
  /-- it is refused exactly when the limit of earlier ones was sent in its window -/
  refused : (app.meets courier earlier.1 v).1.status = 429 ↔ v.used courier app length earlier.2 = limit
  /-- when it is refused, nothing is done but taking its id and logging it -/
  idle : (app.meets courier earlier.1 v).1.status = 429 → (app.meets courier earlier.1 v).2.2 =
    courier.log (line v.request (v.entered courier).1 429 0) (v.entered courier).2
  /-- otherwise the service answers it -/
  answered : (app.meets courier earlier.1 v).1.status ≠ 429 →
    let answer := answerWithin courier app (v.entered courier).1 document (v.entered courier).2
    (app.meets courier earlier.1 v).1.status = answer.2.1.status ∧
      ∃ duration, (app.meets courier earlier.1 v).2.2 =
        courier.log (line v.request (v.entered courier).1 answer.2.1.status duration) answer.2.2
  /-- when it is sent, its answer says so -/
  sent : app.sends courier earlier.1 v document = true → (app.meets courier earlier.1 v).1.status = 200
  /-- no more than the limit are sent in its window, itself counted -/
  bounded : v.used courier app length earlier.2 + (if app.sends courier earlier.1 v document then 1 else 0) ≤ limit

/-- **The limit counts what was sent.** Requests come one after another, each upon any state. A submission that
reaches the limiter is refused exactly when as many earlier submissions of its client as the limit says were sent in
its window, and then nothing is done. Any other is answered as its outcome says, and in no window more is sent than
the limit says. -/
theorem limit_counts_sent (hcandid : Candid courier) (hallows : app.Allows limit length) (began : Int)
    (visits : List (Visit σ)) (v : Visit σ) (hrange : ∀ u ∈ visits ++ [v], InRange (u.time courier))
    (horder : ((visits ++ [v]).map (Visit.time courier)).Pairwise (· ≤ ·))
    (hexact : min limit visits.length + 1 < 2 ^ 53) {document : Json} (hv : v.submitted? = some document) :
    Rationed courier app length limit (app.serve courier began visits) v document := by
  rw [List.map_append, List.pairwise_append] at horder
  obtain ⟨horder, -, hlast⟩ := horder
  have hearlier : ∀ u ∈ visits, u.time courier ≤ v.time courier := fun u hu =>
    hlast _ (List.mem_map_of_mem hu) _ (List.mem_singleton_self _)
  obtain ⟨hlength, hcount, hreckoned⟩ := reckoned_serve hcandid hallows began visits
    (fun u hu => hrange u (List.mem_append_left _ hu)) horder hexact
  generalize app.serve courier began visits = earlier at hlength hcount hreckoned ⊢
  obtain ⟨l, postings⟩ := earlier
  have hown := hreckoned _ hearlier (v.client app)
  have hsmall : v.used courier app length postings + 1 < 2 ^ 53 := by
    have hlimit : v.used courier app length postings ≤ limit := hown.used_le
    have hused : v.used courier app length postings ≤ postings.length := used_le_length ..
    have hcount' : postings.length ≤ visits.length := hcount
    omega
  obtain ⟨hrefused, hbounded, -⟩ := meets_of_reckoned hcandid hallows hlength
    (hrange v (List.mem_append_right _ (List.mem_singleton_self _))) hown hsmall hv
  cases hexceeded : Limiter.isExceeded app.settings.rateLimit (l.hit (v.client app) (v.time courier)).1 with
  | true =>
    obtain ⟨hstatus, -, hidle⟩ := meets_refused hv hexceeded
    have hunsent : app.sends courier l v document = false := by
      rw [App.sends, App.outcome?, if_pos hstatus]
      rfl
    refine ⟨hrefused, fun _ => hidle, fun h => absurd hstatus h, fun h => ?_, hbounded⟩
    rw [hunsent] at h
    cases h
  | false =>
    obtain ⟨hstatus, -, hstate⟩ := meets_within hv hexceeded
    obtain ⟨hne, hsuccess, hcounts⟩ :=
      status_answerWithin hcandid app (v.entered courier).1 document (v.entered courier).2
    rw [← hstatus] at hne hsuccess
    refine ⟨hrefused, fun h => absurd h hne, fun _ => ⟨hstatus, _, hstate⟩, fun h => hsuccess ?_, hbounded⟩
    rw [App.sends, App.outcome?, if_neg hne] at h
    rw [hcounts]
    exact h

/-- the sender over a network throws nothing -/
theorem candid_networkCourier (smtp : Smtp.Settings) : Candid (Enquiry.networkCourier smtp) := by
  intro m n thrown h
  cases h

/-- an interface that takes one submission in ten minutes -/
def App.sparing : App := ⟨⟨["b@example.net"], "Enquiry", "Example", "c@example.com", 0, 1, 10⟩, 0⟩

/-- a submission of the form -/
def Visit.filled (now : Int) : Visit Net.Network where
  request :=
    { method := "POST", target := "/api/enquiries", peer := "192.0.2.1"
      headers := [("content-type", "application/x-www-form-urlencoded"), ("content-length", "70")]
      body := utf8 "name=Ann&email=ann%40example.org&company=Acme&message=Hello+all+of+you" }
  state := Net.Network.start { Net.quietWorld with now } [Net.Relay.accepting]

/-- one is sent, and the next one a minute later is refused -/
theorem limit_counts_sent_twice :
    let courier := Enquiry.networkCourier Smtp.Settings.submission
    Candid courier ∧ App.sparing.Allows 1 600000 ∧
      (∀ u ∈ [Visit.filled 0] ++ [Visit.filled 60000], InRange (u.time courier)) ∧
      (([Visit.filled 0] ++ [Visit.filled 60000]).map (Visit.time courier)).Pairwise (· ≤ ·) ∧
      ∃ document, (Visit.filled 60000).submitted? = some document ∧
        Rationed courier App.sparing 600000 1 (App.sparing.serve courier 0 [Visit.filled 0]) (Visit.filled 60000)
          document ∧
        (App.sparing.meets courier (App.sparing.serve courier 0 [Visit.filled 0]).1 (Visit.filled 60000)).1.status =
          429 := by
  intro courier
  have hallows : App.sparing.Allows 1 600000 := ⟨rfl, ⟨10, rfl, by decide, rfl⟩, by decide⟩
  have hrange : ∀ u ∈ [Visit.filled 0] ++ [Visit.filled 60000], InRange (u.time courier) := by
    intro u hu
    rcases List.mem_pair.1 hu with rfl | rfl <;> exact ⟨by decide +kernel, by decide +kernel⟩
  have horder : (([Visit.filled 0] ++ [Visit.filled 60000]).map (Visit.time courier)).Pairwise (· ≤ ·) := by
    decide +kernel
  obtain ⟨document, hdocument⟩ : ∃ document, (Visit.filled 60000).submitted? = some document :=
    Option.isSome_iff_exists.1 (by decide +kernel)
  exact ⟨candid_networkCourier _, hallows, hrange, horder, document, hdocument,
    limit_counts_sent (candid_networkCourier _) hallows 0 [Visit.filled 0] (Visit.filled 60000) hrange horder
      (by decide) hdocument,
    by decide +kernel⟩

end EnquiryMail.Http
