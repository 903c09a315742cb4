/-
The least time between rendering a form and posting it. The time of rendering comes from the document, as a number or
as the text of one, under either of two names; its whole part is compared with the seconds of the clock. The
comparison is exact for every clock reading and every time of rendering, however far the two lie apart, so a form that
is not too quick stays so. A least time of 0 lets every form pass that was rendered by the clock's time; one that claims
to be rendered later is still found too quick.

- `stamp`, `read_renderedAt`: the whole seconds that a document gives.
- `isTooQuick_iff`: the comparison is that of the exact difference.
- `timing_guarded`: what the guard finds, at a time and later, and with a least time of 0.
- `timing_unswitched`: a form from the future is found too quick though the least time is 0.
-/
import EnquiryMail.Enquiry.Guard
import EnquiryMail.Proofs.Http.Windows

namespace EnquiryMail.Enquiry

open Http (InRange ofInt_of_inRange)

variable {j : Json} {minFill : Number} {t t' : Int}

/-! ## The time of rendering -/

/-- the whole part of a number, 0 if it has none -/
def wholeOf : Number → Int
  | .finite q => if q < 0 then q.ceil else q.floor
  | _ => 0

/-- the whole seconds in a field, which may be a number or the text of one -/
def stampIn (j : Json) (name : String) : Int :=
  match j.get? name with
  | some (.num n) => wholeOf n
  | some (.str s) => wholeOf (Number.ofText s)
  | _ => 0

/-- the whole seconds that a document gives, under the one name or else under the other -/
def stamp (j : Json) : Int :=
  if stampIn j "renderedAt" = 0 then stampIn j "_ts" else stampIn j "renderedAt"

theorem truncated_eq (n : Number) : (if n.isFinite then n.trunc else 0) = .finite (wholeOf n) := by
  cases n with
  | nan => rfl
  | infinite s => rfl
  | finite q => rfl

theorem secondsOf_eq (j : Json) (name : String) : secondsOf j name = .finite (stampIn j name) := by
  unfold secondsOf stampIn
  cases j.get? name with
  | none => rfl
  | some v => cases v <;> exact truncated_eq _

theorem finite_eq_zero (z : Int) : Number.finite z = 0 ↔ z = 0 := by
  constructor
  · intro h
    exact_mod_cast Number.finite.inj h
  · rintro rfl
    rfl

theorem read_renderedAt (j : Json) : (Submission.read j).renderedAt = .finite (stamp j) := by
  simp only [Submission.read, secondsOf_eq, finite_eq_zero, stamp]
  split <;> rfl

/-! ## The comparison -/

theorem lt_of_lt_zero {a : Number} (ha : Number.lt a 0 = true) (hmin : Number.le 0 minFill = true) :
    Number.lt a minFill = true := by
  cases minFill with
  | nan => cases hmin
  | infinite s =>
    cases s with
    | true => cases hmin
    | false =>
      cases a with
      | nan => cases ha
      | infinite s => rw [show s = true from ha]; rfl
      | finite p => rfl
  | finite q =>
    have hq : 0 ≤ q := by exact_mod_cast Time.le_finite.1 hmin
    cases a with
    | nan => cases ha
    | infinite s => exact ha
    | finite p =>
      have hp : p < 0 := by exact_mod_cast of_decide_eq_true ha
      exact decide_eq_true (hp.trans_le hq)

theorem lt_of_le_finite {p q : Rat} (hle : p ≤ q) (h : Number.lt (.finite q) minFill = true) :
    Number.lt (.finite p) minFill = true := by
  cases minFill with
  | nan => cases h
  | infinite s => exact h
  | finite m => exact decide_eq_true (hle.trans_lt (of_decide_eq_true h))

/-- **The comparison is that of the exact difference**, for every time of rendering. -/
theorem isTooQuick_iff (hmin : Number.le 0 minFill = true) (ht : InRange t) :
    isTooQuick (Submission.read j) minFill (some t) = true ↔
      0 < stamp j ∧ Number.lt (.finite (t / 1000 - stamp j : Int)) minFill = true := by
  obtain ⟨hlow, hhigh⟩ := id ht
  simp only [Time.farthest] at hlow hhigh
  have hseconds : Number.ofInt (t / 1000) = .finite (t / 1000 : Int) :=
    ofInt_of_inRange ⟨by simp only [Time.farthest]; omega, by simp only [Time.farthest]; omega⟩
  have hdifference : ((t / 1000 : Int) : Rat) - (stamp j : Rat) = ((t / 1000 - stamp j : Int) : Rat) := by push_cast; rfl
  rw [isTooQuick, read_renderedAt, Bool.and_eq_true, Number.zero_eq, Number.lt_intCast, hseconds, Number.sub,
    hdifference]
  refine and_congr_right fun hstamp => ?_
  by_cases hahead : t / 1000 < stamp j
  · -- the difference is below zero, and so is what it is rounded to
    have hneg : t / 1000 - stamp j < 0 := by omega
    have hexact : Number.lt (.finite ((t / 1000 - stamp j : Int) : Rat)) 0 = true := Number.lt_intCast.2 hneg
    exact iff_of_true (lt_of_lt_zero (Number.nearest_lt_zero hneg) hmin) (lt_of_lt_zero hexact hmin)
  · rw [Number.nearest_intCast (by omega)]

/-! ## What the guard finds -/

/-- a submission without an entry in the hidden field is found too quick when the comparison says so, and nothing else
is found -/
theorem guard_of_human {s : Submission} (hwebsite : s.website = "") (minFill : Number) (now : Option Time.Instant) :
    guard s minFill now = ⟨false, if isTooQuick s minFill now then [.tooQuick] else []⟩ :=
  if_neg (not_not.2 hwebsite)

theorem problems_eq_nil {s : Submission} (hwebsite : s.website = "") {now : Option Time.Instant} :
    (guard s minFill now).problems = [] ↔ ¬isTooQuick s minFill now = true := by
  rw [guard_of_human hwebsite]
  dsimp only
  split <;> simp [*]

theorem tooQuick_mem_problems {s : Submission} (hwebsite : s.website = "") {now : Option Time.Instant} :
    .tooQuick ∈ (guard s minFill now).problems ↔ isTooQuick s minFill now = true := by
  rw [guard_of_human hwebsite]
  dsimp only
  split <;> simp [*]

/-- what the guard finds in a document at a time, and at a later one -/
structure Guarded (j : Json) (minFill : Number) (t t' : Int) : Prop where
  /-- it is too quick exactly if it gives a time and the exact difference is less than the least time -/
  quick : .tooQuick ∈ (guard (Submission.read j) minFill (some t)).problems ↔
    0 < stamp j ∧ Number.lt (.finite (t / 1000 - stamp j : Int)) minFill = true
  /-- if nothing is found, nothing is found later -/
  lasting : (guard (Submission.read j) minFill (some t)).problems = [] →
    (guard (Submission.read j) minFill (some t')).problems = []
  /-- with a least time of 0 it is too quick only if its time is ahead of the clock -/
  off : minFill = 0 → (.tooQuick ∈ (guard (Submission.read j) minFill (some t)).problems ↔
    0 < stamp j ∧ t / 1000 < stamp j)

/-- **The least time is guarded** for every document, every least time and all readings of the clock. -/
theorem timing_guarded (hwebsite : (Submission.read j).website = "") (hmin : Number.le 0 minFill = true)
    (ht : InRange t) (ht' : InRange t') (hle : t ≤ t') : Guarded j minFill t t' := by
  have hquick : .tooQuick ∈ (guard (Submission.read j) minFill (some t)).problems ↔
      0 < stamp j ∧ Number.lt (.finite (t / 1000 - stamp j : Int)) minFill = true := by
    rw [tooQuick_mem_problems hwebsite, isTooQuick_iff hmin ht]
  refine ⟨hquick, ?_, ?_⟩
  · rw [problems_eq_nil hwebsite, problems_eq_nil hwebsite, isTooQuick_iff hmin ht, isTooQuick_iff hmin ht']
    intro hnot hlater
    have hseconds : t / 1000 - stamp j ≤ t' / 1000 - stamp j := by omega
    exact hnot ⟨hlater.1, lt_of_le_finite (by exact_mod_cast hseconds) hlater.2⟩
  · rintro rfl
    rw [hquick, Number.zero_eq, Number.lt_intCast, sub_neg]

/-- a form whose time is the text of a fraction under the second name, posted just within the least time and just
after -/
theorem timing_guarded_fraction :
    let j : Json := .obj [("renderedAt", .null), ("_ts", .str " 3.9 ")]
    ((Submission.read j).website = "" ∧ Number.le 0 (.finite 3) = true ∧ InRange 5999 ∧ InRange 6000) ∧
      stamp j = 3 ∧ (guard (Submission.read j) (.finite 3) (some 5999)).problems = [.tooQuick] ∧
      (guard (Submission.read j) (.finite 3) (some 6000)).problems = [] ∧ Guarded j (.finite 3) 5999 6000 := by
  intro j
  have hwebsite : (Submission.read j).website = "" := by decide +kernel
  have hmin : Number.le 0 (.finite 3) = true := by decide +kernel
  have hearly : InRange 5999 := ⟨by decide, by decide⟩
  have hlate : InRange 6000 := ⟨by decide, by decide⟩
  exact ⟨⟨hwebsite, hmin, hearly, hlate⟩, by decide +kernel, by decide +kernel, by decide +kernel,
    timing_guarded hwebsite hmin hearly hlate (by decide)⟩

/-- **A form from the future is found too quick** though the least time is 0. -/
theorem timing_unswitched :
    let j : Json := .obj [("renderedAt", .num (.finite 1700000102))]
    (Submission.read j).website = "" ∧ stamp j = 1700000102 ∧ InRange 1700000100500 ∧
      guard (Submission.read j) 0 (some 1700000100500) = ⟨false, [.tooQuick]⟩ :=
  ⟨by decide +kernel, by decide +kernel, ⟨by decide, by decide⟩, by decide +kernel⟩

end EnquiryMail.Enquiry
