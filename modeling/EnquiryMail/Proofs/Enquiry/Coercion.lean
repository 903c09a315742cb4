/-
The one form in which submissions are taken. Whatever document is posted, the submission read from it has trimmed texts
and whole seconds, and posted again it is read as itself; of the document only the fields of the form count, the second
name of the time of rendering only while the first gives no time. A submission in this form is then taken exactly if its
four required fields are in order, and nothing of it is changed but a plan that is not on offer.

- `read_document`: a submission that is posted is read as itself.
- `read_congr`, `read_congr_of_time`: the fields that count.
- `problems_eq_nil_iff`: when a submission is taken.
- `submissions_canonical`: all of it together.
-/
import EnquiryMail.Proofs.Enquiry.Timing

namespace EnquiryMail.Enquiry

variable {j j' : Json}

/-! ## The form of a submission -/

/-- the names of the fields that count -/
def fieldNames : List String :=
  ["name", "email", "company", "phone", "plan", "message", "website", "renderedAt", "_ts"]

/-- a submission as a document -/
def Submission.document (s : Submission) : Json :=
  .obj [("name", .str s.name), ("email", .str s.email), ("company", .str s.company), ("phone", .str s.phone),
    ("plan", .str s.plan), ("message", .str s.message), ("website", .str s.website), ("renderedAt", .num s.renderedAt)]

/-- the texts of a submission -/
def Submission.texts (s : Submission) : List String :=
  [s.name, s.email, s.company, s.phone, s.plan, s.message, s.website]

/-- texts without blanks at their ends, and whole seconds -/
structure Submission.IsCanonical (s : Submission) : Prop where
  texts : ∀ text ∈ s.texts, trimmed text = text
  seconds : ∃ z : Int, s.renderedAt = .finite z

theorem trimmed_trimmed (s : String) : trimmed (trimmed s) = trimmed s := by
  simp only [trimmed, String.toList_ofList, Text.trim_trim]

theorem trimmed_textOf (j : Json) (name : String) : trimmed (textOf j name) = textOf j name := by
  unfold textOf
  split
  · exact trimmed_trimmed _
  · rfl

/-- the fields of a submission, each by what the document has for it -/
theorem read_eq (j : Json) : Submission.read j =
    ⟨textOf j "name", textOf j "email", textOf j "company", textOf j "phone", textOf j "plan", textOf j "message",
      textOf j "website", .finite (stamp j)⟩ := by
  rw [← read_renderedAt]
  rfl

theorem isCanonical_read (j : Json) : (Submission.read j).IsCanonical := by
  refine ⟨fun text htext => ?_, stamp j, read_renderedAt j⟩
  rw [read_eq] at htext
  simp only [Submission.texts, List.mem_cons, List.not_mem_nil, or_false] at htext
  rcases htext with rfl | rfl | rfl | rfl | rfl | rfl | rfl <;> exact trimmed_textOf j _

theorem wholeOf_intCast (z : Int) : wholeOf (.finite z) = z := by
  show (if (z : Rat) < 0 then (z : Rat).ceil else (z : Rat).floor) = z
  rw [Rat.ceil_intCast, Rat.floor_intCast, ite_self]

/-- **A submission that is posted is read as itself.** -/
theorem Submission.IsCanonical.read_document {s : Submission} (h : s.IsCanonical) : Submission.read s.document = s := by
  obtain ⟨htexts, z, hz⟩ := h
  have hstamp : stamp s.document = z := by
    have hfirst : stampIn s.document "renderedAt" = z := by
      show wholeOf s.renderedAt = z
      rw [hz, wholeOf_intCast]
    have hsecond : stampIn s.document "_ts" = 0 := rfl
    rw [stamp, hfirst, hsecond]
    split <;> simp_all
  simp only [Submission.texts, List.forall_mem_cons] at htexts
  obtain ⟨hname, hemail, hcompany, hphone, hplan, hmessage, hwebsite, -⟩ := htexts
  calc Submission.read s.document
      = ⟨trimmed s.name, trimmed s.email, trimmed s.company, trimmed s.phone, trimmed s.plan, trimmed s.message,
          trimmed s.website, .finite (stamp s.document)⟩ := read_eq _
    _ = s := by rw [hname, hemail, hcompany, hphone, hplan, hmessage, hwebsite, hstamp, ← hz]

/-! ## The fields that count -/

theorem textOf_congr {name : String} (h : j'.get? name = j.get? name) : textOf j' name = textOf j name := by
  rw [textOf, h, textOf]

theorem stampIn_congr {name : String} (h : j'.get? name = j.get? name) : stampIn j' name = stampIn j name := by
  rw [stampIn, h, stampIn]

/-- only the fields of the form count, and with them only the time that they give -/
theorem read_congr (h : ∀ name ∈ fieldNames, name ≠ "_ts" → j'.get? name = j.get? name) (htime : stamp j' = stamp j) :
    Submission.read j' = Submission.read j := by
  have htext : ∀ name ∈ fieldNames, name ≠ "_ts" → textOf j' name = textOf j name :=
    fun name hname hfirst => textOf_congr (h name hname hfirst)
  simp only [fieldNames, List.forall_mem_cons] at htext
  obtain ⟨hname, hemail, hcompany, hphone, hplan, hmessage, hwebsite, -⟩ := htext
  rw [read_eq, read_eq, htime, hname (by decide), hemail (by decide), hcompany (by decide), hphone (by decide),
    hplan (by decide), hmessage (by decide), hwebsite (by decide)]

/-- what becomes of a document -/
structure Canonical (j : Json) : Prop where
  /-- texts are trimmed and the time is a whole number of seconds -/
  form : (Submission.read j).IsCanonical
  /-- read once more, a submission stays as it is -/
  stable : Submission.read (Submission.read j).document = Submission.read j
  /-- nothing counts but the fields of the form -/
  fields : ∀ j', (∀ name ∈ fieldNames, j'.get? name = j.get? name) → Submission.read j' = Submission.read j
  /-- what is no object is the empty submission -/
  empty : (∀ fields, j ≠ .obj fields) → Submission.read j = ⟨"", "", "", "", "", "", "", 0⟩
  /-- a time under the first name is the time, whatever stands under the second -/
  first : stampIn j "renderedAt" ≠ 0 → (Submission.read j).renderedAt = .finite (stampIn j "renderedAt") ∧
    ∀ j', (∀ name ∈ fieldNames, name ≠ "_ts" → j'.get? name = j.get? name) → Submission.read j' = Submission.read j
  /-- without one the time is that under the second -/
  second : stampIn j "renderedAt" = 0 → (Submission.read j).renderedAt = .finite (stampIn j "_ts")

theorem canonical_read (j : Json) : Canonical j := by
  constructor
  case form => exact isCanonical_read j
  case stable => exact (isCanonical_read j).read_document
  case fields =>
    intro j' h
    refine read_congr (fun name hname _ => h name hname) ?_
    rw [stamp, stampIn_congr (h "renderedAt" (by simp [fieldNames])),
    stampIn_congr (h "_ts" (by simp [fieldNames])), stamp]
  case empty =>
    intro h
    refine read_fieldless j fun name => ?_
    cases j with
    | obj fields => exact absurd rfl (h fields)
    | _ => rfl
  case first =>
    intro hfirst
    have hstamp : stamp j = stampIn j "renderedAt" := if_neg hfirst
    refine ⟨by rw [read_renderedAt, hstamp], fun j' h => read_congr h ?_⟩
    have hsame := stampIn_congr (h "renderedAt" (by simp [fieldNames]) (by decide))
    rw [hstamp, stamp, hsame, if_neg hfirst]
  case second =>
    intro hfirst
    rw [read_renderedAt, stamp, if_pos hfirst]

/-! ## When a submission is taken -/

theorem emailProblems_eq_nil {email : String} : emailProblems email = [] ↔ Mail.isAddress email = true := by
  unfold emailProblems
  split
  · rename_i hempty
    subst hempty
    decide
  · simp

theorem messageProblems_eq_nil {message : String} :
    messageProblems message = [] ↔ 10 ≤ message.toList.length ∧ message.toList.length ≤ 5000 := by
  have hmin : minLength = 10 := rfl
  have hmax : maxLength = 5000 := rfl
  unfold messageProblems
  dsimp only
  generalize message.toList.length = length
  split_ifs
  · exact iff_of_false not_false (by omega)
  · exact iff_of_false not_false (by omega)
  · exact iff_of_false not_false (by omega)
  · exact iff_of_true rfl (by omega)

/-- what a submission is taken for -/
structure Judged (s : Submission) : Prop where
  /-- it is taken exactly if name and company are there, the address is one, and the message is of a fair length -/
  taken : s.problems = [] ↔
    s.name ≠ "" ∧ s.company ≠ "" ∧ Mail.isAddress s.email = true ∧
      10 ≤ s.message.toList.length ∧ s.message.toList.length ≤ 5000
  /-- its enquiry has its texts -/
  kept : s.enquiry.name = s.name ∧ s.enquiry.email = s.email ∧ s.enquiry.company = s.company ∧
    s.enquiry.phone = s.phone ∧ s.enquiry.message = s.message
  /-- and its plan if that is on offer, else none -/
  plan : (s.enquiry.plan.map (·.name)).getD "" =
    if s.plan ∈ ["Basic", "Standard", "Premium", "Not Sure"] then s.plan else ""

theorem problems_eq_nil_iff (s : Submission) : s.problems = [] ↔
    s.name ≠ "" ∧ s.company ≠ "" ∧ Mail.isAddress s.email = true ∧
      10 ≤ s.message.toList.length ∧ s.message.toList.length ≤ 5000 := by
  simp only [Submission.problems, List.append_eq_nil_iff, emailProblems_eq_nil, messageProblems_eq_nil]
  constructor
  · rintro ⟨⟨⟨hname, hemail⟩, hcompany⟩, hmessage⟩
    exact ⟨by simpa using hname, by simpa using hcompany, hemail, hmessage⟩
  · rintro ⟨hname, hcompany, hemail, hmessage⟩
    exact ⟨⟨⟨if_neg hname, hemail⟩, if_neg hcompany⟩, hmessage⟩

theorem ofName?_eq_none {name : String} (h : name ∉ Plan.all.map (·.name)) : Plan.ofName? name = none := by
  rw [Plan.ofName?, List.find?_eq_none]
  intro p hp hname
  exact h (List.mem_map.2 ⟨p, hp, of_decide_eq_true hname⟩)

theorem judged (s : Submission) : Judged s := by
  refine ⟨problems_eq_nil_iff s, ⟨rfl, rfl, rfl, rfl, rfl⟩, ?_⟩
  have hnames : Plan.all.map (·.name) = ["Basic", "Standard", "Premium", "Not Sure"] := rfl
  rw [← hnames]
  split
  · rename_i hplan
    obtain ⟨p, -, hp⟩ := List.mem_map.1 hplan
    show ((Plan.ofName? s.plan).map (·.name)).getD "" = s.plan
    rw [← hp, Plan.ofName?_name]
    rfl
  · rename_i hplan
    show ((Plan.ofName? s.plan).map (·.name)).getD "" = ""
    rw [ofName?_eq_none hplan]
    rfl

/-- **Submissions are canonical.** Whatever document is posted, what is read from it has trimmed texts and whole
seconds, is read as itself once more, and depends on the fields of the form only, on the second name of the time only
while the first gives none; it is taken exactly if its four required fields are in order, and its enquiry has its texts
and its plan if that is on offer. -/
theorem submissions_canonical (j : Json) : Canonical j ∧ Judged (Submission.read j) :=
  ⟨canonical_read j, judged _⟩

end EnquiryMail.Enquiry
