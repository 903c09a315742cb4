/-
The layout of a mail text. Whoever receives the mail of an enquiry sees its entries one after another, each entry in as
many lines as it has; while name, company and phone are in one line each, that is a fixed layout: the title and its
underline, one labelled line a field, and the message below its heading. From it the enquiry is read back, but for a
phone that is itself the text for no phone.

- `linesOf_joinLines`: the lines of entries that are joined.
- `lines_body`: the lines of a mail text.
- `laidOut_lines`, `readLines_lines`: the layout, and what is read from it.
- `bodies_laid_out`: when the mail text of an enquiry that is taken has the layout, and what is read from it then.
- `layout_broken`: a name in two lines shows an address of its own, and a phone can be the text for no phone.
-/
import EnquiryMail.Enquiry.Body
import EnquiryMail.Proofs.Enquiry.Coercion
import EnquiryMail.Proofs.Mail.Address
import EnquiryMail.Proofs.Mail.Stuffing

namespace EnquiryMail

/-! ## Lines of a received text -/

namespace Mail

/-- the lines of a text as whoever receives it sees them -/
def linesOf (text : List Char) : List (List Char) := splitLines (normalize text)

theorem linesOf_ne_nil (text : List Char) : linesOf text ≠ [] := splitLines_ne_nil _

theorem joinLines_append {xs ys : List (List Char)} (hxs : xs ≠ []) (hys : ys ≠ []) :
    joinLines (xs ++ ys) = joinLines xs ++ '\r' :: '\n' :: joinLines ys := by
  induction xs with
  | nil => exact absurd rfl hxs
  | cons x xs ih =>
    by_cases hrest : xs = []
    · rw [hrest, List.singleton_append, joinLines_cons x hys]
      rfl
    · rw [List.cons_append, joinLines_cons x (by simp [hrest]), ih hrest, joinLines_cons x hrest, List.append_assoc]
      rfl

/-- a break that is a pair already keeps what is in front of it apart from what is behind -/
theorem normalize_append (a b : List Char) :
    normalize (a ++ '\r' :: '\n' :: b) = normalize a ++ '\r' :: '\n' :: normalize b := by
  fun_induction normalize a with
  | case1 => rw [List.nil_append, normalize, List.nil_append]
  | case2 rest ih => rw [List.cons_append, List.cons_append, normalize, ih, List.cons_append, List.cons_append]
  | case3 rest hrest ih =>
    have hhead : ∀ tail, rest ++ '\r' :: '\n' :: b ≠ '\n' :: tail := by
      intro tail htail
      cases rest with
      | nil => cases htail
      | cons c cs =>
        obtain ⟨rfl, -⟩ := List.cons.inj htail
        exact hrest cs rfl
    rw [List.cons_append, normalize.eq_3 _ hhead, ih, List.cons_append, List.cons_append]
  | case4 rest ih => rw [List.cons_append, normalize, ih, List.cons_append, List.cons_append]
  | case5 c rest hpair hcr hlf ih =>
    rw [List.cons_append, normalize.eq_5 c _ (fun _ hc _ => hcr hc) hcr hlf, ih, List.cons_append]

theorem linesOf_append (a b : List Char) : linesOf (a ++ '\r' :: '\n' :: b) = linesOf a ++ linesOf b := by
  have hboth : linesOf a ++ linesOf b ≠ [] := by simp [linesOf_ne_nil]
  have hlines : ∀ line ∈ linesOf a ++ linesOf b, '\n' ∉ line := by
    intro line hline
    rcases List.mem_append.1 hline with hline | hline
    · exact (unbroken_normalize a line hline).lf
    · exact (unbroken_normalize b line hline).lf
  rw [← splitLines_joinLines _ hboth hlines, joinLines_append (linesOf_ne_nil a) (linesOf_ne_nil b)]
  simp only [linesOf, joinLines_splitLines, normalize_append]

/-- **The lines of entries that are joined** are those of each entry, in order. -/
theorem linesOf_joinLines {entries : List (List Char)} (h : entries ≠ []) :
    linesOf (joinLines entries) = entries.flatMap linesOf := by
  induction entries with
  | nil => exact absurd rfl h
  | cons entry rest ih =>
    by_cases hrest : rest = []
    · rw [hrest, List.flatMap_singleton]
      rfl
    · rw [joinLines_cons entry hrest, linesOf_append, ih hrest, List.flatMap_cons]

theorem linesOf_unbroken {line : List Char} (h : Unbroken line) : linesOf line = [line] := by
  have hsplit : splitLines line = [line] := splitLines_line line h.lf
  have hnormal : Normal line := by
    rw [normal_iff_unbroken, hsplit]
    simpa using h
  rw [linesOf, normalize_of_normal hnormal, hsplit]

theorem joinLines_linesOf (text : List Char) : joinLines (linesOf text) = normalize text := joinLines_splitLines _

end Mail

namespace Enquiry

open Mail (Unbroken linesOf linesOf_joinLines linesOf_unbroken linesOf_ne_nil joinLines joinLines_append
  joinLines_linesOf normalize unbroken_append unbroken_normalize intercalate_eq_joinLines unbroken_of_isAddress)

/-! ## The lines of a mail text -/

/-- the lines that a receiver sees of the mail text of an enquiry -/
def lines (e : Enquiry) (siteName : String) : List (List Char) := linesOf (body e siteName).toList

theorem toList_body (e : Enquiry) (siteName : String) :
    (body e siteName).toList = joinLines ((bodyLines e siteName).map String.toList ++ [[]]) := by
  rw [joinLines_append (by simp [bodyLines]) (by simp), ← intercalate_eq_joinLines]
  simp [body, joinLines]

/-- **The lines of a mail text** are those of its entries, each in as many lines as it has, and an empty one behind. -/
theorem lines_body (e : Enquiry) (siteName : String) :
    lines e siteName = ((bodyLines e siteName).flatMap fun entry => linesOf entry.toList) ++ [[]] := by
  rw [lines, toList_body, linesOf_joinLines (by simp), List.flatMap_append, List.flatMap_map]
  rfl

/-! ## The layout -/

/-- the labels of the fields, in the order of their lines -/
def labels : List String := ["Name:    ", "Email:   ", "Company: ", "Phone:   ", "Plan:    "]

/-- the texts of the fields, in that order -/
def shown (e : Enquiry) : List String :=
  [e.name, e.email, e.company, if e.phone = "" then "Not provided" else e.phone,
    (e.plan.map (·.name)).getD "Not specified"]

/-- the texts that a field line shows, and the name of the site, are in one line each -/
structure InLines (e : Enquiry) (siteName : String) : Prop where
  site : Unbroken siteName.toList
  shown : ∀ text ∈ shown e, Unbroken text.toList

/-- the fixed layout of a mail text -/
structure LaidOut (e : Enquiry) (siteName : String) (lines : List (List Char)) : Prop where
  /-- line 1 is the title -/
  title : lines[0]? = some ("New enterprise enquiry from " ++ siteName).toList
  /-- line 2 underlines it, unit by unit -/
  underline : lines[1]? = some (List.replicate (Text.units ("New enterprise enquiry from " ++ siteName).toList) '=')
  /-- lines 4 to 8 are the fields, each behind its label -/
  fields : (lines.drop 3).take 5 = List.zipWith (fun label text => (label ++ text).toList) labels (shown e)
  /-- above the message only the line of a field begins with its label -/
  apart : ∀ i < 11, ∀ line, lines[i]? = some line →
    ∀ k label, labels[k]? = some label → label.toList <+: line → i = k + 3
  /-- from line 12 on stands the message, its breaks as pairs, and the last break -/
  message : joinLines (lines.drop 11) = normalize e.message.toList ++ ['\r', '\n']

/-- what is read from a mail text -/
structure Recovered where
  name : String
  email : String
  company : String
  phone : String
  plan : Option Plan
  message : List Char
  deriving DecidableEq

/-- what stands behind a label -/
def behind? (label : String) (line : List Char) : Option String :=
  if label.toList <+: line then some (String.ofList (line.drop label.toList.length)) else none

/-- reads the lines of a mail text; a phone or plan that shows the text for none is none -/
def readLines : List (List Char) → Option Recovered
  | _ :: _ :: _ :: name :: email :: company :: phone :: plan :: _ :: _ :: _ :: rest => do
    let name ← behind? "Name:    " name
    let email ← behind? "Email:   " email
    let company ← behind? "Company: " company
    let phone ← behind? "Phone:   " phone
    let plan ← behind? "Plan:    " plan
    some ⟨name, email, company, if phone = "Not provided" then "" else phone, Plan.ofName? plan,
      joinLines rest.dropLast⟩
  | _ => none

variable {e : Enquiry} {siteName : String}

/-- the entries above the message -/
def preface (e : Enquiry) (siteName : String) : List (List Char) := ((bodyLines e siteName).take 11).map String.toList

theorem map_bodyLines (e : Enquiry) (siteName : String) :
    (bodyLines e siteName).map String.toList = preface e siteName ++ [e.message.toList] := by
  simp only [preface, bodyLines, List.take_succ_cons, List.take_zero, List.map_cons, List.map_nil, List.cons_append,
    List.nil_append]

theorem unbroken_preface (h : InLines e siteName) : ∀ entry ∈ preface e siteName, Unbroken entry := by
  obtain ⟨hsite, hshown⟩ := h
  simp only [shown, List.forall_mem_cons] at hshown
  obtain ⟨hname, hemail, hcompany, hphone, hplan, -⟩ := hshown
  have hunderline : ∀ n, Unbroken (String.ofList (List.replicate n '=')).toList := by
    intro n c hc
    rw [String.toList_ofList] at hc
    rw [List.eq_of_mem_replicate hc]
    decide
  have hbehind : ∀ {label text : String}, Unbroken label.toList → Unbroken text.toList →
      Unbroken (label ++ text).toList := by
    intro label text hlabel htext
    rw [String.toList_append, unbroken_append]
    exact ⟨hlabel, htext⟩
  simp only [preface, bodyLines, List.take_succ_cons, List.take_zero, List.map_cons, List.map_nil, List.forall_mem_cons]
  exact ⟨hbehind (by decide +kernel) hsite, hunderline _, by decide, hbehind (by decide) hname,
    hbehind (by decide) hemail, hbehind (by decide) hcompany, hbehind (by decide) hphone, hbehind (by decide) hplan,
    by decide, by decide, by decide, List.forall_mem_nil _⟩

theorem lines_eq (h : InLines e siteName) :
    lines e siteName = preface e siteName ++ linesOf e.message.toList ++ [[]] := by
  have hsingle : ∀ entries : List (List Char), (∀ entry ∈ entries, Unbroken entry) →
      entries.flatMap linesOf = entries := by
    intro entries hentries
    induction entries with
    | nil => rfl
    | cons entry rest ih =>
      obtain ⟨hentry, hrest⟩ := List.forall_mem_cons.1 hentries
      rw [List.flatMap_cons, linesOf_unbroken hentry, ih hrest, List.singleton_append]
  rw [lines_body, ← List.flatMap_map, map_bodyLines, List.flatMap_append, hsingle _ (unbroken_preface h),
    List.flatMap_singleton]

/-- two beginnings of one line that are equally long are the same -/
theorem eq_of_begins {a b line : List Char} (ha : a <+: line) (hb : b <+: line) (h : a.length = b.length) : a = b :=
  (List.prefix_of_prefix_length_le ha hb h.le).eq_of_length h

theorem length_label {k : Nat} {label : String} (h : labels[k]? = some label) : label.toList.length = 9 := by
  have hall : ∀ label ∈ labels, label.toList.length = 9 := by decide +kernel
  exact hall _ (List.mem_of_getElem? h)

/-- a field line begins with no label but its own -/
theorem place_of_field {k : Nat} {label own text : String} (hown : labels[k]? = some own) {i : Nat}
    (h : labels[i]? = some label) (hbegins : label.toList <+: (own ++ text).toList) : k = i := by
  have hsame : label.toList = own.toList := by
    rw [String.toList_append] at hbegins
    exact eq_of_begins hbegins (List.prefix_append _ _) ((length_label h).trans (length_label hown).symm)
  have hnodup : labels.Nodup := by decide +kernel
  obtain ⟨hk, hgetk⟩ := List.getElem?_eq_some_iff.1 hown
  obtain ⟨hi, hgeti⟩ := List.getElem?_eq_some_iff.1 h
  exact (List.Nodup.getElem_inj_iff hnodup).1 (hgetk.trans ((String.toList_inj.1 hsame).symm.trans hgeti.symm))

/-- neither title nor underline begins with a label -/
theorem not_title {k : Nat} {label : String} (h : labels[k]? = some label) (siteName : String) :
    ¬ label.toList <+: (title siteName).toList := by
  intro hbegins
  have hstart : "New enter".toList <+: (title siteName).toList := by
    have hopening : "New enter".toList <+: "New enterprise enquiry from ".toList := by decide +kernel
    have htitle : (title siteName).toList = "New enterprise enquiry from ".toList ++ siteName.toList :=
    String.toList_append
    rw [htitle]
    exact hopening.trans (List.prefix_append _ _)
  have hsize : "New enter".toList.length = 9 := by decide +kernel
  have hnone : ∀ label ∈ labels, label.toList ≠ "New enter".toList := by decide +kernel
  exact hnone _ (List.mem_of_getElem? h) (eq_of_begins hbegins hstart ((length_label h).trans hsize.symm))

theorem not_underline {k : Nat} {label : String} (h : labels[k]? = some label) (n : Nat) :
    ¬ label.toList <+: (String.ofList (List.replicate n '=')).toList := by
  intro hbegins
  have hcolon : ∀ label ∈ labels, ':' ∈ label.toList := by decide +kernel
  have hmem := hbegins.subset (hcolon _ (List.mem_of_getElem? h))
  rw [String.toList_ofList] at hmem
  exact absurd (List.eq_of_mem_replicate hmem) (by decide)

/-- above the message only the line of a field begins with its label -/
theorem place_of_label {i k : Nat} {line : List Char} {label : String} (hline : (preface e siteName)[i]? = some line)
    (h : labels[k]? = some label) (hbegins : label.toList <+: line) : i = k + 3 := by
  have hlong := (length_label h).symm.trans_le hbegins.length_le
  have hi : i < 11 := by simpa [preface, bodyLines] using (List.getElem?_eq_some_iff.1 hline).1
  have hfield : ∀ own text, labels[i - 3]? = some own → line = (own ++ text).toList → i - 3 = k := by
    rintro own text hown rfl
    exact place_of_field hown h hbegins
  simp only [preface, bodyLines, List.take_succ_cons, List.take_zero, List.map_cons, List.map_nil] at hline
  interval_cases i <;> obtain rfl := Option.some.inj hline
  case «0» => exact absurd hbegins (not_title h siteName)
  case «1» => exact absurd hbegins (not_underline h _)
  case «3» | «4» | «5» | «6» | «7» =>
    have := hfield _ _ rfl rfl
    omega
  all_goals exact absurd hlong (by decide)

/-! ## The layout of what is taken -/

theorem laidOut_lines (h : InLines e siteName) : LaidOut e siteName (lines e siteName) := by
  have hlength : (preface e siteName).length = 11 := by simp [preface, bodyLines]
  have hfront : ∀ i < 11, (lines e siteName)[i]? = (preface e siteName)[i]? := by
    intro i hi
    rw [lines_eq h, List.append_assoc, List.getElem?_append_left (by omega)]
  have hdrop : (lines e siteName).drop 11 = linesOf e.message.toList ++ [[]] := by
    rw [lines_eq h, List.append_assoc, List.drop_left' hlength]
  constructor
  case title =>
    rw [hfront 0 (by decide)]
    rfl
  case underline =>
    rw [hfront 1 (by decide), preface, ← String.toList_ofList (l := List.replicate _ '=')]
    rfl
  case fields =>
    rw [lines_eq h, List.append_assoc, List.drop_append_of_le_length (by omega),
      List.take_append_of_le_length (by simp [hlength])]
    rfl
  case apart =>
    intro i hi line hline k label hlabel hbegins
    rw [hfront i hi] at hline
    exact place_of_label hline hlabel hbegins
  case message =>
    rw [hdrop, joinLines_append (linesOf_ne_nil _) (List.cons_ne_nil _ _), joinLines_linesOf]
    rfl

theorem behind?_label (label text : String) : behind? label (label ++ text).toList = some text := by
  have hline : (label ++ text).toList = label.toList ++ text.toList := String.toList_append
  rw [behind?, hline, if_pos (List.prefix_append _ _), List.drop_left, String.ofList_toList]

theorem ofName?_shown (plan : Option Plan) : Plan.ofName? ((plan.map (·.name)).getD "Not specified") = plan := by
  cases plan with
  | none => decide +kernel
  | some p => exact Plan.ofName?_name p

/-- what can be read from the mail text of an enquiry: all of it, but for a phone that is the text for no phone -/
def recovered (e : Enquiry) : Recovered :=
  ⟨e.name, e.email, e.company, if e.phone = "Not provided" then "" else e.phone, e.plan, normalize e.message.toList⟩

theorem readLines_lines (h : InLines e siteName) : readLines (lines e siteName) = some (recovered e) := by
  have hphone : (if (if e.phone = "" then "Not provided" else e.phone) = "Not provided" then "" else
      if e.phone = "" then "Not provided" else e.phone) = if e.phone = "Not provided" then "" else e.phone := by
    by_cases hempty : e.phone = ""
    · simp [hempty]
    · simp [hempty]
  rw [lines_eq h, preface, bodyLines]
  simp only [List.take_succ_cons, List.take_zero, List.map_cons, List.map_nil, List.cons_append, List.nil_append,
    readLines, behind?_label, Option.bind_eq_bind, Option.bind_some, List.dropLast_concat, joinLines_linesOf,
    ofName?_shown, hphone, recovered]

/-- the texts that a document gives for name, company and phone are in one line each -/
structure PlainFields (j : Json) : Prop where
  name : Unbroken (Submission.read j).name.toList
  company : Unbroken (Submission.read j).company.toList
  phone : Unbroken (Submission.read j).phone.toList

/-- an enquiry that is taken is in lines if its name, company and phone are -/
theorem inLines_of_taken {j : Json} (hsite : Unbroken siteName.toList) (htaken : (Submission.read j).problems = [])
    (hplain : PlainFields j) : InLines (Submission.read j).enquiry siteName := by
  have hemail := unbroken_of_isAddress ((problems_eq_nil_iff _).1 htaken).2.2.1
  have hnames : ∀ p : Plan, Unbroken p.name.toList := fun p => by cases p <;> decide
  refine ⟨hsite, ?_⟩
  simp only [shown, List.forall_mem_cons]
  refine ⟨hplain.name, hemail, hplain.company, ?_, ?_, List.forall_mem_nil _⟩
  · show Unbroken (if (Submission.read j).phone = "" then "Not provided" else (Submission.read j).phone).toList
    split
    · decide
    · exact hplain.phone
  · cases (Submission.read j).enquiry.plan with
    | none => decide
    | some p => exact hnames p

/-- a mail text that is laid out has nothing but lines, so name, company and phone are in one line each -/
theorem plainFields_of_laidOut {j : Json}
    (h : LaidOut (Submission.read j).enquiry siteName (lines (Submission.read j).enquiry siteName)) :
    PlainFields j := by
  have hlines : ∀ line ∈ List.zipWith (fun label text => (label ++ text).toList) labels
      (shown (Submission.read j).enquiry), Unbroken line := by
    intro line hline
    rw [← h.fields] at hline
    exact unbroken_normalize _ line (List.mem_of_mem_drop (List.mem_of_mem_take hline))
  have hshown : ∀ label text : String, Unbroken (label ++ text).toList → Unbroken text.toList := by
    intro label text hline
    have happend : (label ++ text).toList = label.toList ++ text.toList := String.toList_append
    rw [happend, unbroken_append] at hline
    exact hline.2
  simp only [labels, shown, List.zipWith_cons_cons, List.forall_mem_cons] at hlines
  obtain ⟨hname, -, hcompany, hphone, -⟩ := hlines
  refine ⟨hshown _ _ hname, hshown _ _ hcompany, ?_⟩
  have hphone := hshown _ _ hphone
  change Unbroken (Submission.read j).enquiry.phone.toList
  split at hphone
  · rename_i hempty
    rw [hempty]
    decide
  · exact hphone

/-- **Mail texts are laid out.** The mail text of an enquiry that is taken has the fixed layout exactly if its name,
company and phone are in one line each, under any name of the site in one line. Everything is then read back from it,
but for a phone that is the text for no phone. -/
theorem bodies_laid_out {j : Json} {siteName : String} (hsite : Unbroken siteName.toList)
    (htaken : (Submission.read j).problems = []) :
    (LaidOut (Submission.read j).enquiry siteName (lines (Submission.read j).enquiry siteName) ↔ PlainFields j) ∧
      (PlainFields j →
        readLines (lines (Submission.read j).enquiry siteName) = some (recovered (Submission.read j).enquiry)) :=
  ⟨⟨plainFields_of_laidOut, fun hplain => laidOut_lines (inLines_of_taken hsite htaken hplain)⟩,
    fun hplain => readLines_lines (inLines_of_taken hsite htaken hplain)⟩

/-- a form with a name and a phone of its own -/
def formOf (name phone : String) : Json :=
  .obj [("name", .str name), ("email", .str "ada@example.org"), ("company", .str "Engines"), ("phone", .str phone),
    ("plan", .str "Premium"), ("message", .str "We would like\rto talk.")]

/-- a message with a lone carriage return, and an accented name -/
theorem bodies_laid_out_accented :
    (Unbroken "example.com".toList ∧ (Submission.read (formOf "Zoé" " 1 2 ")).problems = [] ∧
      PlainFields (formOf "Zoé" " 1 2 ")) ∧
    LaidOut (Submission.read (formOf "Zoé" " 1 2 ")).enquiry "example.com"
      (lines (Submission.read (formOf "Zoé" " 1 2 ")).enquiry "example.com") ∧
    readLines (lines (Submission.read (formOf "Zoé" " 1 2 ")).enquiry "example.com") =
      some ⟨"Zoé", "ada@example.org", "Engines", "1 2", some .premium, "We would like\r\nto talk.".toList⟩ := by
  have hsite : Unbroken "example.com".toList := by decide +kernel
  have htaken : (Submission.read (formOf "Zoé" " 1 2 ")).problems = [] := by decide +kernel
  have hplain : PlainFields (formOf "Zoé" " 1 2 ") := ⟨by decide +kernel, by decide +kernel, by decide +kernel⟩
  obtain ⟨hlaid, hread⟩ := bodies_laid_out hsite htaken
  refine ⟨⟨hsite, htaken, hplain⟩, hlaid.2 hplain, ?_⟩
  rw [hread hplain]
  decide +kernel

/-- **A name in two lines breaks the layout**: it shows an address of its own where that of the enquiry should stand.
And **a phone can be the text for no phone**, so that two enquiries have the same mail text. -/
theorem layout_broken :
    let forged := (Submission.read (formOf "Ada\r\nEmail:   forged@example.net" "")).enquiry
    let unnamed := (Submission.read (formOf "Ada" "")).enquiry
    let named := (Submission.read (formOf "Ada" "Not provided")).enquiry
    ((Submission.read (formOf "Ada\r\nEmail:   forged@example.net" "")).problems = [] ∧
      forged.email = "ada@example.org" ∧
      (lines forged "example.com")[4]? = some "Email:   forged@example.net".toList ∧
      ¬ LaidOut forged "example.com" (lines forged "example.com")) ∧
    (Submission.read (formOf "Ada" "")).problems = [] ∧ (Submission.read (formOf "Ada" "Not provided")).problems = [] ∧
      unnamed.phone ≠ named.phone ∧ lines unnamed "example.com" = lines named "example.com" := by
  intro forged unnamed named
  have hline : (lines forged "example.com")[4]? = some "Email:   forged@example.net".toList := by
    rw [lines_body]
    decide +kernel
  have hsame : bodyLines unnamed "example.com" = bodyLines named "example.com" := by decide +kernel
  refine ⟨⟨by decide +kernel, by decide +kernel, hline, fun hlaid => ?_⟩, by decide +kernel, by decide +kernel,
    by decide +kernel, by rw [lines_body, lines_body, hsame]⟩
  have hfields := congrArg (·[1]?) hlaid.fields
  have hshown : (List.zipWith (fun label text => (label ++ text).toList) labels (shown forged))[1]? =
      some "Email:   ada@example.org".toList := by decide +kernel
  simp only [List.getElem?_take_of_lt (by decide : 1 < 5), List.getElem?_drop, hline, hshown] at hfields
  revert hfields
  decide +kernel

end Enquiry

end EnquiryMail
