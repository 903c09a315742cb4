/-
Messages on the wire. A payload is lines without breaks, stuffed and closed by a lone dot (`Carries`): the nine header
fields, an empty line, and the lines of the body. Whoever takes those lines for a letter reads what was composed.

- `unbroken_normalize`: the lines of a normal text have no breaks.
- `carries_payload`: the lines of a payload.
- `means_letter`: the letter that they make.
-/
import EnquiryMail.Proofs.Mail.Receiver

namespace EnquiryMail.Mail

open EnquiryMail.Text

/-! ## Lines of a body -/

theorem forall_pushFirst {P : List Char → Prop} {c : Char} (hc : ∀ line, P line → P (c :: line))
    {lines : List (List Char)} (hne : lines ≠ []) (h : ∀ line ∈ lines, P line) :
    ∀ line ∈ pushFirst c lines, P line := by
  cases lines with
  | nil => exact absurd rfl hne
  | cons line rest =>
    obtain ⟨hline, hrest⟩ := List.forall_mem_cons.1 h
    exact List.forall_mem_cons.2 ⟨hc line hline, hrest⟩

theorem unbroken_cons {c : Char} (hc : isBreak c = false) {cs : List Char} (h : Unbroken cs) : Unbroken (c :: cs) :=
  List.forall_mem_cons.2 ⟨hc, h⟩

/-- the lines of a normal text have no breaks -/
theorem unbroken_normalize (text : List Char) : ∀ line ∈ splitLines (normalize text), Unbroken line := by
  have hempty : Unbroken [] := fun _ h => absurd h List.not_mem_nil
  fun_induction normalize text with
  | case1 => exact List.forall_mem_cons.2 ⟨hempty, List.forall_mem_nil _⟩
  | case2 rest ih => exact List.forall_mem_cons.2 ⟨hempty, ih⟩
  | case3 rest _ ih => exact List.forall_mem_cons.2 ⟨hempty, ih⟩
  | case4 rest ih => exact List.forall_mem_cons.2 ⟨hempty, ih⟩
  | case5 c rest hpair hcr hlf ih =>
    have hc : isBreak c = false := by
      simp only [isBreak, Bool.or_eq_false_iff, beq_eq_false_iff_ne]
      exact ⟨hcr, hlf⟩
    rw [splitLines.eq_3 c (normalize rest) fun _ h _ => hcr h]
    exact forall_pushFirst (P := Unbroken) (fun _ => unbroken_cons hc) (splitLines_ne_nil _) ih

theorem unbroken_stuffLine {line : List Char} (h : Unbroken line) : Unbroken (stuffLine line) := by
  fun_cases stuffLine line with
  | case1 rest => exact unbroken_cons (by decide) h
  | case2 => exact h

theorem joinLines_terminated {lines : List (List Char)} (h : lines ≠ []) :
    joinLines lines ++ ['\r', '\n'] = terminated lines := by
  induction lines with
  | nil => exact absurd rfl h
  | cons line rest ih =>
    cases rest with
    | nil => simp [joinLines, terminated]
    | cons next rest =>
      rw [joinLines_cons line (by simp), List.append_assoc, List.cons_append, List.cons_append, ih (by simp)]
      simp [terminated]

/-! ## Lines of a payload -/

/-- a payload is these lines, stuffed and closed by a lone dot -/
structure Carries (data : String) (lines : List (List Char)) : Prop where
  unbroken : ∀ line ∈ lines, Unbroken line
  eq : data.toList = terminated (lines.map stuffLine ++ [['.']])

theorem Carries.unbroken_stuffed {data : String} {lines : List (List Char)} (h : Carries data lines) :
    ∀ line ∈ lines.map stuffLine ++ [['.']], Unbroken line := by
  intro line hline
  rcases List.mem_append.1 hline with hline | hline
  · obtain ⟨l, hl, rfl⟩ := List.mem_map.1 hline
    exact unbroken_stuffLine (h.unbroken l hl)
  · rw [List.mem_singleton.1 hline]
    decide

/-- **The end mark occurs in a payload at its end only.** -/
theorem Carries.ending {data : String} {lines : List (List Char)} (h : Carries data lines) {a b : Utf8.Bytes}
    (hab : utf8 data = a ++ [13, 10, 46, 13, 10] ++ b) : b = [] := by
  rw [utf8, h.eq] at hab
  refine eq_nil_of_ending (fun line hline => h.unbroken_stuffed line (List.mem_append_left _ hline)) ?_ hab
  intro hm
  obtain ⟨line, -, hline⟩ := List.mem_map.1 hm
  exact stuffLine_ne_dot line hline

/-- a header field as it is written -/
def fieldLine (f : String × String) : List Char := f.1.toList ++ ':' :: ' ' :: f.2.toList

/-- the lines of a payload, before they are stuffed -/
def payloadLines (e : Envelope) (m : Message) : List (List Char) :=
  (headerFields e m).map fieldLine ++ [] :: splitLines (normalize m.body.toList)

/-- field names are letters and hyphens, so that no field begins with a dot -/
theorem field_name {e : Envelope} {m : Message} {f : String × String} (h : f ∈ headerFields e m) :
    Unbroken f.1.toList ∧ ':' ∉ f.1.toList ∧ ∃ c cs, f.1.toList = c :: cs ∧ c ≠ '.' := by
  simp only [headerFields, List.mem_cons, List.not_mem_nil, or_false] at h
  rcases h with rfl | rfl | rfl | rfl | rfl | rfl | rfl | rfl | rfl
  all_goals refine ⟨?_, ?_, ?_⟩
  all_goals simp [Unbroken, isBreak]

theorem intercalate_eq_joinLines (lines : List (List Char)) : ['\r', '\n'].intercalate lines = joinLines lines := by
  induction lines with
  | nil => rfl
  | cons line rest ih =>
    cases rest with
    | nil => simp [joinLines]
    | cons next rest =>
      rw [joinLines_cons line (by simp), ← ih]
      simp

theorem header_toList (e : Envelope) (m : Message) :
    (header e m).toList = terminated ((headerFields e m).map fieldLine ++ [[]]) := by
  have hfields : ((headerFields e m).map fun f => f.1 ++ ": " ++ f.2).map String.toList =
      (headerFields e m).map fieldLine := by
    rw [List.map_map]
    refine List.map_congr_left fun f _ => ?_
    simp [fieldLine]
  have hcrlf : "\r\n".toList = ['\r', '\n'] := by simp
  have hempty : "\r\n\r\n".toList = ['\r', '\n'] ++ terminated [[]] := by simp [terminated]
  have hne : (headerFields e m).map fieldLine ≠ [] := by simp [headerFields]
  unfold header
  rw [String.toList_append, String.toList_intercalate, hfields, hcrlf, hempty, intercalate_eq_joinLines,
    ← List.append_assoc, joinLines_terminated hne, terminated_append]

/-- a line that does not begin with a dot is not stuffed -/
theorem stuffLine_of_head {line : List Char} (h : line.head? ≠ some '.') : stuffLine line = line := by
  fun_cases stuffLine line with
  | case1 rest => exact absurd rfl h
  | case2 => rfl

theorem fieldLine_ne_dot {e : Envelope} {m : Message} {f : String × String} (h : f ∈ headerFields e m) :
    stuffLine (fieldLine f) = fieldLine f := by
  obtain ⟨-, -, c, cs, hname, hc⟩ := field_name h
  refine stuffLine_of_head ?_
  rw [fieldLine, hname]
  simpa using hc

/-- **The lines of a payload.** -/
theorem carries_payload {e : Envelope} {m : Message} (he : e.Unbroken) (hm : m.problems = []) :
    Carries (payload e m) (payloadLines e m) := by
  refine ⟨fun line hline => ?_, ?_⟩
  · rcases List.mem_append.1 hline with hline | hline
    · obtain ⟨f, hf, rfl⟩ := List.mem_map.1 hline
      rw [fieldLine, unbroken_append]
      refine ⟨(field_name hf).1, unbroken_cons (by decide) (unbroken_cons (by decide) ?_)⟩
      exact unbroken_headerFields he hm f hf
    · rcases List.mem_cons.1 hline with rfl | hline
      · exact fun _ h => nomatch h
      · exact unbroken_normalize _ line hline
  · have hheader : ((headerFields e m).map fieldLine).map stuffLine = (headerFields e m).map fieldLine := by
      rw [List.map_map]
      exact List.map_congr_left fun f hf => fieldLine_ne_dot hf
    have hbody : (splitLines (normalize m.body.toList)).map stuffLine ≠ [] := by simp [splitLines_ne_nil]
    have hend : endOfData = ['\r', '\n'] ++ terminated [['.']] := by simp [endOfData, terminated]
    rw [payload_eq, header_toList, dotStuff, hend, payloadLines, List.map_append, hheader, List.map_cons,
      List.append_assoc, List.append_assoc, ← List.append_assoc (joinLines _), joinLines_terminated hbody]
    have hstuffed : stuffLine [] = [] := rfl
    rw [hstuffed]
    simp only [terminated, List.flatMap_append, List.flatMap_cons, List.append_assoc, List.cons_append]
    rfl

/-! ## Letters -/

/-- what a reader takes the lines of a message for -/
structure Letter where
  fields : List (String × String)
  body : List Char

/-- the name and the value of a header line -/
def readField (line : List Char) : String × String :=
  let name := line.takeWhile (· != ':')
  (String.ofList name, String.ofList (line.drop (name.length + 2)))

/-- header fields up to the first empty line, and the body behind it -/
def Letter.ofLines (lines : List (List Char)) : Letter :=
  let block := lines.takeWhile (· != [])
  ⟨block.map readField, joinLines (lines.drop (block.length + 1))⟩

/-- the names of the header fields -/
def fieldNames : List String :=
  ["Date", "From", "Reply-To", "To", "Subject", "Message-ID", "MIME-Version", "Content-Type",
    "Content-Transfer-Encoding"]

/-- a letter says what a message means -/
structure Letter.Means (l : Letter) (m : Message) : Prop where
  names : l.fields.map Prod.fst = fieldNames
  recipient : l.fields.lookup "To" = some m.recipient
  replyTo : l.fields.lookup "Reply-To" = some m.replyTo
  subject : (l.fields.lookup "Subject").bind (decodeWord? ·.toList) = some m.subject.toList
  body : l.body = normalize m.body.toList

theorem readField_fieldLine {e : Envelope} {m : Message} {f : String × String} (h : f ∈ headerFields e m) :
    readField (fieldLine f) = f := by
  have hcolon := (field_name h).2.1
  have hname : (fieldLine f).takeWhile (· != ':') = f.1.toList := by
    rw [fieldLine, List.takeWhile_append_of_pos]
    · exact List.append_nil _
    · intro c hc
      simpa using fun hcol : c = ':' => hcolon (hcol ▸ hc)
  have hvalue : (fieldLine f).drop (f.1.toList.length + 2) = f.2.toList := by
    rw [fieldLine, List.drop_append]
    simp
  rw [readField, hname, hvalue, String.ofList_toList, String.ofList_toList]

theorem ofLines_payloadLines (e : Envelope) (m : Message) :
    Letter.ofLines (payloadLines e m) = ⟨headerFields e m, normalize m.body.toList⟩ := by
  have hblock : (payloadLines e m).takeWhile (· != []) = (headerFields e m).map fieldLine := by
    rw [payloadLines, List.takeWhile_append_of_pos]
    · exact List.append_nil _
    · intro line hline
      obtain ⟨f, -, rfl⟩ := List.mem_map.1 hline
      simp [fieldLine]
  have hfields : ((headerFields e m).map fieldLine).map readField = headerFields e m := by
    rw [List.map_map]
    conv_rhs => rw [← List.map_id (headerFields e m)]
    exact List.map_congr_left fun f hf => readField_fieldLine hf
  have hbody : (payloadLines e m).drop (((headerFields e m).map fieldLine).length + 1) =
      splitLines (normalize m.body.toList) := by
    rw [payloadLines, List.drop_append]
    simp
  rw [Letter.ofLines, hblock, hfields, hbody, joinLines_splitLines]

/-- **A payload says what its message means.** -/
theorem means_letter (e : Envelope) (m : Message) : (Letter.ofLines (payloadLines e m)).Means m := by
  have hsubject : (headerFields e m).lookup "Subject" = some (String.ofList (encodeWord m.subject.toList)) := by
    simp [headerFields, List.lookup_cons]
  rw [ofLines_payloadLines]
  refine ⟨rfl, by simp [headerFields, List.lookup_cons], by simp [headerFields, List.lookup_cons], ?_, rfl⟩
  rw [hsubject, Option.bind_some, String.toList_ofList, decodeWord?_encodeWord]

end EnquiryMail.Mail
