/-
The dot rule as a code. Stuffing forgets how a line was broken and nothing else: what it gives is read back as the
normal text, and the texts that it gives are told by looking at them.

- `normal_iff_unbroken`: breaks stand in pairs when no line between pairs has one.
- `splitLines_dotStuff`: the lines of a stuffed text.
- `dotUnstuff_dotStuff`: a stuffed text is read back.
- `dotStuff_dotUnstuff`: a text whose dots are doubled is stuffed from what it is read as.
- `stuffing_exact`: all of it together, with the texts that stuffing gives.
-/
import EnquiryMail.Proofs.Mail.Payload

namespace EnquiryMail.Mail

/-- carriage returns and line feeds occur as CR LF only -/
def Normal : List Char → Prop
  | [] => True
  | '\r' :: '\n' :: rest => Normal rest
  | c :: rest => isBreak c = false ∧ Normal rest

/-- a line that begins with a dot begins with two -/
def Doubled (line : List Char) : Prop := line.head? = some '.' → ['.', '.'] <+: line

/-! ## Normal texts -/

theorem forall_unbroken_pushFirst (c : Char) {lines : List (List Char)} (hne : lines ≠ []) :
    (∀ line ∈ pushFirst c lines, Unbroken line) ↔ isBreak c = false ∧ ∀ line ∈ lines, Unbroken line := by
  cases lines with
  | nil => exact absurd rfl hne
  | cons line rest => simp only [pushFirst, Unbroken, List.forall_mem_cons, and_assoc]

/-- **Breaks stand in pairs when no line between pairs has one.** -/
theorem normal_iff_unbroken (text : List Char) : Normal text ↔ ∀ line ∈ splitLines text, Unbroken line := by
  fun_induction splitLines text with
  | case1 => simp [Normal, Unbroken]
  | case2 rest ih => simp [Normal, Unbroken, ih]
  | case3 c rest hpair ih => rw [Normal.eq_3 c rest hpair, forall_unbroken_pushFirst c (splitLines_ne_nil rest), ih]

theorem normal_normalize (text : List Char) : Normal (normalize text) :=
  (normal_iff_unbroken _).2 (unbroken_normalize text)

/-- a normal text stays as it is -/
theorem normalize_of_normal {text : List Char} (h : Normal text) : normalize text = text := by
  fun_induction Normal text with
  | case1 => rfl
  | case2 rest ih => rw [normalize, ih h]
  | case3 c rest hpair ih =>
    obtain ⟨hc, hrest⟩ := h
    have hcr : c ≠ '\r' := by rintro rfl; cases hc
    have hlf : c ≠ '\n' := by rintro rfl; cases hc
    rw [normalize.eq_5 c rest (fun _ hr _ => hcr hr) hcr hlf, ih hrest]

/-! ## Lines of a stuffed text -/

theorem splitLines_dotStuff (text : List Char) :
    splitLines (dotStuff text) = (splitLines (normalize text)).map stuffLine := by
  have hne : (splitLines (normalize text)).map stuffLine ≠ [] := by simp [splitLines_ne_nil]
  refine splitLines_joinLines _ hne ?_
  intro line hline
  obtain ⟨l, hl, rfl⟩ := List.mem_map.1 hline
  exact (unbroken_stuffLine (unbroken_normalize text l hl)).lf

/-- **A stuffed text is read back, its breaks as pairs.** -/
theorem dotUnstuff_dotStuff (text : List Char) : dotUnstuff (dotStuff text) = normalize text := by
  have hback : ((splitLines (normalize text)).map stuffLine).map unstuffLine = splitLines (normalize text) := by
    rw [List.map_map]
    exact List.map_id'' unstuffLine_stuffLine _
  rw [dotUnstuff, splitLines_dotStuff, hback, joinLines_splitLines]

theorem dotStuff_normalize (text : List Char) : dotStuff (normalize text) = dotStuff text := by
  rw [dotStuff, normalize_normalize, dotStuff]

theorem normal_dotStuff (text : List Char) : Normal (dotStuff text) := by
  rw [normal_iff_unbroken, splitLines_dotStuff]
  intro line hline
  obtain ⟨l, hl, rfl⟩ := List.mem_map.1 hline
  exact unbroken_stuffLine (unbroken_normalize text l hl)

theorem doubled_stuffLine (line : List Char) : Doubled (stuffLine line) := by
  intro hdot
  by_cases hline : line.head? = some '.'
  · obtain ⟨rest, rfl⟩ : ∃ rest, line = '.' :: rest := List.head?_eq_some_iff.1 hline
    exact ⟨rest, rfl⟩
  · rw [stuffLine_of_head hline] at hdot
    exact absurd hdot hline

theorem doubled_dotStuff (text : List Char) : ∀ line ∈ splitLines (dotStuff text), Doubled line := by
  rw [splitLines_dotStuff]
  intro line hline
  obtain ⟨l, -, rfl⟩ := List.mem_map.1 hline
  exact doubled_stuffLine l

/-- a lone dot is not doubled -/
theorem Doubled.ne_dot {line : List Char} (h : Doubled line) : line ≠ ['.'] := by
  rintro rfl
  have hlength := (h rfl).length_le
  simp at hlength

/-! ## Back from a doubled text -/

theorem unbroken_unstuffLine {line : List Char} (h : Unbroken line) : Unbroken (unstuffLine line) := by
  fun_cases unstuffLine line with
  | case1 rest => exact (List.forall_mem_cons.1 h).2
  | case2 => exact h

theorem stuffLine_unstuffLine {line : List Char} (h : Doubled line) : stuffLine (unstuffLine line) = line := by
  by_cases hdot : line.head? = some '.'
  · obtain ⟨rest, rfl⟩ := h hdot
    rfl
  · have hsame : unstuffLine line = line := by
      fun_cases unstuffLine line with
      | case1 rest => exact absurd rfl hdot
      | case2 => rfl
    rw [hsame, stuffLine_of_head hdot]

theorem splitLines_dotUnstuff {text : List Char} (h : Normal text) :
    splitLines (dotUnstuff text) = (splitLines text).map unstuffLine := by
  have hne : (splitLines text).map unstuffLine ≠ [] := by simp [splitLines_ne_nil]
  refine splitLines_joinLines _ hne ?_
  intro line hline
  obtain ⟨l, hl, rfl⟩ := List.mem_map.1 hline
  exact (unbroken_unstuffLine ((normal_iff_unbroken text).1 h l hl)).lf

theorem normal_dotUnstuff {text : List Char} (h : Normal text) : Normal (dotUnstuff text) := by
  rw [normal_iff_unbroken, splitLines_dotUnstuff h]
  intro line hline
  obtain ⟨l, hl, rfl⟩ := List.mem_map.1 hline
  exact unbroken_unstuffLine ((normal_iff_unbroken text).1 h l hl)

/-- **A normal text whose dots are doubled is stuffed from what it is read as.** -/
theorem dotStuff_dotUnstuff {text : List Char} (h : Normal text) (hdots : ∀ line ∈ splitLines text, Doubled line) :
    dotStuff (dotUnstuff text) = text := by
  have hlines : ((splitLines text).map unstuffLine).map stuffLine = splitLines text := by
    rw [List.map_map]
    conv_rhs => rw [← List.map_id (splitLines text)]
    exact List.map_congr_left fun line hline => stuffLine_unstuffLine (hdots line hline)
  calc dotStuff (dotUnstuff text)
      = joinLines ((splitLines (dotUnstuff text)).map stuffLine) := by
        rw [dotStuff, normalize_of_normal (normal_dotUnstuff h)]
    _ = joinLines (splitLines text) := by rw [splitLines_dotUnstuff h, hlines]
    _ = text := joinLines_splitLines text

/-- **Stuffing is an exact code for texts up to the way their lines are broken.** Every text is read back as the
normal text, which is the same for all ways to break its lines; no line of what is sent is a lone dot; and a text
comes back from being read and stuffed exactly when it is a stuffed text, that is, when its breaks stand in pairs and
the dots that begin its lines are doubled. -/
theorem stuffing_exact :
    (∀ text : List Char,
      dotUnstuff (dotStuff text) = normalize text ∧
      normalize (normalize text) = normalize text ∧ Normal (normalize text) ∧
      dotStuff text = dotStuff (normalize text) ∧
      ['.'] ∉ splitLines (dotStuff text)) ∧
    ∀ sent : List Char,
      (dotStuff (dotUnstuff sent) = sent ↔ ∃ text, sent = dotStuff text) ∧
      ((∃ text, sent = dotStuff text) ↔ Normal sent ∧ ∀ line ∈ splitLines sent, Doubled line) := by
  constructor
  · intro text
    refine ⟨dotUnstuff_dotStuff text, normalize_normalize text, normal_normalize text, (dotStuff_normalize text).symm,
      ?_⟩
    intro hdot
    exact (doubled_dotStuff text _ hdot).ne_dot rfl
  · intro sent
    have himage : (∃ text, sent = dotStuff text) → Normal sent ∧ ∀ line ∈ splitLines sent, Doubled line := by
      rintro ⟨text, rfl⟩
      exact ⟨normal_dotStuff text, doubled_dotStuff text⟩
    refine ⟨⟨fun h => ⟨_, h.symm⟩, ?_⟩, himage, ?_⟩
    · intro h
      obtain ⟨hnormal, hdots⟩ := himage h
      exact dotStuff_dotUnstuff hnormal hdots
    · rintro ⟨hnormal, hdots⟩
      exact ⟨dotUnstuff sent, (dotStuff_dotUnstuff hnormal hdots).symm⟩

end EnquiryMail.Mail
