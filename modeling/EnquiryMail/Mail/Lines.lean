/-
Line endings and the dot rule of the DATA phase. A text is read as lines ended by CR LF, CR or LF; on the wire
every line break is CR LF, and a line that begins with a dot gets one more, so that no line is a lone dot.

`normalize_normalize`: normal text stays as it is. `splitLines_joinLines` and `joinLines_splitLines` tie the list
of lines to the text.
-/

namespace EnquiryMail.Mail

/-- every CR LF, CR or LF as CR LF -/
def normalize : List Char → List Char
  | [] => []
  | '\r' :: '\n' :: rest => '\r' :: '\n' :: normalize rest
  | '\r' :: rest => '\r' :: '\n' :: normalize rest
  | '\n' :: rest => '\r' :: '\n' :: normalize rest
  | c :: rest => c :: normalize rest

/-- puts a character in front of the first line -/
def pushFirst (c : Char) : List (List Char) → List (List Char)
  | [] => [[c]]
  | line :: rest => (c :: line) :: rest

/-- the pieces between occurrences of CR LF -/
def splitLines : List Char → List (List Char)
  | [] => [[]]
  | '\r' :: '\n' :: rest => [] :: splitLines rest
  | c :: rest => pushFirst c (splitLines rest)

/-- lines with CR LF between them -/
def joinLines : List (List Char) → List Char
  | [] => []
  | [line] => line
  | line :: rest => line ++ '\r' :: '\n' :: joinLines rest

/-- one more dot in front of a dot -/
def stuffLine : List Char → List Char
  | '.' :: rest => '.' :: '.' :: rest
  | line => line

/-- one dot less -/
def unstuffLine : List Char → List Char
  | '.' :: rest => rest
  | line => line

/-- the text as it is sent, dots doubled -/
def dotStuff (text : List Char) : List Char := joinLines ((splitLines (normalize text)).map stuffLine)

/-- the text without the doubled dots -/
def dotUnstuff (text : List Char) : List Char := joinLines ((splitLines text).map unstuffLine)

/-- closes the payload: a lone dot on a line -/
def endOfData : List Char := ['\r', '\n', '.', '\r', '\n']

theorem normalize_normalize (text : List Char) : normalize (normalize text) = normalize text := by
  fun_induction normalize text with
  | case1 => rfl
  | case2 rest ih => simp [normalize, ih]
  | case3 rest _ ih => simp [normalize, ih]
  | case4 rest ih => simp [normalize, ih]
  | case5 c rest _ hr hn ih =>
    rw [normalize.eq_5 c (normalize rest) (by simp_all) (by simp_all) (by simp_all), ih]

theorem splitLines_ne_nil (cs : List Char) : splitLines cs ≠ [] := by
  fun_cases splitLines cs with
  | case1 => simp
  | case2 => simp
  | case3 c rest => cases h : splitLines rest <;> simp [pushFirst]

theorem joinLines_cons (line : List Char) {rest : List (List Char)} (h : rest ≠ []) :
    joinLines (line :: rest) = line ++ '\r' :: '\n' :: joinLines rest := by
  cases rest with
  | nil => exact absurd rfl h
  | cons => rfl

theorem joinLines_pushFirst (c : Char) {lines : List (List Char)} (h : lines ≠ []) :
    joinLines (pushFirst c lines) = c :: joinLines lines := by
  cases lines with
  | nil => exact absurd rfl h
  | cons line rest => cases rest <;> rfl

theorem joinLines_splitLines (cs : List Char) : joinLines (splitLines cs) = cs := by
  fun_induction splitLines cs with
  | case1 => rfl
  | case2 rest ih => rw [joinLines_cons _ (splitLines_ne_nil rest), ih]; rfl
  | case3 c rest _ ih => rw [joinLines_pushFirst c (splitLines_ne_nil rest), ih]

theorem splitLines_cons {c : Char} {cs : List Char} (h : cs.head? ≠ some '\n') :
    splitLines (c :: cs) = pushFirst c (splitLines cs) := by
  rw [splitLines]
  rintro rest - rfl
  exact h rfl

theorem splitLines_line (line : List Char) (h : '\n' ∉ line) : splitLines line = [line] := by
  induction line with
  | nil => rfl
  | cons c cs ih =>
    have hcs : '\n' ∉ cs := fun m => h (List.mem_cons_of_mem _ m)
    rw [splitLines_cons (fun e => hcs (List.mem_of_mem_head? e)), ih hcs]
    rfl

theorem splitLines_append (line rest : List Char) (h : '\n' ∉ line) :
    splitLines (line ++ '\r' :: '\n' :: rest) = line :: splitLines rest := by
  induction line with
  | nil => rfl
  | cons c cs ih =>
    have hcs : '\n' ∉ cs := fun m => h (List.mem_cons_of_mem _ m)
    have hhead : (cs ++ '\r' :: '\n' :: rest).head? ≠ some '\n' := by
      cases cs with
      | nil => simp
      | cons d ds => simpa using fun e : d = '\n' => hcs (e ▸ List.mem_cons_self)
    rw [List.cons_append, splitLines_cons hhead, ih hcs]
    rfl

theorem splitLines_joinLines (lines : List (List Char)) (hne : lines ≠ []) (h : ∀ line ∈ lines, '\n' ∉ line) :
    splitLines (joinLines lines) = lines := by
  induction lines with
  | nil => exact absurd rfl hne
  | cons line rest ih =>
    have hline := h line List.mem_cons_self
    by_cases hr : rest = []
    · rw [hr]; exact splitLines_line line hline
    · rw [joinLines_cons line hr, splitLines_append line _ hline,
        ih hr fun l hl => h l (List.mem_cons_of_mem _ hl)]

theorem unstuffLine_stuffLine (line : List Char) : unstuffLine (stuffLine line) = line := by
  fun_cases stuffLine line with
  | case1 => rfl
  | case2 line h =>
    cases line with
    | nil => rfl
    | cons c rest =>
      by_cases hc : c = '.'
      · exact absurd (by rw [hc]) (h rest)
      · simp [unstuffLine]

end EnquiryMail.Mail
