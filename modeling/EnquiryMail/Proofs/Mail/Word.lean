/-
Encoded words that others have touched. A text in an encoded word comes back as it was, also when blanks have come
around the word or its markers are written in other cases.

- `decodeWord?_surrounded`, `decodeWord?_opening`: blanks around a word and the case of its markers do not matter.
- `decodeWord?_respelt`: so a respelt word is read as the same text.
- `graphic_encodeWord`, `encodeWord_injective`: an encoded word is graphic ASCII, and it is the word of one text only.
- `length_of_decodeWord?`: a word is longer than its text.
-/
import Mathlib.Data.List.TakeWhile
import EnquiryMail.Proofs.Mail.Unbroken

namespace EnquiryMail.Mail

open EnquiryMail.Text

/-- an ASCII character that leaves a mark: neither a blank nor a control character -/
def Graphic (c : Char) : Prop := '!' ≤ c ∧ c ≤ '~'

instance : DecidablePred Graphic := fun c => inferInstanceAs (Decidable ('!' ≤ c ∧ c ≤ '~'))

/-- what begins every encoded word -/
def opening : List Char := ['=', '?', 'U', 'T', 'F', '-', '8', '?', 'B', '?']

/-- `word` with blanks around it, and with the letters of its markers in any case -/
def Respelt (word word' : List Char) : Prop :=
  ∃ before mark rest after, word = opening ++ rest ∧ word' = before ++ (mark ++ rest) ++ after ∧
    (∀ c ∈ before ++ after, isBlank c = true) ∧ mark.map Char.toUpper = opening

theorem encodeWord_eq (text : List Char) :
    encodeWord text = opening ++ (Base64.encode (Utf8.encode text) ++ ['?', '=']) := by
  unfold encodeWord
  rw [opening_toList, List.append_assoc, opening]

/-! ## Blanks and cases -/

theorem trim_surrounded {before after : List Char} (cs : List Char) (hbefore : ∀ c ∈ before, isBlank c = true)
    (hafter : ∀ c ∈ after, isBlank c = true) : trim (before ++ cs ++ after) = trim cs := by
  have hfront : trimStart (before ++ cs ++ after) = trimStart (cs ++ after) := by
    rw [List.append_assoc]
    exact List.dropWhile_append_of_pos hbefore
  have hback : ∀ ds, trimEnd (ds ++ after) = trimEnd ds := by
    intro ds
    rw [trimEnd, List.reverse_append, List.dropWhile_append_of_pos, trimEnd]
    exact fun c hc => hafter c (List.mem_reverse.1 hc)
  rw [trim, hfront, trim]
  by_cases hcs : trimStart cs = []
  · have hblank : ∀ c ∈ cs, isBlank c = true := List.dropWhile_eq_nil_iff.1 hcs
    have hall : trimStart (cs ++ after) = [] := by
      rw [trimStart, List.dropWhile_append_of_pos hblank]
      exact List.dropWhile_eq_nil_iff.2 hafter
    rw [hall, hcs]
  · have hsplit : trimStart (cs ++ after) = trimStart cs ++ after := by
      have hdrop : cs.dropWhile isBlank ≠ [] := hcs
      rw [trimStart, List.dropWhile_append, if_neg (by simpa using hdrop), trimStart]
    rw [hsplit, hback]

theorem afterOpening?_of_toUpper {mark ms : List Char} (h : mark.map Char.toUpper = ms) (rest : List Char) :
    afterOpening? ms (mark ++ rest) = some rest := by
  subst h
  induction mark with
  | nil => rfl
  | cons c mark ih => simp only [List.map_cons, List.cons_append, afterOpening?, if_true, ih]

/-- no letter is a blank, so the case of a character does not matter to blanks -/
theorem isBlank_of_toUpper {c : Char} (h : isBlank c.toUpper = false) : isBlank c = false := by
  by_cases hc : 'a'.val ≤ c.val ∧ c.val ≤ 'z'.val
  · have hlow : 97 ≤ c.toNat := UInt32.le_iff_toNat_le.1 hc.1
    have hhigh : c.toNat ≤ 122 := UInt32.le_iff_toNat_le.1 hc.2
    simp only [isBlank, Bool.or_eq_false_iff, Bool.and_eq_false_iff, decide_eq_false_iff_not, beq_eq_false_iff_ne]
    omega
  · have hsame : c.toUpper = c := dif_neg hc
    rwa [hsame] at h

/-- the case of the markers does not matter -/
theorem decodeWord?_opening {mark rest : List Char} (h : mark.map Char.toUpper = opening)
    (hlast : ∀ c, rest.getLast? = some c → isBlank c = false) :
    decodeWord? (mark ++ rest) = decodeWord? (opening ++ rest) := by
  have htrim : ∀ m : List Char, m.map Char.toUpper = opening → trim (m ++ rest) = m ++ rest := by
    intro m hm
    have hblank : ∀ c ∈ m, isBlank c = false := by
      intro c hc
      have hup : c.toUpper ∈ opening := hm ▸ List.mem_map_of_mem hc
      have hmarks : ∀ d ∈ opening, isBlank d = false := by simp [opening, isBlank]
      exact isBlank_of_toUpper (hmarks _ hup)
    have hne : m ≠ [] := by
      rintro rfl
      cases hm
    refine trim_of_ends ?_ ?_
    · intro c hc
      rw [List.head?_append_of_ne_nil _ hne] at hc
      exact hblank c (List.mem_of_mem_head? hc)
    · intro c hc
      rw [List.getLast?_append] at hc
      cases hrest : rest.getLast? with
      | some d => rw [hrest] at hc; exact hlast c (hrest.trans hc)
      | none => rw [hrest] at hc; exact hblank c (List.mem_of_getLast? hc)
  have hself : opening.map Char.toUpper = opening := by decide
  have hread : ∀ m : List Char, m.map Char.toUpper = opening →
      afterOpening? "=?UTF-8?B?".toList (m ++ rest) = some rest := by
    intro m hm
    rw [opening_toList]
    exact afterOpening?_of_toUpper hm rest
  unfold decodeWord?
  rw [htrim mark h, htrim opening hself, hread mark h, hread opening hself]

/-- blanks around a word do not matter -/
theorem decodeWord?_surrounded {before after : List Char} (word : List Char)
    (hbefore : ∀ c ∈ before, isBlank c = true) (hafter : ∀ c ∈ after, isBlank c = true) :
    decodeWord? (before ++ word ++ after) = decodeWord? word := by
  unfold decodeWord?
  rw [trim_surrounded word hbefore hafter]

/-- **However an encoded word is respelt, it is read as the same text.** -/
theorem decodeWord?_respelt {text word : List Char} (h : Respelt (encodeWord text) word) :
    decodeWord? word = some text := by
  obtain ⟨before, mark, rest, after, hword, rfl, hblank, hmark⟩ := h
  obtain ⟨hbefore, hafter⟩ := List.forall_mem_append.1 hblank
  have hrest : rest = Base64.encode (Utf8.encode text) ++ ['?', '='] := by
    rw [encodeWord_eq] at hword
    exact (List.append_cancel_left hword).symm
  have hlast : ∀ c, rest.getLast? = some c → isBlank c = false := by
    intro c hc
    rw [hrest, List.getLast?_append] at hc
    cases hc
    decide
  rw [decodeWord?_surrounded _ hbefore hafter, decodeWord?_opening hmark hlast, ← hword, decodeWord?_encodeWord]

/-! ## Characters -/

theorem graphic_of_isAlphanum {c : Char} (h : c.isAlphanum = true) : Graphic c := by
  have hrange : ∀ {a b : Char}, '!' ≤ a → b ≤ '~' → a ≤ c ∧ c ≤ b → Graphic c :=
    fun ha hb hin => ⟨Char.le_trans ha hin.1, Char.le_trans hin.2 hb⟩
  rcases range_of_isAlphanum h with hupper | hlower | hdigit
  · exact hrange (by decide : '!' ≤ 'A') (by decide : 'Z' ≤ '~') hupper
  · exact hrange (by decide : '!' ≤ 'a') (by decide : 'z' ≤ '~') hlower
  · exact hrange (by decide : '!' ≤ '0') (by decide : '9' ≤ '~') hdigit

theorem graphic_base64 {bs : Utf8.Bytes} {c : Char} (h : c ∈ Base64.encode bs) : Graphic c := by
  rcases Base64.mem_encode h with h | rfl
  · simp only [Base64.isLetter, Bool.or_eq_true, beq_iff_eq] at h
    rcases h with (h | rfl) | rfl
    · exact graphic_of_isAlphanum h
    · decide
    · decide
  · decide

/-- an encoded word is graphic ASCII, so it has neither blanks nor breaks -/
theorem graphic_encodeWord (text : List Char) : ∀ c ∈ encodeWord text, Graphic c := by
  intro c hc
  have hopening : ∀ d ∈ opening, Graphic d := by simp [opening, Graphic]
  have hclosing : ∀ d ∈ ['?', '='], Graphic d := by simp [Graphic]
  rw [encodeWord_eq, List.mem_append, List.mem_append] at hc
  rcases hc with hc | hc | hc
  · exact hopening c hc
  · exact graphic_base64 hc
  · exact hclosing c hc

/-- a word is that of one text only -/
theorem encodeWord_injective : Function.Injective encodeWord := by
  intro text text' h
  have hread : decodeWord? (encodeWord text) = decodeWord? (encodeWord text') := congrArg decodeWord? h
  rw [decodeWord?_encodeWord, decodeWord?_encodeWord] at hread
  exact Option.some.inj hread

/-! ## Lengths -/

theorem length_afterOpening? {ms cs rest : List Char} (h : afterOpening? ms cs = some rest) :
    cs.length = ms.length + rest.length := by
  induction ms generalizing cs with
  | nil =>
    cases h
    simp
  | cons m ms ih =>
    cases cs with
    | nil => cases h
    | cons c cs =>
      rw [afterOpening?] at h
      split at h
      · rw [List.length_cons, ih h, List.length_cons]
        omega
      · cases h

theorem length_trim_le (cs : List Char) : (trim cs).length ≤ cs.length := by
  have hend : ∀ ds, (trimEnd ds).length ≤ ds.length := by
    intro ds
    have hdrop := (List.dropWhile_sublist isBlank (l := ds.reverse)).length_le
    simpa [trimEnd] using hdrop
  exact (hend _).trans (List.dropWhile_sublist _).length_le

/-- a word is longer than its text -/
theorem length_of_decodeWord? {word text : List Char} (h : decodeWord? word = some text) :
    text.length < word.length := by
  simp only [decodeWord?, Option.bind_eq_bind, Option.bind_eq_some_iff] at h
  obtain ⟨body, hbody, h⟩ := h
  split at h <;> cases h
  have htrim := length_trim_le word
  have hlength := length_afterOpening? hbody
  have hinner : (body.takeWhile isWordChar).length ≤ body.length := (List.takeWhile_sublist _).length_le
  have hbytes := Base64.length_decode_le (body.takeWhile isWordChar)
  have hchars := Utf8.length_decode_le (Base64.decode (body.takeWhile isWordChar))
  rw [opening_toList] at hlength
  simp only [List.length_cons] at hlength
  omega

end EnquiryMail.Mail
