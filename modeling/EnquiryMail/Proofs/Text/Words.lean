/-
Words between blanks. A text falls into words at its blanks: what stands in front of a blank and what stands behind it
have their words apart, and a text without blanks is one word. So the words of a text are the runs without blanks that
have a blank or an end of the text on each side, in the order of the text.

- `words_append_blank`: the words of a text on the two sides of a blank.
- `cut_induction`: so what holds of a run without blanks, and of texts put together at a blank, holds of every text.
- `mem_words`: the words of a text are those that stand in it.
- `spaced_words`: and the text is made of them in their order.
-/
import Mathlib.Tactic
import EnquiryMail.Text.Blank

namespace EnquiryMail.Text

variable {c : Char} {w cs : List Char}

/-- a run of characters that are no blanks -/
def Solid (w : List Char) : Prop := w ≠ [] ∧ ∀ c ∈ w, isBlank c = false

/-- a text is empty or begins with a blank, so a word in front of it ends there -/
def Parted (cs : List Char) : Prop := ∀ c, cs.head? = some c → isBlank c = true

/-- a word stands in a text: it is a run without blanks, and a blank or an end of the text is on each side -/
def StandsIn (w cs : List Char) : Prop :=
  Solid w ∧ ∃ before after, cs = before ++ w ++ after ∧ Parted before.reverse ∧ Parted after

theorem parted_nil : Parted [] := by
  intro c hc
  cases hc

theorem words_cons_blank (hc : isBlank c = true) (cs : List Char) : words (c :: cs) = words cs := by
  rw [words, wordsBy, if_pos hc]
  rfl

theorem words_singleton (hc : isBlank c = false) : words [c] = [[c]] := by
  rw [words, wordsBy, hc]
  rfl

/-- in front of a blank a character is a word of its own -/
theorem words_cons_parted {d : Char} (hc : isBlank c = false) (hd : isBlank d = true) (ds : List Char) :
    words (c :: d :: ds) = [c] :: words (d :: ds) := by
  rw [words, wordsBy, hc]
  simp only [hd, Bool.false_eq_true, if_false, if_true]
  rfl

theorem words_ne_nil (hc : isBlank c = false) (cs : List Char) : words (c :: cs) ≠ [] := by
  rw [words, wordsBy, hc]
  simp only [Bool.false_eq_true, if_false]
  split
  · exact List.cons_ne_nil _ _
  · split
    · exact List.cons_ne_nil _ _
    · split <;> exact List.cons_ne_nil _ _

/-- a character that is no blank begins the word that follows it -/
theorem words_cons_solid {d : Char} {ds v : List Char} {vs : List (List Char)} (hc : isBlank c = false)
    (hd : isBlank d = false) (h : words (d :: ds) = v :: vs) : words (c :: d :: ds) = (c :: v) :: vs := by
  rw [words] at h
  rw [words, wordsBy, hc]
  simp only [hd, Bool.false_eq_true, if_false, h]

/-- **At a blank the words part.** -/
theorem words_append_blank (hc : isBlank c = true) (as bs : List Char) :
    words (as ++ c :: bs) = words as ++ words bs := by
  induction as with
  | nil => exact words_cons_blank hc bs
  | cons a as ih =>
    by_cases ha : isBlank a = true
    · rw [List.cons_append, words_cons_blank ha, words_cons_blank ha, ih]
    rw [Bool.not_eq_true] at ha
    cases as with
    | nil =>
      rw [List.cons_append, List.nil_append, words_cons_parted ha hc, words_cons_blank hc, words_singleton ha]
      rfl
    | cons d ds =>
      rw [List.cons_append] at ih
      rw [List.cons_append, List.cons_append]
      by_cases hd : isBlank d = true
      · rw [words_cons_parted ha hd, words_cons_parted ha hd, ih, List.cons_append]
      · rw [Bool.not_eq_true] at hd
        obtain ⟨v, vs, hv⟩ := List.exists_cons_of_ne_nil (words_ne_nil hd ds)
        rw [hv, List.cons_append] at ih
        rw [words_cons_solid ha hd ih, words_cons_solid ha hd hv, List.cons_append]

theorem words_of_solid (h : Solid w) : words w = [w] := by
  obtain ⟨hne, hall⟩ := h
  induction w with
  | nil => exact absurd rfl hne
  | cons a as ih =>
    rw [List.forall_mem_cons] at hall
    cases as with
    | nil => exact words_singleton hall.1
    | cons d ds => exact words_cons_solid hall.1 (hall.2 d List.mem_cons_self) (ih (List.cons_ne_nil _ _) hall.2)

theorem words_append_parted (as : List Char) {bs : List Char} (h : Parted bs) :
    words (as ++ bs) = words as ++ words bs := by
  cases bs with
  | nil =>
    rw [List.append_nil]
    exact (List.append_nil _).symm
  | cons b bs => rw [words_append_blank (h b rfl), words_cons_blank (h b rfl)]

theorem words_of_parted {as : List Char} (h : Parted as.reverse) (bs : List Char) :
    words (as ++ bs) = words as ++ words bs := by
  rcases List.eq_nil_or_concat as with rfl | ⟨as, b, rfl⟩
  · rfl
  · rw [List.concat_eq_append] at h ⊢
    have hb : isBlank b = true := h b (by rw [List.reverse_append]; rfl)
    rw [List.append_assoc, List.singleton_append, words_append_blank hb, words_append_blank hb]
    exact congrArg (· ++ words bs) (List.append_nil _).symm

theorem StandsIn.append {as bs : List Char} (h : StandsIn w as) (hbs : Parted bs) : StandsIn w (as ++ bs) := by
  obtain ⟨hw, before, after, rfl, hbefore, hafter⟩ := h
  refine ⟨hw, before, after ++ bs, by simp, hbefore, ?_⟩
  cases after with
  | nil => exact hbs
  | cons a after => exact hafter

theorem StandsIn.behind {as bs : List Char} (h : StandsIn w bs) (has : Parted as.reverse) : StandsIn w (as ++ bs) := by
  obtain ⟨hw, before, after, rfl, hbefore, hafter⟩ := h
  refine ⟨hw, as ++ before, after, by simp, ?_, hafter⟩
  rw [List.reverse_append]
  cases hrev : before.reverse with
  | nil => exact has
  | cons b rest =>
    rw [hrev] at hbefore
    exact hbefore

theorem parted_concat (as : List Char) (hc : isBlank c = true) : Parted (as ++ [c]).reverse := by
  intro d hd
  rw [List.reverse_append] at hd
  exact Option.some.inj hd ▸ hc

/-- a text is cut at its blanks: what holds of runs without blanks, and of what is put together at one, holds of it -/
theorem cut_induction {motive : List Char → Prop} (nil : motive []) (solid : ∀ w, Solid w → motive w)
    (cut : ∀ as c bs, isBlank c = true → motive as → motive bs → motive (as ++ c :: bs)) (cs : List Char) :
    motive cs := by
  induction hlen : cs.length using Nat.strong_induction_on generalizing cs with
  | _ n ih =>
    subst hlen
    by_cases hblank : ∃ c ∈ cs, isBlank c = true
    · obtain ⟨c, hmem, hc⟩ := hblank
      obtain ⟨as, bs, rfl⟩ := List.append_of_mem hmem
      exact cut as c bs hc (ih as.length (by simp) as rfl) (ih bs.length (by simp; omega) bs rfl)
    · have hnone : ∀ c ∈ cs, isBlank c = false := fun c hc => Bool.eq_false_iff.2 fun hb => hblank ⟨c, hc, hb⟩
      by_cases hnil : cs = []
      · rw [hnil]
        exact nil
      · exact solid cs ⟨hnil, hnone⟩

theorem standsIn_of_mem (h : w ∈ words cs) : StandsIn w cs := by
  induction cs using cut_induction with
  | nil => cases h
  | solid v hv =>
    rw [words_of_solid hv, List.mem_singleton] at h
    subst h
    exact ⟨hv, [], [], by simp, parted_nil, parted_nil⟩
  | cut as c bs hc has hbs =>
    rw [words_append_blank hc, List.mem_append] at h
    rcases h with h | h
    · exact (has h).append fun d hd => Option.some.inj hd ▸ hc
    · rw [List.append_cons]
      exact (hbs h).behind (parted_concat as hc)

/-- **The words of a text are those that stand in it.** -/
theorem mem_words : w ∈ words cs ↔ StandsIn w cs := by
  refine ⟨standsIn_of_mem, ?_⟩
  rintro ⟨hw, before, after, rfl, hbefore, hafter⟩
  rw [words_append_parted _ hafter, words_of_parted hbefore, words_of_solid hw]
  simp

/-- a text is made of some words in their order, with blanks around them -/
inductive Spaced : List (List Char) → List Char → Prop
  | nil : Spaced [] []
  | blank {ws : List (List Char)} {cs : List Char} (c : Char) (hc : isBlank c = true) :
    Spaced ws cs → Spaced ws (c :: cs)
  | word {ws : List (List Char)} {cs : List Char} (w : List Char) (hw : Solid w) (hcs : Parted cs) :
    Spaced ws cs → Spaced (w :: ws) (w ++ cs)

theorem Spaced.append {ws vs : List (List Char)} {as bs : List Char} (h : Spaced ws as) (hbs : Parted bs)
    (h' : Spaced vs bs) : Spaced (ws ++ vs) (as ++ bs) := by
  induction h with
  | nil => exact h'
  | blank c hc _ ih => exact .blank c hc ih
  | @word ws cs w hw hcs _ ih =>
    rw [List.append_assoc]
    refine .word w hw ?_ ih
    cases cs with
    | nil => exact hbs
    | cons d cs => exact hcs

/-- **A text is made of its words.** -/
theorem spaced_words (cs : List Char) : Spaced (words cs) cs := by
  induction cs using cut_induction with
  | nil => exact .nil
  | solid w hw =>
    have hspaced : Spaced [w] (w ++ []) := .word w hw parted_nil .nil
    rw [List.append_nil] at hspaced
    rwa [words_of_solid hw]
  | cut as c bs hc has hbs =>
    rw [words_append_blank hc]
    exact has.append (fun d hd => Option.some.inj hd ▸ hc) (.blank c hc hbs)

end EnquiryMail.Text
