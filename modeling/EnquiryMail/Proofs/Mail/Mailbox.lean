/-
Mailbox lists, as the receiver of a message reads them (RFC 5322, section 3.4, with the dots in phrases, the gaps around
dots and the empty members that section 4 adds). A list is cut at its commas; a member is an address, alone or in angle
brackets behind a phrase. The words of a phrase are shown with a blank in between, an encoded word as the text that it
stands for, two encoded words next to each other without the blank (RFC 2047, sections 5 and 6).

Which encoded words a reader knows beside those that are written here is left open (`WordReader`).

- `nil_notMem_splitOn_dot`: which texts have no empty piece between dots.
- `addrSpec?_of_isAddress`: an address is read as itself.
- `phrase?_words`: what is shown of words in a row.
- `words_of_phrase?`: a phrase that is shown as long as it is written has nothing but plain words.
-/
import Mathlib.Algebra.Order.BigOperators.Group.List
import EnquiryMail.Proofs.Mail.Address
import EnquiryMail.Proofs.Mail.Lexeme
import EnquiryMail.Proofs.Text.Pieces

namespace EnquiryMail.Mail

open EnquiryMail.Text
open Lexeme (textOf)

/-! ## Reading addresses -/

/-- `ls` without the gaps at both ends -/
def trimGaps (ls : List Lexeme) : List Lexeme :=
  ((ls.dropWhile (· == .gap)).reverse.dropWhile (· == .gap)).reverse

/-- a word without quotes -/
def isAtom (ls : List Lexeme) : Bool := ls != [] && ls.all Lexeme.isChar

/-- a text in quotes -/
def isQuoted : List Lexeme → Bool
  | .quote :: rest => rest.getLast? == some .quote && rest.dropLast.all Lexeme.isChar
  | _ => false

/-- the text of words with dots in between -/
def dotted? (isWord : List Lexeme → Bool) (ls : List Lexeme) : Option (List Char) :=
  let pieces := (ls.splitOn (.mark '.')).map trimGaps
  if pieces.all isWord then some (['.'].intercalate (pieces.map textOf)) else none

/-- the domain of an address: atoms with dots in between, or a literal -/
def domain? (ls : List Lexeme) : Option (List Char) :=
  match trimGaps ls with
  | .mark '[' :: rest =>
    if rest.getLast? = some (.mark ']') ∧ rest.dropLast.all Lexeme.isChar then some ('[' :: textOf rest) else none
  | _ => dotted? isAtom ls

/-- the part of an address in front of its at sign, and the domain behind it -/
def addrSpec? (ls : List Lexeme) : Option (List Char × List Char) := do
  let (part, rest) ← cutAt? (.mark '@') ls
  let front ← dotted? (fun w => isAtom w || isQuoted w) part
  let back ← domain? rest
  some (front, back)

/-- the address of which the opening bracket has been read; only gaps may follow it -/
def angle? (ls : List Lexeme) : Option (List Char × List Char) := do
  let (inner, after) ← cutAt? (.mark '>') ls
  if after.all (· == .gap) then addrSpec? inner else none

/-! ## Reading phrases -/

/-- a reader of single encoded words: it knows the words that are written here, however long they are, and a word is
longer than its text, as it has markers around it -/
structure WordReader where
  decode : List Char → Option (List Char)
  reads : ∀ text, decode (encodeWord text) = some text
  shorter : ∀ {word text}, decode word = some text → text.length < word.length

/-- a word as it is shown, and whether it was encoded -/
def WordReader.shown (r : WordReader) (word : List Char) : Bool × List Char :=
  match r.decode word with
  | some text => (true, text)
  | none => (false, word)

/-- the word that lexemes make, as it is shown; with quotes nothing is encoded -/
def showWord (r : WordReader) (w : List Lexeme) : Bool × List Char :=
  if Lexeme.quote ∈ w then (false, textOf w) else r.shown (textOf w)

/-- shown words in a row -/
def joinWords : List (Bool × List Char) → List Char
  | [] => []
  | [w] => w.2
  | w :: v :: rest => w.2 ++ (if w.1 && v.1 then [] else [' ']) ++ joinWords (v :: rest)

/-- what is shown of a phrase -/
def shownPhrase (r : WordReader) (ls : List Lexeme) : List Char :=
  joinWords (((ls.splitOn .gap).filter (· != [])).map (showWord r))

/-- the display name in front of an angle bracket, none where only gaps are; a phrase begins with a word -/
def phrase? (r : WordReader) (ls : List Lexeme) : Option (Option (List Char)) :=
  if ls.all (· == .gap) then some none
  else if ls.all Lexeme.inPhrase && (ls.dropWhile (· == .gap)).head? != some (.mark '.') then
    some (some (shownPhrase r ls))
  else none

/-! ## Reading lists -/

/-- one who sends or receives: a display name, if there is one, and the two parts of an address -/
structure Mailbox where
  name : Option (List Char)
  part : List Char
  domain : List Char
  deriving DecidableEq, Repr

/-- the address of a mailbox -/
def Mailbox.address (m : Mailbox) : List Char := m.part ++ '@' :: m.domain

/-- one member of a list -/
def mailbox? (r : WordReader) (ls : List Lexeme) : Option Mailbox :=
  match cutAt? (.mark '<') ls with
  | none => (addrSpec? ls).map fun (part, domain) => ⟨none, part, domain⟩
  | some (phrase, rest) => do
    let name ← phrase? r phrase
    let (part, domain) ← angle? rest
    some ⟨name, part, domain⟩

/-- the members of a list that are not empty -/
def members (ls : List Lexeme) : List (List Lexeme) :=
  (ls.splitOn (.mark ',')).filter fun m => !m.all (· == .gap)

/-- the mailboxes of a list, of which there is at least one -/
def mailboxes? (r : WordReader) (value : List Char) : Option (List Mailbox) := do
  let ls ← lexemes? value
  if members ls = [] then none else (members ls).mapM (mailbox? r)

/-! ## Dots -/

/-- a later piece is empty only where dots follow each other, or behind the last dot -/
theorem hasDoubleDot_of_splitOn {cs : List Char} {w : List Char} {ws : List (List Char)}
    (hsplit : cs.splitOn '.' = w :: ws) (hnil : [] ∈ ws) : hasDoubleDot cs = true ∨ cs.getLast? = some '.' := by
  induction cs generalizing w ws with
  | nil =>
    cases hsplit
    cases hnil
  | cons c cs ih =>
    obtain ⟨v, vs, hcs, hcons⟩ := splitOn_cons '.' c cs
    have hlater : [] ∈ vs → hasDoubleDot (c :: cs) = true ∨ (c :: cs).getLast? = some '.' := by
      intro hvs
      have hne : cs ≠ [] := by
        rintro rfl
        cases hcs
        cases hvs
      refine (ih hcs hvs).imp (fun hdouble => ?_) fun hlast => by rw [List.getLast?_cons_of_ne_nil hne, hlast]
      unfold hasDoubleDot
      split
      · rfl
      · rename_i heq
        cases heq
        exact hdouble
      · rename_i heq
        cases heq
    rw [hcons] at hsplit
    split at hsplit
    · rename_i hdot
      cases hsplit
      rcases List.mem_cons.1 hnil with hv | hvs
      · rw [← hv] at hcs
        subst hdot
        cases cs with
        | nil => exact .inr rfl
        | cons d ds =>
          rcases splitOn_eq_nil_cons hcs with hd | hd
          · cases hd
          · cases hd
            exact .inl rfl
      · exact hlater hvs
    · cases hsplit
      exact hlater hnil

/-- no piece is empty when no dot stands first, last or behind another one -/
theorem nil_notMem_splitOn_dot {cs : List Char} (hne : cs ≠ []) (hhead : cs.head? ≠ some '.')
    (hlast : cs.getLast? ≠ some '.') (hdouble : hasDoubleDot cs = false) : [] ∉ cs.splitOn '.' := by
  obtain ⟨w, ws, hsplit⟩ := List.exists_cons_of_ne_nil (List.splitOn_ne_nil '.' cs)
  rw [hsplit, List.mem_cons, not_or]
  constructor
  · rintro rfl
    exact (splitOn_eq_nil_cons hsplit).elim hne hhead
  · intro hnil
    rcases hasDoubleDot_of_splitOn hsplit hnil with h | h
    · rw [hdouble] at h
      cases h
    · exact hlast h

/-! ## Addresses -/

/-- the characters of words with dots in between -/
def isDotted (c : Char) : Bool := isAtext c || c == '.'

theorem isSome_of_isDotted {c : Char} (h : isDotted c = true) : (lexeme? c).isSome = true := by
  rcases Bool.or_eq_true_iff.1 h with h | h
  · rw [lexeme?_of_isAtext h]; rfl
  · rw [beq_iff_eq.1 h]; decide

theorem lexeme_of_isDotted {c : Char} (h : isDotted c = true) :
    lexeme c = .char c ∨ c = '.' ∧ lexeme c = .mark '.' := by
  rcases Bool.or_eq_true_iff.1 h with h | h
  · exact .inl (lexeme_of_isAtext h)
  · rw [beq_iff_eq.1 h]; decide

theorem textOf_map_lexeme {cs : List Char} (h : ∀ c ∈ cs, isDotted c = true) : textOf (cs.map lexeme) = cs := by
  induction cs with
  | nil => rfl
  | cons c cs ih =>
    obtain ⟨hc, hcs⟩ := List.forall_mem_cons.1 h
    have htext : (lexeme c).text = [c] := by
      rcases lexeme_of_isDotted hc with hl | ⟨rfl, hl⟩ <;> rw [hl] <;> rfl
    simp only [textOf, List.map_cons, List.flatMap_cons, htext, List.singleton_append]
    exact congrArg (c :: ·) (ih hcs)

/-- words with dots in between have no lexeme but characters and dots -/
theorem notMem_map_lexeme {l : Lexeme} (hl : l.isChar = false) (hdot : l ≠ .mark '.') {cs : List Char}
    (h : ∀ c ∈ cs, isDotted c = true) : l ∉ cs.map lexeme := by
  intro hmem
  obtain ⟨c, hc, rfl⟩ := List.mem_map.1 hmem
  rcases lexeme_of_isDotted (h c hc) with hchar | ⟨-, hmark⟩
  · rw [hchar] at hl
    cases hl
  · exact hdot hmark

theorem dropWhile_of_notMem {ls : List Lexeme} (h : .gap ∉ ls) : ls.dropWhile (· == .gap) = ls := by
  cases ls with
  | nil => rfl
  | cons l ls => exact List.dropWhile_cons_of_neg (by simpa using fun hl : l = .gap => h (by simp [hl]))

theorem trimGaps_of_notMem {ls : List Lexeme} (h : .gap ∉ ls) : trimGaps ls = ls := by
  rw [trimGaps, dropWhile_of_notMem h, dropWhile_of_notMem (by simpa using h), List.reverse_reverse]

/-- words with dots in between are read as themselves -/
theorem dotted?_map_lexeme {isWord : List Lexeme → Bool} (hword : ∀ w, isAtom w = true → isWord w = true)
    {cs : List Char} (h : ∀ c ∈ cs, isDotted c = true) (hne : [] ∉ cs.splitOn '.') :
    dotted? isWord (cs.map lexeme) = some cs := by
  have hdot : lexeme '.' = .mark '.' := by decide
  have hsplit : (cs.map lexeme).splitOn (.mark '.') = (cs.splitOn '.').map (List.map lexeme) := by
    rw [← hdot]
    refine splitOn_map fun c hc hmark => ?_
    rcases lexeme_of_isDotted (h c hc) with hchar | ⟨hc, -⟩
    · rw [hchar, hdot] at hmark
      cases hmark
    · exact hc
  have hpiece : ∀ w ∈ cs.splitOn '.', ∀ c ∈ w, isDotted c = true := fun w hw c hc => h c (of_mem_splitOn hw hc).1
  have hpieces : ((cs.map lexeme).splitOn (.mark '.')).map trimGaps = (cs.splitOn '.').map (List.map lexeme) := by
    rw [hsplit, List.map_map]
    exact List.map_congr_left fun w hw => trimGaps_of_notMem (notMem_map_lexeme rfl (by decide) (hpiece w hw))
  have hall : ((cs.splitOn '.').map (List.map lexeme)).all isWord = true := by
    rw [List.all_map, List.all_eq_true]
    intro w hw
    refine hword _ ?_
    have hatext : ∀ c ∈ w, (lexeme c).isChar = true := by
      intro c hc
      rcases Bool.or_eq_true_iff.1 (hpiece w hw c hc) with hc' | hc'
      · rw [lexeme_of_isAtext hc']; rfl
      · rw [beq_iff_eq] at hc'
        exact absurd hc' (of_mem_splitOn hw hc).2
    have hw' : w ≠ [] := fun hnil => hne (hnil ▸ hw)
    simp only [isAtom, Bool.and_eq_true, bne_iff_ne, ne_eq, List.map_eq_nil_iff, List.all_map, List.all_eq_true]
    exact ⟨hw', hatext⟩
  have htexts : ((cs.splitOn '.').map (List.map lexeme)).map textOf = cs.splitOn '.' := by
    rw [List.map_map]
    refine (List.map_congr_left fun w hw => ?_).trans (List.map_id _)
    exact textOf_map_lexeme (hpiece w hw)
  unfold dotted?
  simp only [hpieces, hall, if_true, htexts, List.intercalate_splitOn]

theorem isDotted_of_isAlnum {c : Char} (h : isAlnum c = true) : isDotted c = true := by
  rw [isDotted, isAtext_of_isAlnum h, Bool.true_or]

theorem isDotted_of_isLocalChar {c : Char} (h : isLocalChar c = true) : isDotted c = true := by
  simp only [isLocalChar, Bool.or_eq_true, beq_iff_eq] at h
  rcases h with ((((halnum | rfl) | hquote) | rfl) | rfl) | rfl
  · exact isDotted_of_isAlnum halnum
  · decide
  · have hc : c = '\'' := Char.toNat_inj.1 hquote
    subst hc
    decide
  · decide
  · decide
  · decide

theorem isDotted_of_isDomainChar {c : Char} (h : isDomainChar c = true) : isDotted c = true := by
  simp only [isDomainChar, Bool.or_eq_true, beq_iff_eq] at h
  rcases h with (halnum | rfl) | rfl
  · exact isDotted_of_isAlnum halnum
  · decide
  · decide

/-- the parts of an address are words with dots in between -/
theorem isAddress_dotted {address : String} (h : isAddress address = true) :
    ∃ part domain, address.toList = part ++ '@' :: domain ∧ (∀ c ∈ part ++ domain, isDotted c = true) ∧
      [] ∉ part.splitOn '.' ∧ [] ∉ domain.splitOn '.' := by
  obtain ⟨part, domain, hsplit, hpart, hdomain⟩ := isAddress_parts h
  have hlocal := hpart
  simp only [isLocalPart, Bool.and_eq_true, List.all_eq_true, bne_iff_ne] at hlocal
  obtain ⟨⟨hpchars, hhead⟩, hlast⟩ := hlocal
  have hdouble : hasDoubleDot part = false := by
    have hnoat : ∀ c ∈ part, (c != '@') = true := by
      intro c hc
      have hlocal := hpchars c hc
      rw [bne_iff_ne]
      rintro rfl
      revert hlocal
      decide
    have htake : (part ++ '@' :: domain).takeWhile (· != '@') = part := by
      rw [List.takeWhile_append_of_pos hnoat]
      exact List.append_nil part
    unfold isAddress at h
    simp only [hsplit, htake, List.drop_left, Bool.and_eq_true, Bool.not_eq_true'] at h
    exact h.2
  refine ⟨part, domain, hsplit, ?_, ?_, ?_⟩
  · rw [List.forall_mem_append]
    exact ⟨fun c hc => isDotted_of_isLocalChar (hpchars c hc),
      fun c hc => isDotted_of_isDomainChar (isDomainChar_of_mem hdomain hc)⟩
  · refine nil_notMem_splitOn_dot ?_ hhead ?_ hdouble
    · rintro rfl
      cases hlast
    · intro hdot
      rw [hdot] at hlast
      revert hlast
      decide
  · simp only [isDomain, splitOn_eq_list, Bool.and_eq_true, List.all_eq_true] at hdomain
    obtain ⟨⟨-, hlabels⟩, htop⟩ := hdomain
    have hne := List.splitOn_ne_nil '.' domain
    intro hnil
    rw [← List.dropLast_append_getLast hne, List.mem_append, List.mem_singleton] at hnil
    rcases hnil with hnil | hnil
    · cases hlabels [] hnil
    · rw [List.getLast?_eq_getLast_of_ne_nil hne, Option.getD_some, ← hnil] at htop
      cases htop

/-- **An address is read as itself.** -/
theorem addrSpec?_of_isAddress {address : String} (h : isAddress address = true) :
    ∃ part domain, address.toList = part ++ '@' :: domain ∧
      addrSpec? (address.toList.map lexeme) = some (part, domain) := by
  obtain ⟨part, domain, haddress, hchars, hpart, hdomain⟩ := isAddress_dotted h
  obtain ⟨hpchars, hdchars⟩ := List.forall_mem_append.1 hchars
  have hat : lexeme '@' = .mark '@' := by decide
  have hnoat : Lexeme.mark '@' ∉ part.map lexeme := notMem_map_lexeme rfl (by decide) hpchars
  have hfront : dotted? (fun w => isAtom w || isQuoted w) (part.map lexeme) = some part :=
    dotted?_map_lexeme (fun w hw => by rw [hw, Bool.true_or]) hpchars hpart
  have hback : domain? (domain.map lexeme) = some domain := by
    rw [domain?, trimGaps_of_notMem (notMem_map_lexeme rfl (by decide) hdchars)]
    split
    · rename_i rest hliteral
      have hmem : Lexeme.mark '[' ∈ domain.map lexeme := by simp [hliteral]
      exact absurd hmem (notMem_map_lexeme rfl (by decide) hdchars)
    · exact dotted?_map_lexeme (fun _ => id) hdchars hdomain
  refine ⟨part, domain, haddress, ?_⟩
  rw [haddress, List.map_append, List.map_cons, hat, addrSpec?, cutAt?_append hnoat]
  simp only [hfront, hback, Option.bind_eq_bind, Option.bind_some]

/-! ## Phrases -/

theorem joinWords_plain {ws : List (Bool × List Char)} (h : ∀ w ∈ ws, w.1 = false) :
    joinWords ws = [' '].intercalate (ws.map Prod.snd) := by
  induction ws with
  | nil => rfl
  | cons w ws ih =>
    obtain ⟨hw, hws⟩ := List.forall_mem_cons.1 h
    cases ws with
    | nil => simp [joinWords]
    | cons v ws =>
      simp only [joinWords, hw, Bool.false_and, Bool.false_eq_true, if_false, ih hws, List.map_cons,
        List.intercalate_cons_cons]

theorem length_joinWords (ws : List (Bool × List Char)) :
    (joinWords ws).length ≤ (ws.map fun w => w.2.length + 1).sum - 1 := by
  induction ws with
  | nil => exact Nat.le_refl _
  | cons w ws ih =>
    cases ws with
    | nil => simp [joinWords]
    | cons v ws =>
      have hblank : (if w.1 && v.1 then [] else [' ']).length ≤ 1 := by split <;> simp
      simp only [joinWords, List.length_append, List.map_cons, List.sum_cons] at ih ⊢
      omega

theorem length_textOf (ls : List Lexeme) : (textOf ls).length ≤ ls.length := by
  induction ls with
  | nil => exact Nat.le_refl _
  | cons l ls ih =>
    have hl : l.text.length ≤ 1 := by cases l <;> simp [Lexeme.text]
    simp only [textOf, List.flatMap_cons, List.length_append, List.length_cons] at ih ⊢
    omega

/-- quotes are not shown -/
theorem length_textOf_quote {ls : List Lexeme} (h : Lexeme.quote ∈ ls) : (textOf ls).length < ls.length := by
  obtain ⟨as, bs, rfl⟩ := List.append_of_mem h
  have has := length_textOf as
  have hbs := length_textOf bs
  simp only [textOf, List.flatMap_append, List.flatMap_cons, List.length_append, List.length_cons, Lexeme.text,
    List.length_nil] at has hbs ⊢
  omega

/-- a word is at most as long as its lexemes, and shorter if it is quoted or encoded -/
theorem length_showWord (r : WordReader) (w : List Lexeme) : (showWord r w).2.length ≤ w.length ∧
    ((showWord r w).2.length = w.length → Lexeme.quote ∉ w ∧ r.decode (textOf w) = none) := by
  have htext := length_textOf w
  unfold showWord
  split
  · rename_i hquote
    have hshort := length_textOf_quote hquote
    exact ⟨htext, fun heq => absurd heq hshort.ne⟩
  · rename_i hquote
    cases hdecode : r.decode (textOf w) with
    | none =>
      simp only [WordReader.shown, hdecode]
      exact ⟨htext, fun _ => ⟨hquote, trivial⟩⟩
    | some text =>
      have hshort := r.shorter hdecode
      simp only [WordReader.shown, hdecode]
      omega

/-- words with one blank in between; they may have dots, but none stands first -/
def Worded (cs : List Char) : Prop :=
  cs.head? ≠ some '.' ∧ ∀ w ∈ cs.splitOn ' ', w ≠ [] ∧ w.all isDotted = true

instance (cs : List Char) : Decidable (Worded cs) :=
  inferInstanceAs (Decidable (cs.head? ≠ some '.' ∧ ∀ w ∈ cs.splitOn ' ', w ≠ [] ∧ w.all isDotted = true))

theorem Worded.dotted {cs : List Char} (h : Worded cs) {w : List Char} (hw : w ∈ cs.splitOn ' ') :
    ∀ c ∈ w, isDotted c = true := List.all_eq_true.1 (h.2 w hw).2

theorem Worded.char {cs : List Char} (h : Worded cs) {c : Char} (hc : c ∈ cs) : c = ' ' ∨ isDotted c = true :=
  (mem_piece ' ' hc).imp id fun ⟨_, hw, hcw⟩ => h.dotted hw c hcw

/-- **What is shown of words in a row.** -/
theorem phrase?_words (r : WordReader) {cs : List Char} (hcs : Worded cs) :
    phrase? r (cs.map lexeme ++ [.gap]) = some (some (joinWords ((cs.splitOn ' ').map r.shown))) := by
  have hspace : lexeme ' ' = .gap := by decide
  have hchars : ∀ c ∈ cs, c = ' ' ∨ isDotted c = true := fun c => hcs.char
  have hdotted : ∀ w ∈ cs.splitOn ' ', ∀ c ∈ w, isDotted c = true := fun w => hcs.dotted
  obtain ⟨hhead, h⟩ := hcs
  have hsplit : (cs.map lexeme ++ [Lexeme.gap]).splitOn .gap = (cs.splitOn ' ').map (List.map lexeme) ++ [[]] := by
    have hwords : (cs.map lexeme).splitOn .gap = (cs.splitOn ' ').map (List.map lexeme) := by
      rw [← hspace]
      refine splitOn_map fun c hc hgap => (hchars c hc).resolve_right fun hdotted => ?_
      rw [hspace] at hgap
      rcases lexeme_of_isDotted hdotted with hl | ⟨-, hl⟩ <;> rw [hl] at hgap <;> cases hgap
    rw [List.splitOn_append_cons_self, hwords, List.splitOn_nil]
  have hshown : shownPhrase r (cs.map lexeme ++ [.gap]) = joinWords ((cs.splitOn ' ').map r.shown) := by
    have hkept : ((cs.splitOn ' ').map (List.map lexeme)).filter (· != []) =
        (cs.splitOn ' ').map (List.map lexeme) := by
      rw [List.filter_eq_self]
      intro w hw
      obtain ⟨v, hv, rfl⟩ := List.mem_map.1 hw
      simpa using (h v hv).1
    have hwords : ((cs.splitOn ' ').map (List.map lexeme)).map (showWord r) = (cs.splitOn ' ').map r.shown := by
      rw [List.map_map]
      refine List.map_congr_left fun w hw => ?_
      rw [Function.comp_apply, showWord, if_neg (notMem_map_lexeme rfl (by decide) (hdotted w hw)),
        textOf_map_lexeme (hdotted w hw)]
    rw [shownPhrase, hsplit, List.filter_append, hkept]
    simp [hwords]
  obtain ⟨c, rest, rfl⟩ : ∃ c rest, cs = c :: rest := by
    cases cs with
    | nil => exact absurd rfl (h [] (by simp)).1
    | cons c rest => exact ⟨c, rest, rfl⟩
  have hc : lexeme c = .char c := by
    have hblank : c ≠ ' ' := by
      rintro rfl
      exact (h [] (by simp [List.splitOn_cons_eq_if_modifyHead])).1 rfl
    have hdotted := (hchars c List.mem_cons_self).resolve_left hblank
    exact (lexeme_of_isDotted hdotted).resolve_right fun hdot => hhead (by rw [hdot.1]; rfl)
  have hphrase : ((c :: rest).map lexeme ++ [Lexeme.gap]).all Lexeme.inPhrase = true := by
    rw [List.all_append, List.all_map, Bool.and_eq_true, List.all_eq_true]
    refine ⟨fun d hd => ?_, by decide⟩
    rcases hchars d hd with rfl | hdotted
    · decide
    · rcases lexeme_of_isDotted hdotted with hl | ⟨-, hl⟩ <;> rw [Function.comp_apply, hl] <;> rfl
  unfold phrase?
  rw [hshown, hphrase]
  simp [hc]

/-- lexemes of atoms and dots -/
def AtomsAndDots (ls : List Lexeme) : Prop := ∀ l ∈ ls, (∃ c, l = .char c ∧ isAtext c = true) ∨ l = .mark '.'

/-- they are the lexemes of their text -/
theorem AtomsAndDots.map_lexeme {ls : List Lexeme} (h : AtomsAndDots ls) :
    (textOf ls).map lexeme = ls ∧ ∀ c ∈ textOf ls, isDotted c = true := by
  induction ls with
  | nil => exact ⟨rfl, nofun⟩
  | cons l ls ih =>
    obtain ⟨hl, hls⟩ := List.forall_mem_cons.1 h
    obtain ⟨hmap, hchars⟩ := ih hls
    have hone : ∃ c, l.text = [c] ∧ lexeme c = l ∧ isDotted c = true := by
      rcases hl with ⟨c, rfl, hc⟩ | rfl
      · exact ⟨c, rfl, lexeme_of_isAtext hc, by rw [isDotted, hc, Bool.true_or]⟩
      · exact ⟨'.', rfl, by decide, by decide⟩
    obtain ⟨c, htext, hlexeme, hc⟩ := hone
    have hcons : textOf (l :: ls) = c :: textOf ls := by
      simp only [textOf, List.flatMap_cons, htext, List.singleton_append]
    rw [hcons, List.map_cons, hlexeme, hmap]
    exact ⟨rfl, List.forall_mem_cons.2 ⟨hc, hchars⟩⟩

theorem AtomsAndDots.quote_notMem {ls : List Lexeme} (h : AtomsAndDots ls) : Lexeme.quote ∉ ls := by
  intro hmem
  rcases h _ hmem with ⟨c, hc, -⟩ | hdot
  · cases hc
  · cases hdot

/-- a piece of a phrase that is shown as it is written -/
structure PlainPiece (r : WordReader) (w : List Lexeme) : Prop where
  nonempty : w ≠ []
  lexemes : AtomsAndDots w
  unencoded : r.decode (textOf w) = none

/-- what is shown of plain pieces -/
theorem joinWords_pieces {r : WordReader} {pieces : List (List Lexeme)} (h : ∀ w ∈ pieces, PlainPiece r w) :
    joinWords ((pieces.filter (· != [])).map (showWord r)) = [' '].intercalate (pieces.map textOf) := by
  have hkept : pieces.filter (· != []) = pieces := List.filter_eq_self.2 fun w hw => bne_iff_ne.2 (h w hw).nonempty
  have hshown : pieces.map (showWord r) = pieces.map fun w => (false, textOf w) := by
    refine List.map_congr_left fun w hw => ?_
    simp only [showWord, if_neg (h w hw).lexemes.quote_notMem, WordReader.shown, (h w hw).unencoded]
  rw [hkept, hshown, joinWords_plain (by simp), List.map_map]
  rfl

/-- plain pieces with blanks in between are words -/
theorem worded_pieces {r : WordReader} {pieces : List (List Lexeme)} (h : ∀ w ∈ pieces, PlainPiece r w)
    (hne : pieces ≠ []) (hfront : pieces.head?.bind List.head? ≠ some (.mark '.')) :
    Worded ([' '].intercalate (pieces.map textOf)) ∧
      ∀ w ∈ ([' '].intercalate (pieces.map textOf)).splitOn ' ', r.decode w = none := by
  have hdotted : ∀ w ∈ pieces, ∀ c ∈ textOf w, isDotted c = true := fun w hw => (h w hw).lexemes.map_lexeme.2
  have hwords : ([' '].intercalate (pieces.map textOf)).splitOn ' ' = pieces.map textOf := by
    refine List.splitOn_intercalate ' ' ?_ (by simpa using hne)
    intro w hw hblank
    obtain ⟨v, hv, rfl⟩ := List.mem_map.1 hw
    have hspace := hdotted v hv ' ' hblank
    revert hspace
    decide
  have hhead : ([' '].intercalate (pieces.map textOf)).head? ≠ some '.' := by
    obtain ⟨w, ws, rfl⟩ := List.exists_cons_of_ne_nil hne
    have hw := h w List.mem_cons_self
    obtain ⟨l, v, rfl⟩ := List.exists_cons_of_ne_nil hw.nonempty
    rcases hw.lexemes l List.mem_cons_self with ⟨c, rfl, hc⟩ | rfl
    · have hfirst := head?_intercalate ' ' c (textOf v) (ws.map textOf)
      intro hdot
      have hc' : some c = some '.' := hfirst.symm.trans hdot
      rw [Option.some.inj hc'] at hc
      revert hc
      decide
    · exact absurd rfl hfront
  refine ⟨⟨hhead, fun w hw => ?_⟩, fun w hw => ?_⟩
  · rw [hwords] at hw
    obtain ⟨v, hv, rfl⟩ := List.mem_map.1 hw
    refine ⟨fun hnil => (h v hv).nonempty ?_, List.all_eq_true.2 (hdotted v hv)⟩
    rw [← (h v hv).lexemes.map_lexeme.1, hnil]
    rfl
  · rw [hwords] at hw
    obtain ⟨v, hv, rfl⟩ := List.mem_map.1 hw
    exact (h v hv).unencoded

/-- what a piece of a phrase adds to the length of what is shown, a blank included -/
def shownWidth (r : WordReader) (w : List Lexeme) : Nat := if w != [] then (showWord r w).2.length + 1 else 0

theorem shownWidth_le (r : WordReader) (w : List Lexeme) : shownWidth r w ≤ w.length + 1 := by
  unfold shownWidth
  split
  · exact Nat.succ_le_succ (length_showWord r w).1
  · exact Nat.zero_le _

theorem length_shownPieces (r : WordReader) (pieces : List (List Lexeme)) :
    (joinWords ((pieces.filter (· != [])).map (showWord r))).length ≤ (pieces.map (shownWidth r)).sum - 1 := by
  have hjoin := length_joinWords ((pieces.filter (· != [])).map (showWord r))
  rw [List.map_map, sum_filter] at hjoin
  exact hjoin

/-- pieces that are shown as long as they are written are neither empty nor quoted nor encoded -/
theorem shown_pieces {r : WordReader} {pieces : List (List Lexeme)}
    (h : (pieces.map fun w => w.length + 1).sum ≤ (joinWords ((pieces.filter (· != [])).map (showWord r))).length + 1)
    (hne : joinWords ((pieces.filter (· != [])).map (showWord r)) ≠ []) :
    ∀ w ∈ pieces, w ≠ [] ∧ Lexeme.quote ∉ w ∧ r.decode (textOf w) = none := by
  have hall : ∀ w ∈ pieces, shownWidth r w = w.length + 1 := by
    by_contra hno
    push Not at hno
    obtain ⟨w, hw, hlt⟩ := hno
    have hsum : (pieces.map (shownWidth r)).sum < (pieces.map fun w => w.length + 1).sum :=
      List.sum_lt_sum _ _ (fun w _ => shownWidth_le r w) ⟨w, hw, lt_of_le_of_ne (shownWidth_le r w) hlt⟩
    have hshown := length_shownPieces r pieces
    have hpos := List.length_pos_of_ne_nil hne
    omega
  intro w hw
  have heq := hall w hw
  rw [shownWidth] at heq
  split at heq
  · rename_i hw'
    exact ⟨bne_iff_ne.1 hw', (length_showWord r w).2 (by omega)⟩
  · omega

/-- the pieces of a phrase that has a display name -/
theorem shown_of_phrase? {r : WordReader} {ls : List Lexeme} {name : List Char}
    (h : phrase? r (ls ++ [.gap]) = some (some name)) :
    joinWords (((ls.splitOn .gap).filter (· != [])).map (showWord r)) = name ∧ ls ≠ [] ∧
      (∀ l ∈ ls, l.inPhrase = true) ∧ ls.head? ≠ some (.mark '.') := by
  unfold phrase? at h
  split at h
  · cases h
  rename_i hgaps
  split at h
  swap
  · cases h
  rename_i hphrase
  rw [Option.some.injEq, Option.some.injEq, shownPhrase, List.splitOn_append_cons_self, List.splitOn_nil,
    List.filter_append] at h
  rw [Bool.and_eq_true, List.all_eq_true, bne_iff_ne] at hphrase
  refine ⟨by simpa using h, ?_, fun l hl => hphrase.1 l (List.mem_append_left _ hl), fun hdot => ?_⟩
  · rintro rfl
    exact hgaps rfl
  · obtain ⟨rest, rfl⟩ := List.head?_eq_some_iff.1 hdot
    exact hphrase.2 (by simp)

/-- nothing is shown longer than it is written -/
theorem length_of_phrase? {r : WordReader} {ls : List Lexeme} {name : List Char}
    (h : phrase? r (ls ++ [.gap]) = some (some name)) : name.length ≤ ls.length := by
  have hsum : ((ls.splitOn .gap).map (shownWidth r)).sum ≤ ((ls.splitOn .gap).map fun w => w.length + 1).sum :=
    List.sum_le_sum fun w _ => shownWidth_le r w
  have hshown := length_shownPieces r (ls.splitOn .gap)
  rw [(shown_of_phrase? h).1] at hshown
  rw [length_splitOn] at hsum
  omega

/-- the pieces of a phrase that is shown as long as it is written -/
theorem pieces_of_phrase? {r : WordReader} {ls : List Lexeme} {name : List Char}
    (hatext : Lexeme.quote ∉ ls → Lexeme.mark '[' ∉ ls → ∀ c, Lexeme.char c ∈ ls → isAtext c = true)
    (h : phrase? r (ls ++ [.gap]) = some (some name)) (hlength : ls.length ≤ name.length) :
    ∀ w ∈ ls.splitOn .gap, PlainPiece r w := by
  obtain ⟨hname, hls, hin, -⟩ := shown_of_phrase? h
  have hne : name ≠ [] := by
    rintro rfl
    exact hls (List.length_eq_zero_iff.1 (Nat.le_zero.1 hlength))
  have hpieces : ∀ w ∈ ls.splitOn .gap, w ≠ [] ∧ Lexeme.quote ∉ w ∧ r.decode (textOf w) = none := by
    refine shown_pieces ?_ (by rwa [hname])
    rw [hname, length_splitOn]
    omega
  have hquote : Lexeme.quote ∉ ls := by
    intro hmem
    rcases mem_piece .gap hmem with hgap | ⟨w, hw, hmem⟩
    · cases hgap
    · exact (hpieces w hw).2.1 hmem
  have hliteral : Lexeme.mark '[' ∉ ls := by
    intro hmem
    have hmark := hin (.mark '[') hmem
    revert hmark
    decide
  intro w hw
  refine ⟨(hpieces w hw).1, fun l hl => ?_, (hpieces w hw).2.2⟩
  obtain ⟨hmem, hgap⟩ := of_mem_splitOn hw hl
  cases l with
  | char c => exact .inl ⟨c, rfl, hatext hquote hliteral c hmem⟩
  | gap => exact absurd rfl hgap
  | quote => exact absurd hmem hquote
  | mark c =>
    have hmark := hin (.mark c) hmem
    rw [Lexeme.inPhrase, beq_iff_eq] at hmark
    exact .inr (by rw [hmark])

/-- **A phrase that is shown as long as it is written.** It has plain words alone, with one blank in between. -/
theorem words_of_phrase? {r : WordReader} {ls : List Lexeme} {name : List Char}
    (hatext : Lexeme.quote ∉ ls → Lexeme.mark '[' ∉ ls → ∀ c, Lexeme.char c ∈ ls → isAtext c = true)
    (h : phrase? r (ls ++ [.gap]) = some (some name)) (hlength : ls.length ≤ name.length) :
    Worded name ∧ ∀ w ∈ name.splitOn ' ', r.decode w = none := by
  obtain ⟨hname, -, -, hfront⟩ := shown_of_phrase? h
  have hpieces := pieces_of_phrase? hatext h hlength
  have hhead : (ls.splitOn .gap).head?.bind List.head? ≠ some (.mark '.') := by
    intro hdot
    obtain ⟨w, hw, hfirst⟩ := Option.bind_eq_some_iff.1 hdot
    obtain ⟨ws, hsplit⟩ := List.head?_eq_some_iff.1 hw
    obtain ⟨v, rfl⟩ := List.head?_eq_some_iff.1 hfirst
    have hwhole : [Lexeme.gap].intercalate (ls.splitOn .gap) = ls := List.intercalate_splitOn Lexeme.gap
    refine hfront ?_
    rw [← hwhole, hsplit]
    exact head?_intercalate ..
  rw [← hname, joinWords_pieces hpieces]
  exact worded_pieces hpieces (List.splitOn_ne_nil _ _) hhead

/-! ## Brackets -/

theorem isChar_of_isAtom {w : List Lexeme} (h : isAtom w = true) {l : Lexeme} (hl : l ∈ w) : l.isChar = true := by
  rw [isAtom, Bool.and_eq_true, List.all_eq_true] at h
  exact h.2 l hl

theorem mem_trimGaps {l : Lexeme} {ls : List Lexeme} (h : l ∈ ls) (hl : l ≠ .gap) : l ∈ trimGaps ls := by
  have hkeep : ∀ ms : List Lexeme, l ∈ ms → l ∈ ms.dropWhile (· == .gap) := by
    intro ms hms
    rw [← List.takeWhile_append_dropWhile (p := (· == .gap)) (l := ms), List.mem_append] at hms
    exact hms.resolve_left fun htake => hl (by simpa using List.mem_takeWhile_imp htake)
  rw [trimGaps, List.mem_reverse]
  exact hkeep _ (List.mem_reverse.2 (hkeep _ h))

/-- words with dots in between have no bracket -/
theorem dotted?_unbracketed {isWord : List Lexeme → Bool} (hword : ∀ w, isWord w = true → Lexeme.mark '<' ∉ w)
    {ls : List Lexeme} {cs : List Char} (h : dotted? isWord ls = some cs) : Lexeme.mark '<' ∉ ls := by
  unfold dotted? at h
  dsimp only at h
  split at h
  swap
  · cases h
  rename_i hall
  rw [List.all_map, List.all_eq_true] at hall
  intro hmem
  rcases mem_piece (.mark '.') hmem with hdot | ⟨w, hw, hmem⟩
  · exact absurd hdot (by decide)
  · exact hword _ (hall w hw) (mem_trimGaps hmem nofun)

theorem isQuoted_unbracketed {w : List Lexeme} (h : isQuoted w = true) : Lexeme.mark '<' ∉ w := by
  unfold isQuoted at h
  split at h
  swap
  · cases h
  rename_i rest
  rw [Bool.and_eq_true, beq_iff_eq, List.all_eq_true] at h
  obtain ⟨hlast, hchars⟩ := h
  obtain ⟨front, rfl⟩ := List.getLast?_eq_some_iff.1 hlast
  rw [List.dropLast_concat] at hchars
  intro hmem
  simp only [List.mem_cons, List.mem_append, List.not_mem_nil, or_false, reduceCtorEq, false_or] at hmem
  cases hchars _ hmem

theorem domain?_unbracketed {ls : List Lexeme} {cs : List Char} (h : domain? ls = some cs) :
    Lexeme.mark '<' ∉ ls := by
  unfold domain? at h
  split at h
  · rename_i rest hliteral
    split at h
    swap
    · cases h
    rename_i hrest
    obtain ⟨hlast, hchars⟩ := hrest
    obtain ⟨front, rfl⟩ := List.getLast?_eq_some_iff.1 hlast
    rw [List.dropLast_concat, List.all_eq_true] at hchars
    intro hmem
    have htrimmed := mem_trimGaps hmem nofun
    simp only [hliteral, List.mem_cons, List.mem_append, List.not_mem_nil, or_false, Lexeme.mark.injEq,
      Char.reduceEq, false_or] at htrimmed
    cases hchars _ htrimmed
  · exact dotted?_unbracketed (fun w hw hmem => nomatch isChar_of_isAtom hw hmem) h

/-- an address has no bracket -/
theorem addrSpec?_unbracketed {ls : List Lexeme} {parts : List Char × List Char} (h : addrSpec? ls = some parts) :
    Lexeme.mark '<' ∉ ls := by
  simp only [addrSpec?, Option.bind_eq_bind, Option.bind_eq_some_iff] at h
  obtain ⟨⟨part, rest⟩, hcut, front, hfront, back, hback, -⟩ := h
  obtain ⟨rfl, -⟩ := cutAt?_eq_some.1 hcut
  have hpart : Lexeme.mark '<' ∉ part := by
    refine dotted?_unbracketed (fun w hw => ?_) hfront
    rcases Bool.or_eq_true_iff.1 hw with hatom | hquoted
    · exact fun hmem => nomatch isChar_of_isAtom hatom hmem
    · exact isQuoted_unbracketed hquoted
  have hrest := domain?_unbracketed hback
  simp [hpart, hrest]

/-- behind the bracket that opens an address no other one opens -/
theorem angle?_unbracketed {ls : List Lexeme} {parts : List Char × List Char} (h : angle? ls = some parts) :
    Lexeme.mark '<' ∉ ls := by
  simp only [angle?, Option.bind_eq_bind, Option.bind_eq_some_iff] at h
  obtain ⟨⟨inner, after⟩, hcut, h⟩ := h
  obtain ⟨rfl, -⟩ := cutAt?_eq_some.1 hcut
  split at h
  swap
  · cases h
  rename_i hafter
  rw [List.all_eq_true] at hafter
  have hinner := addrSpec?_unbracketed h
  have hgaps : Lexeme.mark '<' ∉ after := fun hmem => nomatch hafter _ hmem
  simp [hinner, hgaps]

end EnquiryMail.Mail
