/-
The sender field, as it is read. A display name in printable ASCII goes out as it stands, any other as an encoded word.
So a reader of mailbox lists finds the sender again where the name was encoded, where there is none, and where it
stands for itself: words with one blank in between that are no encoded words. A name with a mark of its own (a comma, a
quote, an angle bracket, a comment, a backslash), with blanks at an end or next to each other, or with the look of an
encoded word is read as something else or not at all.

- `senders?_bare`, `senders?_plain`, `senders?_encoded`: the senders that are found again.
- `plain_of_senders?`: no other name in printable ASCII is.
- `fromField_eq_iff`: which senders get the same field.
- `senders_read`: all of it.
- `senders_misread`: names that get the field of another one, or one that is no mailbox list.
-/
import EnquiryMail.Mail.Compose
import EnquiryMail.Proofs.Mail.Mailbox
import EnquiryMail.Smtp.Settings

namespace EnquiryMail.Mail

open EnquiryMail.Text

/-- what a reader makes of a sender field: the display name and the address of each of its mailboxes -/
def senders? (r : WordReader) (value : List Char) : Option (List (Option (List Char) × List Char)) :=
  (mailboxes? r value).map (List.map fun m => (m.name, m.address))

/-! ## Fields -/

/-- an address in angle brackets, behind a blank -/
def bracketed (address : List Char) : List Char := ' ' :: '<' :: (address ++ ['>'])

/-- the display name as it is written -/
def written (name : List Char) : List Char := if name.all isPrintable then name else encodeWord name

theorem fromField_empty (address : String) : fromField "" address = address := if_pos rfl

theorem fromField_named {name : String} (h : name ≠ "") (address : String) :
    (fromField name address).toList = written name.toList ++ bracketed address.toList := by
  have hbracket : " <".toList = [' ', '<'] := rfl
  have hclose : ">".toList = ['>'] := rfl
  have hname : (if name.toList.all isPrintable then name else String.ofList (encodeWord name.toList)).toList =
      written name.toList := by
    unfold written
    split
    · rfl
    · exact String.toList_ofList
  rw [fromField, if_neg h, String.toList_append, String.toList_append, String.toList_append, hname, hbracket, hclose]
  simp [bracketed]

/-! ## Lexemes -/

variable {address : String}

theorem isSome_bracketed (h : isAddress address = true) : ∀ c ∈ bracketed address.toList, (lexeme? c).isSome := by
  obtain ⟨part, domain, haddress, hchars, -⟩ := isAddress_dotted h
  obtain ⟨hpart, hdomain⟩ := List.forall_mem_append.1 hchars
  intro c hc
  simp only [bracketed, haddress, List.mem_cons, List.mem_append, List.not_mem_nil, or_false] at hc
  rcases hc with rfl | rfl | (hc | rfl | hc) | rfl
  · decide
  · decide
  · exact isSome_of_isDotted (hpart c hc)
  · decide
  · exact isSome_of_isDotted (hdomain c hc)
  · decide

/-- an address in brackets closes no enclosure, so it is seen as it is or not at all -/
theorem lexemes?_bracketed (h : isAddress address = true) (cs : List Char) :
    lexemes? (cs ++ bracketed address.toList) =
      (lexemes? cs).map (· ++ (bracketed address.toList).map lexeme) := by
  have hopen := isSome_bracketed h
  unfold lexemes?
  rw [scan_append]
  cases hscan : scan .outside cs with
  | none => rfl
  | some found =>
    obtain ⟨q, ls⟩ := found
    by_cases hq : q = .outside
    · subst hq
      simp [scan_open hopen]
    · cases htail : scan q (bracketed address.toList) with
      | none => simp [htail, hq]
      | some found =>
        obtain ⟨final, rest⟩ := found
        have hclosers : ∀ c ∈ bracketed address.toList, c ∉ closers := by
          intro c hc hcloser
          have hclosed : (closers.all fun d => (lexeme? d).isNone) = true := by decide
          have hnone := List.all_eq_true.1 hclosed c hcloser
          have hsome := hopen c hc
          rw [Option.isNone_iff_eq_none.1 hnone] at hsome
          cases hsome
        have hfinal := inside_of_scan hclosers htail hq
        simp [htail, hq, hfinal]

theorem map_lexeme_bracketed (cs : List Char) :
    (bracketed cs).map lexeme = .gap :: .mark '<' :: (cs.map lexeme ++ [.mark '>']) := by
  have hmarks : lexeme ' ' = .gap ∧ lexeme '<' = .mark '<' ∧ lexeme '>' = .mark '>' := by decide
  simp [bracketed, hmarks]

/-- an address has no lexemes but characters, dots and its at sign -/
theorem notMem_address (h : isAddress address = true) {l : Lexeme} (hchar : l.isChar = false) (hdot : l ≠ .mark '.')
    (hat : l ≠ .mark '@') : l ∉ address.toList.map lexeme := by
  obtain ⟨part, domain, haddress, hchars, -⟩ := isAddress_dotted h
  obtain ⟨hpart, hdomain⟩ := List.forall_mem_append.1 hchars
  have hsign : lexeme '@' = .mark '@' := by decide
  rw [haddress, List.map_append, List.map_cons, hsign, List.mem_append, List.mem_cons]
  rintro (hl | hl | hl)
  · exact notMem_map_lexeme hchar hdot hpart hl
  · exact hat hl
  · exact notMem_map_lexeme hchar hdot hdomain hl

theorem angle?_of_isAddress (h : isAddress address = true) :
    ∃ part domain, address.toList = part ++ '@' :: domain ∧
      angle? (address.toList.map lexeme ++ [.mark '>']) = some (part, domain) := by
  obtain ⟨part, domain, haddress, hspec⟩ := addrSpec?_of_isAddress h
  refine ⟨part, domain, haddress, ?_⟩
  rw [angle?, cutAt?_append (notMem_address h rfl (by decide) (by decide))]
  simpa using hspec

/-! ## What is read -/

/-- a list without commas is read as its one member -/
theorem senders?_single {r : WordReader} {value : List Char} {ls : List Lexeme} {m : Mailbox}
    (hvalue : lexemes? value = some ls) (hcomma : Lexeme.mark ',' ∉ ls) {l : Lexeme} (hl : l ∈ ls) (hgap : l ≠ .gap)
    (hbox : mailbox? r ls = some m) : senders? r value = some [(m.name, m.address)] := by
  have hkept : ls.all (· == .gap) = false := List.all_eq_false.2 ⟨l, hl, by simpa using hgap⟩
  have hmembers : members ls = [ls] := by
    rw [members, List.splitOn_eq_singleton hcomma]
    simp [hkept]
  rw [senders?, mailboxes?, hvalue, Option.bind_eq_bind, Option.bind_some, hmembers]
  simp [hbox]

/-- an address alone is a sender without a name -/
theorem senders?_bare (r : WordReader) (h : isAddress address = true) :
    senders? r address.toList = some [(none, address.toList)] := by
  obtain ⟨part, domain, haddress, hspec⟩ := addrSpec?_of_isAddress h
  have hlexemes : lexemes? address.toList = some (address.toList.map lexeme) := by
    have hopen : ∀ c ∈ address.toList, (lexeme? c).isSome := fun c hc =>
      isSome_bracketed h c (by simp [bracketed, hc])
    simp [lexemes?, scan_open hopen]
  have hat : Lexeme.mark '@' ∈ address.toList.map lexeme := by
    rw [haddress, List.map_append, List.map_cons]
    exact List.mem_append_right _ List.mem_cons_self
  have hbox : mailbox? r (address.toList.map lexeme) = some ⟨none, part, domain⟩ := by
    rw [mailbox?, cutAt?_eq_none.2 (notMem_address h rfl (by decide) (by decide)), hspec]
    rfl
  rw [senders?_single hlexemes (notMem_address h rfl (by decide) (by decide)) hat nofun hbox, Mailbox.address, haddress]

/-- what is read of an address behind a display name -/
theorem senders?_bracketed {r : WordReader} (h : isAddress address = true) {cs : List Char} {ls : List Lexeme}
    {name : Option (List Char)} (hcs : lexemes? cs = some ls) (hcomma : Lexeme.mark ',' ∉ ls)
    (hangle : Lexeme.mark '<' ∉ ls) (hname : phrase? r (ls ++ [.gap]) = some name) :
    senders? r (cs ++ bracketed address.toList) = some [(name, address.toList)] := by
  obtain ⟨part, domain, haddress, hparts⟩ := angle?_of_isAddress h
  have hlexemes : lexemes? (cs ++ bracketed address.toList) =
      some (ls ++ [.gap] ++ .mark '<' :: (address.toList.map lexeme ++ [.mark '>'])) := by
    rw [lexemes?_bracketed h, hcs, map_lexeme_bracketed]
    simp
  have hlist : Lexeme.mark ',' ∉ ls ++ [.gap] ++ .mark '<' :: (address.toList.map lexeme ++ [.mark '>']) := by
    have hnone := notMem_address h (l := .mark ',') rfl (by decide) (by decide)
    simp [hcomma, hnone]
  have hbox : mailbox? r (ls ++ [.gap] ++ .mark '<' :: (address.toList.map lexeme ++ [.mark '>'])) =
      some ⟨name, part, domain⟩ := by
    rw [mailbox?, cutAt?_append (by simp [hangle])]
    simp [hname, hparts]
  have hmark : Lexeme.mark '<' ∈ ls ++ [.gap] ++ .mark '<' :: (address.toList.map lexeme ++ [.mark '>']) := by simp
  rw [senders?_single hlexemes hlist hmark nofun hbox, Mailbox.address, haddress]

/-- a display name in front of an address in brackets takes up all that stands there -/
theorem phrase?_of_mailbox? {r : WordReader} {ls rest : List Lexeme} {m : Mailbox}
    (h : mailbox? r (ls ++ .gap :: .mark '<' :: rest) = some m) : phrase? r (ls ++ [.gap]) = some m.name := by
  have hsplit : ls ++ .gap :: .mark '<' :: rest = ls ++ [.gap] ++ .mark '<' :: rest := by simp
  rw [mailbox?, hsplit] at h
  split at h
  · rename_i hnone
    exact absurd hnone (by simp [cutAt?_eq_none])
  rename_i phrase behind hcut
  simp only [Option.bind_eq_bind, Option.bind_eq_some_iff] at h
  obtain ⟨name, hname, ⟨part, domain⟩, hparts, hm⟩ := h
  cases hm
  by_cases hls : Lexeme.mark '<' ∈ ls ++ [.gap]
  · -- a bracket further in front would have this one behind it
    obtain ⟨front, back, hfront, hnot⟩ := List.eq_append_cons_of_mem hls
    rw [hfront, List.append_assoc, List.cons_append, cutAt?_append hnot] at hcut
    cases hcut
    exact absurd (angle?_unbracketed hparts) (by simp)
  · rw [cutAt?_append hls] at hcut
    cases hcut
    exact hname

theorem phrase?_of_senders? {r : WordReader} (h : isAddress address = true) {cs : List Char}
    {name : Option (List Char)} {found : List Char}
    (hread : senders? r (cs ++ bracketed address.toList) = some [(name, found)]) :
    ∃ front ls, lexemes? cs = some (front ++ ls) ∧ phrase? r (ls ++ [.gap]) = some name := by
  obtain ⟨boxes, hboxes, hshown⟩ := Option.map_eq_some_iff.1 hread
  simp only [mailboxes?, lexemes?_bracketed h, Option.bind_eq_bind, Option.bind_eq_some_iff,
    Option.map_eq_some_iff] at hboxes
  obtain ⟨all, ⟨seen, hseen, rfl⟩, hboxes⟩ := hboxes
  obtain ⟨front, ls, rfl, hlast⟩ := splitOn_last (Lexeme.mark ',') seen
  refine ⟨front, ls, hseen, ?_⟩
  have hcomma : Lexeme.mark ',' ∉ (bracketed address.toList).map lexeme := by
    have hnone := notMem_address h (l := .mark ',') rfl (by decide) (by decide)
    rw [map_lexeme_bracketed]
    simp [hnone]
  obtain ⟨ws, hws⟩ := hlast _ hcomma
  have hmembers : ∃ others, members (front ++ ls ++ (bracketed address.toList).map lexeme) =
      others ++ [ls ++ (bracketed address.toList).map lexeme] := by
    refine ⟨ws.filter fun m => !m.all (· == .gap), ?_⟩
    rw [members, hws, List.filter_append, map_lexeme_bracketed]
    simp
  obtain ⟨others, hothers⟩ := hmembers
  rw [hothers, if_neg (by simp), List.mapM_append] at hboxes
  simp only [List.mapM_cons, List.mapM_nil, Option.bind_eq_bind, Option.bind_eq_some_iff, Option.pure_def,
    Option.some.injEq] at hboxes
  obtain ⟨before, -, last, ⟨m, hm, -, rfl, rfl⟩, rfl⟩ := hboxes
  rw [map_lexeme_bracketed] at hm
  have hname := phrase?_of_mailbox? hm
  have hsame : m.name = name := by
    cases before with
    | nil =>
      simp only [List.nil_append, List.map_cons, List.map_nil, List.cons.injEq, Prod.mk.injEq, and_true] at hshown
      exact hshown.1
    | cons b before => simp at hshown
  rw [hname, hsame]

/-! ## Names -/

/-- the reader that knows the words of `encodeWord` and no others -/
def WordReader.utf8 : WordReader where
  decode := decodeWord?
  reads := decodeWord?_encodeWord
  shorter := length_of_decodeWord?

/-- a name that is shown as it is written: words with one blank in between, none of which a reader takes for encoded -/
def Plain (r : WordReader) (name : List Char) : Prop :=
  Worded name ∧ ∀ w ∈ name.splitOn ' ', r.decode w = none

instance (r : WordReader) (name : List Char) : Decidable (Plain r name) :=
  inferInstanceAs (Decidable (Worded name ∧ ∀ w ∈ name.splitOn ' ', r.decode w = none))

theorem isAtext_encodeWord (text : List Char) : ∀ c ∈ encodeWord text, isAtext c = true := by
  have hopening : opening.all isAtext = true := by decide
  have hclosing : ['?', '='].all isAtext = true := by decide
  intro c hc
  rw [encodeWord_eq, List.mem_append, List.mem_append] at hc
  rcases hc with hc | hc | hc
  · exact List.all_eq_true.1 hopening c hc
  · rcases Base64.mem_encode hc with hletter | rfl
    · simp only [Base64.isLetter, Bool.or_eq_true, beq_iff_eq] at hletter
      rcases hletter with (halnum | rfl) | rfl
      · exact isAtext_of_isAlnum halnum
      · decide
      · decide
    · decide
  · exact List.all_eq_true.1 hclosing c hc

/-- an encoded word is a single word -/
theorem splitOn_encodeWord (text : List Char) : (encodeWord text).splitOn ' ' = [encodeWord text] := by
  refine List.splitOn_eq_singleton fun hblank => ?_
  have hspace := isAtext_encodeWord text ' ' hblank
  revert hspace
  decide

theorem worded_encodeWord (text : List Char) : Worded (encodeWord text) := by
  refine ⟨by rw [encodeWord_eq]; nofun, fun w hw => ?_⟩
  rw [splitOn_encodeWord, List.mem_singleton] at hw
  subst hw
  refine ⟨by rw [encodeWord_eq]; nofun, List.all_eq_true.2 fun c hc => ?_⟩
  rw [isDotted, isAtext_encodeWord text c hc, Bool.true_or]

theorem isPrintable_of_isDotted {c : Char} (h : isDotted c = true) : isPrintable c = true := by
  rcases Bool.or_eq_true_iff.1 h with h | h
  · simp only [isAtext, Bool.and_eq_true] at h
    exact h.1.1
  · rw [beq_iff_eq.1 h]
    decide

theorem Worded.printable {name : List Char} (h : Worded name) : name.all isPrintable = true := by
  rw [List.all_eq_true]
  intro c hc
  rcases h.char hc with rfl | hdotted
  · decide
  · exact isPrintable_of_isDotted hdotted

/-- words in front of an address are read as its display name -/
theorem senders?_worded (r : WordReader) (h : isAddress address = true) {cs : List Char} (hcs : Worded cs) :
    senders? r (cs ++ bracketed address.toList) =
      some [(some (joinWords ((cs.splitOn ' ').map r.shown)), address.toList)] := by
  have hlexeme : ∀ c ∈ cs, (lexeme? c).isSome ∧ lexeme c ≠ .mark ',' ∧ lexeme c ≠ .mark '<' := by
    intro c hc
    rcases hcs.char hc with rfl | hdotted
    · decide
    · refine ⟨isSome_of_isDotted hdotted, ?_⟩
      rcases lexeme_of_isDotted hdotted with hl | ⟨-, hl⟩ <;> rw [hl] <;> simp
  have hlexemes : lexemes? cs = some (cs.map lexeme) := by
    simp [lexemes?, scan_open fun c hc => (hlexeme c hc).1]
  refine senders?_bracketed h hlexemes ?_ ?_ (phrase?_words r hcs)
  · rw [List.mem_map]
    rintro ⟨c, hc, hl⟩
    exact (hlexeme c hc).2.1 hl
  · rw [List.mem_map]
    rintro ⟨c, hc, hl⟩
    exact (hlexeme c hc).2.2 hl

theorem senders?_plain {r : WordReader} (h : isAddress address = true) {name : List Char} (hname : Plain r name) :
    senders? r (name ++ bracketed address.toList) = some [(some name, address.toList)] := by
  obtain ⟨hworded, hdecode⟩ := hname
  have hshown : (name.splitOn ' ').map r.shown = (name.splitOn ' ').map fun w => (false, w) :=
    List.map_congr_left fun w hw => by rw [WordReader.shown, hdecode w hw]
  have hjoined : joinWords ((name.splitOn ' ').map r.shown) = name := by
    have hwords : ((name.splitOn ' ').map fun w => (false, w)).map Prod.snd = name.splitOn ' ' := by simp
    rw [hshown, joinWords_plain (by simp), hwords, List.intercalate_splitOn]
  rw [senders?_worded r h hworded, hjoined]

theorem senders?_encoded (r : WordReader) (h : isAddress address = true) (name : List Char) :
    senders? r (encodeWord name ++ bracketed address.toList) = some [(some name, address.toList)] := by
  have hshown : r.shown (encodeWord name) = (true, name) := by rw [WordReader.shown, r.reads]
  rw [senders?_worded r h (worded_encodeWord name), splitOn_encodeWord, List.map_singleton, hshown, joinWords]

/-- a name that is read as it is written is plain -/
theorem plain_of_senders? {r : WordReader} (h : isAddress address = true) {name found : List Char}
    (hread : senders? r (name ++ bracketed address.toList) = some [(some name, found)]) : Plain r name := by
  obtain ⟨front, ls, hlexemes, hphrase⟩ := phrase?_of_senders? h hread
  simp only [lexemes?, Option.bind_eq_bind, Option.bind_eq_some_iff] at hlexemes
  obtain ⟨⟨final, seen⟩, hscan, hseen⟩ := hlexemes
  split at hseen
  swap
  · cases hseen
  rw [Option.some.injEq] at hseen
  subst hseen
  have hseen := length_of_scan hscan
  have hshown := length_of_phrase? hphrase
  rw [List.length_append] at hseen
  have hfront : front = [] := List.length_eq_zero_iff.1 (by omega)
  rw [hfront, List.nil_append] at hscan
  exact words_of_phrase? (fun hquote hliteral c => isAtext_of_scan hscan trivial hquote hliteral) hphrase (by omega)

/-! ## Senders -/

/-- `name'` spells the encoded word as which `name` is written -/
def Masks (name name' : String) : Prop :=
  name.toList.all isPrintable = false ∧ name'.toList = encodeWord name.toList

theorem printable_encodeWord (text : List Char) : (encodeWord text).all isPrintable = true :=
  (worded_encodeWord text).printable

theorem written_of_printable {name : List Char} (h : name.all isPrintable = true) : written name = name := if_pos h

theorem written_of_unprintable {name : List Char} (h : name.all isPrintable = false) :
    written name = encodeWord name := if_neg (by simp [h])

theorem Masks.unprintable {name name' : String} (h : Masks name name') : name.toList.all isPrintable = false := h.1

theorem Masks.printable {name name' : String} (h : Masks name name') : name'.toList.all isPrintable = true := by
  rw [h.2, printable_encodeWord]

/-- two names are written alike exactly if they are one, or one spells the other -/
theorem written_eq_iff {name name' : String} :
    written name.toList = written name'.toList ↔ name = name' ∨ Masks name name' ∨ Masks name' name := by
  constructor
  · intro h
    cases hname : name.toList.all isPrintable <;> cases hname' : name'.toList.all isPrintable
    · rw [written_of_unprintable hname, written_of_unprintable hname'] at h
      exact .inl (String.toList_injective (encodeWord_injective h))
    · rw [written_of_unprintable hname, written_of_printable hname'] at h
      exact .inr (.inl ⟨hname, h.symm⟩)
    · rw [written_of_printable hname, written_of_unprintable hname'] at h
      exact .inr (.inr ⟨hname', h⟩)
    · rw [written_of_printable hname, written_of_printable hname'] at h
      exact .inl (String.toList_injective h)
  · rintro (rfl | h | h)
    · rfl
    · rw [written_of_unprintable h.unprintable, written_of_printable h.printable, h.2]
    · rw [written_of_unprintable h.unprintable, written_of_printable h.printable, h.2]

theorem bracket_notMem (h : isAddress address = true) : '<' ∉ address.toList := by
  intro hc
  have hmark : lexeme '<' ∈ address.toList.map lexeme := List.mem_map_of_mem hc
  exact notMem_address h (by decide) (by decide) (by decide) hmark

/-- no address is a name with an address in brackets -/
theorem address_ne_bracketed (h : isAddress address = true) (cs ds : List Char) :
    address.toList ≠ cs ++ bracketed ds := by
  intro heq
  exact bracket_notMem h (by simp [heq, bracketed])

/-- an address in brackets can be told from what stands in front of it -/
theorem append_bracketed_inj {address' : String} (h : isAddress address = true) (h' : isAddress address' = true)
    {cs ds : List Char} : cs ++ bracketed address.toList = ds ++ bracketed address'.toList ↔
      cs = ds ∧ address = address' := by
  constructor
  · intro heq
    have hclosed : ∀ {text : List Char}, '<' ∉ text → '<' ∉ (text ++ ['>']).reverse := by
      intro text htext
      simp [htext]
    have hreverse : ∀ {front : List Char} (text : List Char), (front ++ bracketed text).reverse =
        (text ++ ['>']).reverse ++ '<' :: (' ' :: front.reverse) := by
      intro front text
      simp [bracketed]
    have hcut := congrArg (cutAt? '<') (congrArg List.reverse heq)
    rw [hreverse, hreverse, cutAt?_append (hclosed (bracket_notMem h)),
      cutAt?_append (hclosed (bracket_notMem h'))] at hcut
    simp only [Option.some.injEq, Prod.mk.injEq, List.reverse_inj, List.append_cancel_right_eq, List.cons.injEq,
      true_and] at hcut
    exact ⟨hcut.2, String.toList_injective hcut.1⟩
  · rintro ⟨rfl, rfl⟩
    rfl

theorem fromField_eq_iff {name name' address' : String} (h : isAddress address = true)
    (h' : isAddress address' = true) : fromField name address = fromField name' address' ↔
      address = address' ∧ (name = name' ∨ Masks name name' ∨ Masks name' name) := by
  have hempty : ∀ {n : String}, n ≠ "" → ¬ Masks "" n ∧ ¬ Masks n "" := by
    intro n hn
    constructor
    · intro hmask
      cases hmask.unprintable
    · intro hmask
      have hword := hmask.2
      rw [encodeWord_eq] at hword
      cases hword
  rw [← String.toList_inj]
  by_cases hname : name = "" <;> by_cases hname' : name' = ""
  · subst hname hname'
    simp [fromField_empty, String.toList_inj]
  · subst hname
    have hne := address_ne_bracketed h (written name'.toList) address'.toList
    simp [fromField_empty, fromField_named hname', hne, hempty hname', Ne.symm hname']
  · subst hname'
    have hne := address_ne_bracketed h' (written name.toList) address.toList
    simp [fromField_empty, fromField_named hname, hne.symm, hempty hname, hname]
  · rw [fromField_named hname, fromField_named hname', append_bracketed_inj h h', written_eq_iff, and_comm]

/-- **Senders as they are read.** Whatever encoded words a reader knows, it finds the one sender that a field was made
for exactly if the name is empty, has characters that are not printable, or is plain; and two senders get the same
field exactly if they have one address, and one name or a name that spells the encoded word of the other. -/
theorem senders_read (r : WordReader) {name address : String} (h : isAddress address = true) :
    (senders? r (fromField name address).toList =
        some [(if name = "" then none else some name.toList, address.toList)] ↔
      name = "" ∨ name.toList.all isPrintable = false ∨ Plain r name.toList) ∧
    ∀ {name' address' : String}, isAddress address' = true → (fromField name address = fromField name' address' ↔
      address = address' ∧ (name = name' ∨ Masks name name' ∨ Masks name' name)) := by
  refine ⟨?_, fun h' => fromField_eq_iff h h'⟩
  by_cases hname : name = ""
  · subst hname
    simp [fromField_empty, senders?_bare r h]
  rw [if_neg hname, fromField_named hname]
  cases hprintable : name.toList.all isPrintable with
  | false =>
    rw [written_of_unprintable hprintable, senders?_encoded r h]
    simp
  | true =>
    rw [written_of_printable hprintable]
    constructor
    · exact fun hread => .inr (.inr (plain_of_senders? h hread))
    · rintro (hempty | hno | hplain)
      · exact absurd hempty hname
      · cases hno
      · exact senders?_plain h hplain

/-- words with a full stop and a sign between them are read back as a name, and tell one address from another -/
theorem senders_read_words :
    isAddress "mailer@example.com" = true ∧ isAddress "sales@example.org" = true ∧
    senders? .utf8 (fromField "J. Doe & Co" "mailer@example.com").toList =
      some [(some "J. Doe & Co".toList, "mailer@example.com".toList)] ∧
    fromField "J. Doe & Co" "mailer@example.com" ≠ fromField "J. Doe & Co" "sales@example.org" := by
  have hmailer : isAddress "mailer@example.com" = true := by decide +kernel
  have hsales : isAddress "sales@example.org" = true := by decide +kernel
  have hplain : Plain .utf8 "J. Doe & Co".toList := by decide +kernel
  obtain ⟨hread, hsame⟩ := @senders_read .utf8 "J. Doe & Co" "mailer@example.com" hmailer
  refine ⟨hmailer, hsales, ?_, fun heq => ?_⟩
  · exact hread.2 (.inr (.inr hplain))
  · exact absurd ((hsame hsales).1 heq).1 (by decide)

/-- relay settings with a display name -/
def settingsNamed (name : String) : Smtp.Settings :=
  .ofOverrides (.obj [("host", .str "smtp.example.com"), ("username", .str "mailer@example.com"),
    ("password", .str "test-secret"), ("from", .str "mailer@example.com"), ("fromName", .str name)])

/-- the sender field of settings -/
def senderOf (s : Smtp.Settings) : String := fromField s.senderName s.sender

/-- A name that spells an encoded word gets the field of the text in it, and a name with a comma gets one that is no
mailbox list; the settings have no problem. -/
theorem senders_misread :
    (settingsNamed "é").problems = [] ∧ (settingsNamed "=?UTF-8?B?w6k=?=").problems = [] ∧
    (settingsNamed "Doe, John").problems = [] ∧ isAddress "mailer@example.com" = true ∧
    senderOf (settingsNamed "=?UTF-8?B?w6k=?=") = senderOf (settingsNamed "é") ∧
    senders? .utf8 (senderOf (settingsNamed "=?UTF-8?B?w6k=?=")).toList =
      some [(some ['é'], "mailer@example.com".toList)] ∧
    senders? .utf8 (senderOf (settingsNamed "Doe, John")).toList = none := by
  decide +kernel

end EnquiryMail.Mail
