/-
The lexemes of a structured header field (RFC 5322, section 3.2). A reader goes over the field one character at a
time and sees at most one lexeme of each: the characters of atoms and of quoted texts, the gaps between words, and the
marks of a list. Quotes, domain literals and nested comments hide the meaning of what stands in them, and a backslash
that of the next character.

- `step_cases`: what one step can do.
- `scan_append`, `scan_open`, `inside_of_scan`: a text piece by piece; characters that open nothing; what stays open.
- `length_of_scan`, `isAtext_of_scan`: how much is seen, and which characters.
-/
import EnquiryMail.Mail.Address
import EnquiryMail.Proofs.Mail.Word

namespace EnquiryMail.Mail

/-! ## Lexemes -/

/-- the characters with a meaning of their own -/
def specials : List Char := ['(', ')', '<', '>', '[', ']', ':', ';', '@', '\\', ',', '.', '"']

/-- a character that an atom may have -/
def isAtext (c : Char) : Bool := isPrintable c && c != ' ' && !specials.contains c

/-- a piece of a structured field: a character of an atom or of a quoted text, the blanks and comments between words,
the quotes around a text, and the marks of the list -/
inductive Lexeme
  | char (c : Char)
  | gap
  | quote
  | mark (c : Char)
  deriving DecidableEq, Repr

/-- the marks that stand for themselves -/
def marks : List Char := ['<', '>', ',', '@', '.', ':', ';']

/-- what a character outside of all enclosures is, unless it opens one -/
def lexeme? (c : Char) : Option Lexeme :=
  if isAtext c then some (.char c)
  else if c = ' ' ∨ c = '\t' then some .gap
  else if c ∈ marks then some (.mark c)
  else none

/-- what hides the meaning of its characters; comments nest -/
inductive Enclosure
  | quotes
  | literal
  | comment (depth : Nat)
  deriving DecidableEq, Repr

/-- where a reader stands: outside of all enclosures, or in one, perhaps behind a backslash -/
inductive Place
  | outside
  | inside (e : Enclosure) (escaped : Bool)
  deriving DecidableEq, Repr

namespace Enclosure

/-- the enclosure that a character opens, and what is seen of it -/
def opened? (c : Char) : Option (Enclosure × Lexeme) :=
  if c = '"' then some (.quotes, .quote)
  else if c = '[' then some (.literal, .mark '[')
  else if c = '(' then some (.comment 0, .gap)
  else none

/-- what is seen of a character in an enclosure -/
def seen (c : Char) : Enclosure → List Lexeme
  | .comment _ => []
  | _ => [.char c]

/-- the next place behind a character that no backslash precedes -/
def next (c : Char) : Enclosure → Option (Place × List Lexeme)
  | .quotes => some (if c = '"' then (.outside, [.quote]) else (.inside .quotes false, [.char c]))
  | .literal =>
    if c = '[' then none
    else some (if c = ']' then (.outside, [.mark ']']) else (.inside .literal false, [.char c]))
  | .comment depth =>
    if c = '(' then some (.inside (.comment (depth + 1)) false, [])
    else if c = ')' then some (if depth = 0 then .outside else .inside (.comment (depth - 1)) false, [])
    else some (.inside (.comment depth) false, [])

end Enclosure

/-- the next place behind a character, and what is seen of it -/
def Place.step (c : Char) : Place → Option (Place × List Lexeme)
  | .outside =>
    match lexeme? c with
    | some l => some (.outside, [l])
    | none => (Enclosure.opened? c).map fun (e, l) => (.inside e false, [l])
  | .inside e true => some (.inside e false, e.seen c)
  | .inside e false => if c = '\\' then some (.inside e true, []) else e.next c

/-- the place behind a text, and what is seen of the text -/
def scan : Place → List Char → Option (Place × List Lexeme)
  | p, [] => some (p, [])
  | p, c :: cs => do
    let (q, out) ← p.step c
    let (final, rest) ← scan q cs
    some (final, out ++ rest)

/-- the lexemes of a text that closes what it opens -/
def lexemes? (cs : List Char) : Option (List Lexeme) := do
  let (final, ls) ← scan .outside cs
  if final = .outside then some ls else none

namespace Lexeme

/-- the characters that a lexeme shows -/
def text : Lexeme → List Char
  | .char c | .mark c => [c]
  | .gap | .quote => []

/-- what a phrase may have -/
def inPhrase : Lexeme → Bool
  | .mark c => c == '.'
  | _ => true

/-- a character of a word -/
def isChar : Lexeme → Bool
  | .char _ => true
  | _ => false

/-- the text of some lexemes -/
def textOf (ls : List Lexeme) : List Char := ls.flatMap text

end Lexeme

/-! ## Single characters -/

/-- a character as a lexeme of its own -/
def lexeme (c : Char) : Lexeme := (lexeme? c).getD .gap

theorem isAtext_of_graphic {c : Char} (h : Graphic c) (hspecial : c ∉ specials) : isAtext c = true := by
  have hlow : 0x21 ≤ c.toNat := UInt32.le_iff_toNat_le.1 h.1
  have hhigh : c.toNat ≤ 0x7E := UInt32.le_iff_toNat_le.1 h.2
  have hblank : c ≠ ' ' := by
    rintro rfl
    exact absurd hlow (by decide)
  have hprintable : isPrintable c = true := by
    simp only [isPrintable, Bool.and_eq_true, decide_eq_true_eq]
    omega
  simp [isAtext, hprintable, hblank, hspecial]

theorem isAtext_of_isAlnum {c : Char} (h : isAlnum c = true) : isAtext c = true := by
  refine isAtext_of_graphic (graphic_of_isAlphanum h) fun hspecial => ?_
  have hnone : (specials.all fun d => !isAlnum d) = true := by decide
  have hc := List.all_eq_true.1 hnone c hspecial
  rw [h] at hc
  cases hc

theorem lexeme?_of_isAtext {c : Char} (h : isAtext c = true) : lexeme? c = some (.char c) := if_pos h

theorem lexeme_of_isAtext {c : Char} (h : isAtext c = true) : lexeme c = .char c := by
  rw [lexeme, lexeme?_of_isAtext h, Option.getD_some]

/-- the lexemes of which a character is seen are those of atoms -/
theorem isAtext_of_lexeme? {c d : Char} (h : lexeme? d = some (.char c)) : isAtext c = true := by
  simp only [lexeme?] at h
  split at h
  · rename_i hd
    cases h
    exact hd
  split at h
  · cases h
  split at h <;> cases h

/-- what opens an enclosure without being seen opens a comment -/
theorem opened?_comment {c : Char} {e : Enclosure} {l : Lexeme} (h : Enclosure.opened? c = some (e, l))
    (hquote : l ≠ .quote) (hliteral : l ≠ .mark '[') : e = .comment 0 ∧ l = .gap := by
  simp only [Enclosure.opened?] at h
  split at h
  · cases h; exact absurd rfl hquote
  split at h
  · cases h; exact absurd rfl hliteral
  split at h <;> cases h
  exact ⟨rfl, rfl⟩

/-! ## Scanning -/

/-- the characters that can close an enclosure -/
def closers : List Char := ['"', ']', ')']

/-- the place is in no quotes and in no literal -/
def Place.Bare : Place → Prop
  | .outside | .inside (.comment _) _ => True
  | .inside .quotes _ | .inside .literal _ => False

/-- what one step can do: see a character that stands for itself, open an enclosure, stay in one, or close it -/
theorem step_cases {p q : Place} {c : Char} {out : List Lexeme} (h : p.step c = some (q, out)) :
    (∃ l, p = .outside ∧ lexeme? c = some l ∧ q = .outside ∧ out = [l]) ∨
    (∃ e l, p = .outside ∧ Enclosure.opened? c = some (e, l) ∧ q = .inside e false ∧ out = [l]) ∨
    (∃ e e' b b', p = .inside e b ∧ q = .inside e' b' ∧ out.length ≤ 1 ∧ (p.Bare → q.Bare ∧ out = [])) ∨
    (∃ e, p = .inside e false ∧ q = .outside ∧ c ∈ closers ∧ out.length ≤ 1 ∧ (p.Bare → out = [])) := by
  cases p with
  | outside =>
    simp only [Place.step] at h
    split at h
    · rename_i l hl
      cases h
      exact .inl ⟨l, rfl, hl, rfl, rfl⟩
    · obtain ⟨⟨e, l⟩, hopened, hout⟩ := Option.map_eq_some_iff.1 h
      cases hout
      exact .inr (.inl ⟨e, l, rfl, hopened, rfl, rfl⟩)
  | inside e escaped =>
    refine .inr (.inr ?_)
    cases escaped with
    | true =>
      cases h
      exact .inl ⟨e, e, true, false, rfl, rfl, by cases e <;> simp [Enclosure.seen],
        by cases e <;> simp [Place.Bare, Enclosure.seen]⟩
    | false =>
      simp only [Place.step] at h
      split at h
      · cases h
        exact .inl ⟨e, e, false, true, rfl, rfl, Nat.zero_le _, by cases e <;> simp [Place.Bare]⟩
      cases e with
      | quotes =>
        simp only [Enclosure.next, Option.some.injEq] at h
        split at h <;> cases h
        · rename_i hc
          exact .inr ⟨_, rfl, rfl, by simp [closers, hc], Nat.le_refl _, False.elim⟩
        · exact .inl ⟨_, _, _, _, rfl, rfl, Nat.le_refl _, False.elim⟩
      | literal =>
        simp only [Enclosure.next] at h
        split at h
        · cases h
        rw [Option.some.injEq] at h
        split at h <;> cases h
        · rename_i hc
          exact .inr ⟨_, rfl, rfl, by simp [closers, hc], Nat.le_refl _, False.elim⟩
        · exact .inl ⟨_, _, _, _, rfl, rfl, Nat.le_refl _, False.elim⟩
      | comment depth =>
        simp only [Enclosure.next] at h
        split at h
        · cases h
          exact .inl ⟨_, _, _, _, rfl, rfl, Nat.zero_le _, fun _ => ⟨trivial, rfl⟩⟩
        split at h
        · rename_i hc
          cases h
          split
          · exact .inr ⟨_, rfl, rfl, by simp [closers, hc], Nat.zero_le _, fun _ => rfl⟩
          · exact .inl ⟨_, _, _, _, rfl, rfl, Nat.zero_le _, fun _ => ⟨trivial, rfl⟩⟩
        · cases h
          exact .inl ⟨_, _, _, _, rfl, rfl, Nat.zero_le _, fun _ => ⟨trivial, rfl⟩⟩

/-- a scan goes on from where the first character leads -/
theorem scan_cons {p final : Place} {c : Char} {cs : List Char} {ls : List Lexeme}
    (h : scan p (c :: cs) = some (final, ls)) :
    ∃ q out rest, p.step c = some (q, out) ∧ scan q cs = some (final, rest) ∧ ls = out ++ rest := by
  simp only [scan, Option.bind_eq_bind, Option.bind_eq_some_iff] at h
  obtain ⟨⟨q, out⟩, hstep, ⟨final', rest⟩, hscan, hls⟩ := h
  cases hls
  exact ⟨q, out, rest, hstep, hscan, rfl⟩

theorem scan_append (p : Place) (as bs : List Char) :
    scan p (as ++ bs) = (scan p as).bind fun (q, ls) => (scan q bs).map fun (final, rest) => (final, ls ++ rest) := by
  induction as generalizing p with
  | nil => simp [scan]
  | cons c as ih =>
    simp only [List.cons_append, scan]
    cases p.step c with
    | none => rfl
    | some found =>
      obtain ⟨q, out⟩ := found
      simp only [Option.bind_eq_bind, Option.bind_some, ih]
      cases scan q as with
      | none => rfl
      | some found =>
        obtain ⟨q, ls⟩ := found
        simp only [Option.bind_some]
        cases scan q bs <;> simp

/-- characters that open nothing are seen as they are -/
theorem scan_open {cs : List Char} (h : ∀ c ∈ cs, (lexeme? c).isSome) :
    scan .outside cs = some (.outside, cs.map lexeme) := by
  induction cs with
  | nil => rfl
  | cons c cs ih =>
    obtain ⟨hc, hcs⟩ := List.forall_mem_cons.1 h
    obtain ⟨l, hl⟩ := Option.isSome_iff_exists.1 hc
    have hstep : Place.step c .outside = some (.outside, [l]) := by simp only [Place.step, hl]
    simp only [scan, hstep, Option.bind_eq_bind, Option.bind_some, ih hcs, List.map_cons, lexeme, hl, Option.getD_some,
      List.singleton_append]

/-- no more lexemes are seen than there are characters -/
theorem length_of_scan {p q : Place} {cs : List Char} {ls : List Lexeme} (h : scan p cs = some (q, ls)) :
    ls.length ≤ cs.length := by
  induction cs generalizing p ls with
  | nil => cases h; exact Nat.le_refl _
  | cons c cs ih =>
    obtain ⟨p', out, rest, hstep, hscan, rfl⟩ := scan_cons h
    have hrest : rest.length ≤ cs.length := ih hscan
    have hout : out.length ≤ 1 := by
      rcases step_cases hstep with ⟨l, -, -, -, rfl⟩ | ⟨e, l, -, -, -, rfl⟩ | ⟨_, _, _, _, -, -, hle, -⟩ |
        ⟨_, -, -, -, hle, -⟩
      · exact Nat.le_refl _
      · exact Nat.le_refl _
      · exact hle
      · exact hle
    simp only [List.length_append, List.length_cons]
    omega

/-- an enclosure stays open over a text that could close none -/
theorem inside_of_scan {p q : Place} {cs : List Char} {ls : List Lexeme} (hcs : ∀ c ∈ cs, c ∉ closers)
    (h : scan p cs = some (q, ls)) (hp : p ≠ .outside) : q ≠ .outside := by
  induction cs generalizing p ls with
  | nil => cases h; exact hp
  | cons c cs ih =>
    obtain ⟨hc, hcs⟩ := List.forall_mem_cons.1 hcs
    obtain ⟨p', out, rest, hstep, hscan, -⟩ := scan_cons h
    refine ih hcs hscan ?_
    rcases step_cases hstep with ⟨_, rfl, -⟩ | ⟨_, _, rfl, -⟩ | ⟨_, _, _, _, -, rfl, -⟩ | ⟨_, -, -, hclose, -⟩
    · exact absurd rfl hp
    · exact absurd rfl hp
    · nofun
    · exact absurd hclose hc

/-- outside of quotes and literals only the characters of atoms are seen -/
theorem isAtext_of_scan {p q : Place} {cs : List Char} {ls : List Lexeme} (h : scan p cs = some (q, ls)) (hp : p.Bare)
    (hquote : Lexeme.quote ∉ ls) (hliteral : Lexeme.mark '[' ∉ ls) {c : Char} (hc : Lexeme.char c ∈ ls) :
    isAtext c = true := by
  induction cs generalizing p ls with
  | nil => cases h; cases hc
  | cons d cs ih =>
    obtain ⟨p', out, rest, hstep, hscan, rfl⟩ := scan_cons h
    simp only [List.mem_append, not_or] at hquote hliteral
    have hrest : p'.Bare → Lexeme.char c ∈ rest → isAtext c = true :=
      fun hp' => ih hscan hp' hquote.2 hliteral.2
    rcases step_cases hstep with ⟨l, -, hl, rfl, rfl⟩ | ⟨e, l, -, hopened, rfl, rfl⟩ | ⟨_, _, _, _, -, -, -, hbare⟩ |
        ⟨_, -, rfl, -, -, hbare⟩
    · rcases List.mem_append.1 hc with hc | hc
      · cases List.mem_singleton.1 hc
        exact isAtext_of_lexeme? hl
      · exact hrest trivial hc
    · have hcomment := opened?_comment hopened (fun hl => hquote.1 (by simp [hl])) fun hl => hliteral.1 (by simp [hl])
      obtain ⟨rfl, rfl⟩ := hcomment
      rcases List.mem_append.1 hc with hc | hc
      · cases List.mem_singleton.1 hc
      · exact hrest trivial hc
    · obtain ⟨hp', rfl⟩ := hbare hp
      exact hrest hp' hc
    · rw [hbare hp] at hc
      exact hrest trivial hc

end EnquiryMail.Mail
