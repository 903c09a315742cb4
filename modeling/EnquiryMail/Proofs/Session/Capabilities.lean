/-
What a relay announces after EHLO, and what is read of it. Three readers look at the capabilities: one takes them off
the lines of the reply, one looks for a keyword, one collects the sign-in mechanisms, also those of the older form with
an equals sign. Each is compared with what a capability says: a keyword up to the first blank or equals sign, and for
`AUTH` the words behind that.

- `capabilities_spell`: capabilities written as the lines of a reply are read back, trimmed.
- `hasCapability_iff`: a keyword is found exactly when an entry begins with it.
- `Offers`, `mem_tokensOf`: the words that an entry offers behind `AUTH`.
- `firsts_ordered`: names without repetition stand in the order of first mention.
- `announcements_read`: the three readers together.
-/
import Mathlib.Data.List.TakeWhile
import EnquiryMail.Proofs.Mail.Word
import EnquiryMail.Proofs.Text.Words
import EnquiryMail.Smtp.Capability

namespace EnquiryMail.Smtp

open EnquiryMail.Text

variable {capability keyword : String} {capabilities names : List String}

/-! ## Lines -/

/-- texts as the lines of one reply with code 250 -/
def spell : List String → List String
  | [] => []
  | [text] => ["250 " ++ text]
  | text :: rest => ("250-" ++ text) :: spell rest

/-- a line of such a reply, whatever follows it -/
theorem exists_spell (text : String) (rest : List String) :
    ∃ (line : String) (sep : Char), spell (text :: rest) = line :: spell rest ∧ unitSize sep = 1 ∧
      line.toList = '2' :: '5' :: '0' :: sep :: text.toList := by
  cases rest with
  | nil => exact ⟨"250 " ++ text, ' ', rfl, rfl, by simp⟩
  | cons next rest => exact ⟨"250-" ++ text, '-', rfl, rfl, by simp⟩

section Coded

variable {sep : Char} (hsep : unitSize sep = 1) (cs : List Char)

theorem unitSize_digits : unitSize '2' = 1 ∧ unitSize '5' = 1 ∧ unitSize '0' = 1 := ⟨rfl, rfl, rfl⟩

theorem units_coded : 3 ≤ units ('2' :: '5' :: '0' :: sep :: cs) := by
  simp only [units, unitSize_digits]
  omega

include hsep in
theorem takeUnits_coded : takeUnits 3 ('2' :: '5' :: '0' :: sep :: cs) = ['2', '5', '0'] := by
  simp [takeUnits, unitSize_digits, hsep]

include hsep in
theorem dropUnits_coded : dropUnits 4 ('2' :: '5' :: '0' :: sep :: cs) = cs := by
  simp only [dropUnits, unitSize_digits, hsep]
  cases cs <;> rfl

end Coded

theorem texts_spell (texts : List String) :
    (spell texts).map (fun line => String.ofList (trim (dropUnits 4 line.toList))) = texts.map trimmed := by
  induction texts with
  | nil => rfl
  | cons text rest ih =>
    obtain ⟨line, sep, hspell, hsep, hline⟩ := exists_spell text rest
    rw [hspell, List.map_cons, ih, hline, dropUnits_coded hsep]
    rfl

/-- **Capabilities written as lines are read back**, trimmed, and without the empty ones. -/
theorem capabilities_spell (server : String) (capabilities : List String) :
    (Reply.ofLines (spell (server :: capabilities))).capabilities = (capabilities.map trimmed).filter (· ≠ "") := by
  obtain ⟨line, sep, hspell, hsep, hline⟩ := exists_spell server capabilities
  have hcode : (Reply.ofLines (spell (server :: capabilities))).code = "250" := by
    rw [Reply.ofLines, hspell]
    simp only [List.headD_cons, hline, takeUnits_coded hsep, units_coded, if_true]
  have hlines : (Reply.ofLines (spell (server :: capabilities))).lines = line :: spell capabilities := hspell
  rw [Reply.capabilities, if_pos hcode, hlines, List.drop_one, List.tail_cons, texts_spell]

/-! ## Keywords -/

/-- a keyword stands in front of the first blank or equals sign of a capability, or is all of it -/
def Begins (capability : String) (name : List Char) : Prop :=
  ∃ rest, capability.toList = name ++ rest ∧ (∀ c ∈ name, endsKeyword c = false) ∧
    ∀ c, rest.head? = some c → endsKeyword c = true

theorem begins_iff {name : List Char} : Begins capability name ↔ keywordOf capability = name := by
  constructor
  · rintro ⟨rest, hcapability, hname, hrest⟩
    have hstop : rest.takeWhile (fun c => !endsKeyword c) = [] := by
      cases rest with
      | nil => rfl
      | cons c rest => rw [List.takeWhile_cons, hrest c rfl]; rfl
    rw [keywordOf, hcapability, List.takeWhile_append_of_pos (by simpa using hname), hstop, List.append_nil]
  · rintro rfl
    refine ⟨capability.toList.dropWhile fun c => !endsKeyword c, List.takeWhile_append_dropWhile.symm, ?_, ?_⟩
    · intro c hc
      simpa using List.mem_takeWhile_imp hc
    · intro c hc
      have hhead := List.head?_dropWhile_not (fun c => !endsKeyword c) capability.toList
      rw [hc] at hhead
      simpa using hhead

/-- **A keyword is found** exactly when an entry begins with it, in any case. -/
theorem hasCapability_iff : hasCapability capabilities keyword = true ↔
    ∃ c ∈ capabilities, ∃ name, Begins c name ∧ upper name = upper keyword.toList := by
  simp [hasCapability, begins_iff]

/-! ## Mechanisms -/

/-- a text stands behind `AUTH`, in any case, and one blank or equals sign -/
def SignIn (capability : String) (rest : List Char) : Prop :=
  ∃ auth sep, capability.toList = auth ++ sep :: rest ∧ auth.map Char.toUpper = "AUTH".toList ∧ endsKeyword sep = true

/-- an entry offers a word that stands there -/
def Offers (capability : String) (token : List Char) : Prop := ∃ rest, SignIn capability rest ∧ StandsIn token rest

/-- an entry offers these words, in their order -/
inductive Lists (capability : String) : List (List Char) → Prop
  | words {rest : List Char} {tokens : List (List Char)} (h : SignIn capability rest) (htokens : Spaced tokens rest) :
    Lists capability tokens
  | none (h : ∀ rest, ¬SignIn capability rest) : Lists capability []

theorem authText?_eq_some (hline : ∀ c ∈ capability.toList, isLineEnd c = false) {rest : List Char} :
    authText? capability = some rest ↔ SignIn capability rest := by
  unfold authText? SignIn
  generalize capability.toList = cs at hline
  constructor
  · intro h
    split at h
    · rename_i a u t h' sep tail
      rw [Option.ite_none_right_eq_some] at h
      obtain ⟨⟨hauth, hsep, -⟩, hrest⟩ := h
      obtain rfl := Option.some.inj hrest
      exact ⟨[a, u, t, h'], sep, rfl, hauth, hsep⟩
    · cases h
  · rintro ⟨auth, sep, rfl, hauth, hsep⟩
    have hlength : auth.length = 4 := by simpa using congrArg List.length hauth
    obtain ⟨a, u, t, h', rfl⟩ := List.length_eq_four.1 hlength
    have hnone : rest.any isLineEnd = false := by
      rw [List.any_eq_false]
      intro c hc
      simp [hline c (by simp [hc])]
    simp only [List.cons_append, List.nil_append]
    rw [if_pos ⟨hauth, hsep, by rw [hnone]; rfl⟩]

/-- the words that an entry is read to offer -/
def tokensOf (capability : String) : List (List Char) := (authText? capability).elim [] words

theorem lists_tokensOf (hline : ∀ c ∈ capability.toList, isLineEnd c = false) :
    Lists capability (tokensOf capability) := by
  unfold tokensOf
  cases htext : authText? capability with
  | none =>
    refine .none fun rest hrest => ?_
    rw [(authText?_eq_some hline).2 hrest] at htext
    cases htext
  | some rest => exact .words ((authText?_eq_some hline).1 htext) (spaced_words rest)

theorem mem_tokensOf (hline : ∀ c ∈ capability.toList, isLineEnd c = false) {token : List Char} :
    token ∈ tokensOf capability ↔ Offers capability token := by
  constructor
  · intro htoken
    unfold tokensOf at htoken
    cases htext : authText? capability with
    | none => rw [htext] at htoken; cases htoken
    | some rest =>
      rw [htext] at htoken
      exact ⟨rest, (authText?_eq_some hline).1 htext, mem_words.1 htoken⟩
  · rintro ⟨rest, hrest, hstands⟩
    rw [tokensOf, (authText?_eq_some hline).2 hrest]
    exact mem_words.2 hstands

/-- the name of the mechanism that a word offers -/
def mechanismOf (token : List Char) : String := String.ofList (upper token)

/-! ## First mentions -/

/-- names without repetition, each in the place of its first mention -/
def firsts (names : List String) : List String := names.foldl addNew []

theorem firsts_concat (names : List String) (name : String) : firsts (names ++ [name]) = addNew (firsts names) name := by
  rw [firsts, List.foldl_append]
  rfl

theorem addNew_of_mem {name : String} (h : name ∈ names) : addNew names name = names :=
  if_pos (List.contains_iff_mem.2 h)

theorem addNew_of_not_mem {name : String} (h : name ∉ names) : addNew names name = names ++ [name] :=
  if_neg fun hmem => h (List.contains_iff_mem.1 hmem)

theorem mem_firsts {name : String} : name ∈ firsts names ↔ name ∈ names := by
  induction names using List.reverseRecOn with
  | nil => rfl
  | append_singleton names other ih =>
    rw [firsts_concat, List.mem_append, List.mem_singleton, ← ih]
    by_cases hother : other ∈ firsts names
    · rw [addNew_of_mem hother]
      exact ⟨.inl, fun h => h.elim id fun hname => hname ▸ hother⟩
    · rw [addNew_of_not_mem hother, List.mem_append, List.mem_singleton]

/-- **Names without repetition** stand in the order of first mention. -/
theorem firsts_ordered (names : List String) :
    (firsts names).Pairwise fun a b => names.idxOf a < names.idxOf b := by
  induction names using List.reverseRecOn with
  | nil => exact .nil
  | append_singleton names other ih =>
    -- what has been mentioned keeps its place
    have hplace : ∀ a ∈ firsts names, (names ++ [other]).idxOf a = names.idxOf a :=
      fun a ha => List.idxOf_append_of_mem (mem_firsts.1 ha)
    have hbefore : (firsts names).Pairwise fun a b => (names ++ [other]).idxOf a < (names ++ [other]).idxOf b := by
      refine ih.imp_of_mem ?_
      intro a b ha hb hlt
      rwa [hplace a ha, hplace b hb]
    rw [firsts_concat]
    by_cases hother : other ∈ firsts names
    · rwa [addNew_of_mem hother]
    · have hnew : other ∉ names := fun hmem => hother (mem_firsts.2 hmem)
      rw [addNew_of_not_mem hother, List.pairwise_append]
      refine ⟨hbefore, List.pairwise_singleton _ _, ?_⟩
      intro a ha b hb
      rw [List.mem_singleton.1 hb, hplace a ha, List.idxOf_append_of_notMem hnew]
      exact (List.idxOf_lt_length_of_mem (mem_firsts.1 ha)).trans_le (Nat.le_add_right _ _)

theorem nodup_firsts (names : List String) : (firsts names).Nodup := by
  refine (firsts_ordered names).imp ?_
  rintro a b hlt rfl
  exact lt_irrefl _ hlt

/-! ## The keyword of the mechanisms -/

/-- among the first 128 characters the upper case is that of the letters from `a` to `z` -/
theorem upperOf_of_toUpper {c : Char} (h : c.toUpper.toNat < 128) : upperOf c = [c.toUpper] := by
  by_cases hc : 'a'.val ≤ c.val ∧ c.val ≤ 'z'.val
  · have hlow : 97 ≤ c.toNat := UInt32.le_iff_toNat_le.1 hc.1
    have hhigh : c.toNat ≤ 122 := UInt32.le_iff_toNat_le.1 hc.2
    have hup : c.toUpper.toNat = c.toNat - 32 := by
      unfold Char.toUpper
      rw [dif_pos hc]
      show (c.val + ('A'.val - 'a'.val)).toNat = c.toNat - 32
      rw [UInt32.toNat_add]
      show (c.toNat + 4294967264) % 4294967296 = c.toNat - 32
      omega
    rw [upperOf]
    simp only [show c.toNat < 128 by omega, if_true, hlow, hhigh, and_self]
    rw [← hup, Char.ofNat_toNat]
  · have hsame : c.toUpper = c := dif_neg hc
    have hnot : ¬(97 ≤ c.toNat ∧ c.toNat ≤ 122) := fun h =>
      hc ⟨UInt32.le_iff_toNat_le.2 h.1, UInt32.le_iff_toNat_le.2 h.2⟩
    rw [hsame] at h ⊢
    rw [upperOf]
    simp only [h, hnot, if_true, if_false]

theorem upper_of_toUpper {cs : List Char} (h : ∀ c ∈ cs, c.toUpper.toNat < 128) : upper cs = cs.map Char.toUpper := by
  induction cs with
  | nil => rfl
  | cons c cs ih =>
    rw [List.forall_mem_cons] at h
    rw [upper, List.flatMap_cons, upperOf_of_toUpper h.1, List.map_cons, ← ih h.2]
    rfl

/-- an entry that offers a word begins with the keyword of the mechanisms -/
theorem Offers.hasCapability {token : List Char} (h : Offers capability token) (hmem : capability ∈ capabilities) :
    hasCapability capabilities "AUTH" = true := by
  obtain ⟨rest, ⟨auth, sep, hsplit, hauth, hsep⟩, -⟩ := h
  have hletter : ∀ c ∈ auth, c.toUpper ∈ "AUTH".toList := by
    intro c hc
    rw [← hauth]
    exact List.mem_map_of_mem hc
  have hkeyword : ∀ d ∈ "AUTH".toList, d.toNat < 128 ∧ isBlank d = false ∧ d ≠ '=' := by
    have hall : "AUTH".toList.all (fun d => d.toNat < 128 ∧ isBlank d = false ∧ d ≠ '=') = true := by decide
    simpa only [List.all_eq_true, decide_eq_true_eq] using hall
  have hbegins : Begins capability auth := by
    refine ⟨sep :: rest, hsplit, ?_, fun c hc => Option.some.inj hc ▸ hsep⟩
    intro c hc
    obtain ⟨-, hblank, hequals⟩ := hkeyword _ (hletter c hc)
    rw [endsKeyword, Mail.isBlank_of_toUpper hblank, Bool.false_or, beq_eq_false_iff_ne]
    rintro rfl
    exact hequals rfl
  have hupper : upper auth = upper "AUTH".toList := by
    rw [upper_of_toUpper fun c hc => (hkeyword _ (hletter c hc)).1, hauth]
    decide
  exact hasCapability_iff.2 ⟨capability, hmem, auth, hbegins, hupper⟩

/-! ## The readers together -/

/-- what the mechanisms read from some capabilities are -/
structure Collected (capabilities mechanisms : List String) : Prop where
  /-- none stands twice, -/
  once : mechanisms.Nodup
  /-- they stand in the order in which the entries offer them first, -/
  ordered : ∃ offers, List.Forall₂ Lists capabilities offers ∧
    mechanisms.Pairwise fun a b => (offers.flatten.map mechanismOf).idxOf a < (offers.flatten.map mechanismOf).idxOf b
  /-- they are the upper-case forms of the words that an entry offers, -/
  offered : ∀ m, m ∈ mechanisms ↔ ∃ c ∈ capabilities, ∃ token, Offers c token ∧ m = mechanismOf token
  /-- and if there are any, their keyword is found -/
  keyword : mechanisms ≠ [] → hasCapability capabilities "AUTH" = true

theorem collected_authMechanisms (hlines : ∀ c ∈ capabilities, ∀ d ∈ c.toList, isLineEnd d = false) :
    Collected capabilities (authMechanisms capabilities) := by
  have hfirsts : authMechanisms capabilities = firsts ((capabilities.map tokensOf).flatten.map mechanismOf) := rfl
  have hoffered : ∀ m, m ∈ authMechanisms capabilities ↔
      ∃ c ∈ capabilities, ∃ token, Offers c token ∧ m = mechanismOf token := by
    intro m
    simp only [hfirsts, mem_firsts, List.mem_map, List.mem_flatten, exists_exists_and_eq_and]
    constructor
    · rintro ⟨token, ⟨c, hc, htoken⟩, rfl⟩
      exact ⟨c, hc, token, (mem_tokensOf (hlines c hc)).1 htoken, rfl⟩
    · rintro ⟨c, hc, token, htoken, rfl⟩
      exact ⟨token, ⟨c, hc, (mem_tokensOf (hlines c hc)).2 htoken⟩, rfl⟩
  refine ⟨nodup_firsts _, ⟨capabilities.map tokensOf, ?_, firsts_ordered _⟩, hoffered, ?_⟩
  · rw [List.forall₂_map_right_iff, List.forall₂_same]
    exact fun c hc => lists_tokensOf (hlines c hc)
  · intro hne
    obtain ⟨m, hm⟩ := List.exists_mem_of_ne_nil _ hne
    obtain ⟨c, hc, token, hoffers, -⟩ := (hoffered m).1 hm
    exact hoffers.hasCapability hc

/-- **What is read of an announcement**: the capabilities that were written, each keyword exactly if an entry begins with
it, and the mechanisms that the entries offer. -/
theorem announcements_read :
    (∀ server capabilities, (∀ c ∈ capabilities, c ≠ "" ∧ trimmed c = c) →
      (Reply.ofLines (spell (server :: capabilities))).capabilities = capabilities) ∧
    (∀ capabilities keyword, hasCapability capabilities keyword = true ↔
      ∃ c ∈ capabilities, ∃ name, Begins c name ∧ upper name = upper keyword.toList) ∧
    ∀ capabilities, (∀ c ∈ capabilities, ∀ d ∈ c.toList, isLineEnd d = false) →
      Collected capabilities (authMechanisms capabilities) := by
  refine ⟨?_, fun _ _ => hasCapability_iff, fun _ => collected_authMechanisms⟩
  intro server capabilities hcapabilities
  have htrimmed : capabilities.map trimmed = capabilities :=
    (List.map_congr_left fun c hc => (hcapabilities c hc).2).trans (List.map_id' capabilities)
  rw [capabilities_spell, htrimmed, List.filter_eq_self]
  intro c hc
  exact decide_eq_true (hcapabilities c hc).1

/-- a relay that names its mechanisms in both forms, one of them twice and in lower case -/
theorem announcements_read_both_forms :
    let capabilities := ["PIPELINING", "AUTH=LOGIN", "auth PLAIN  login"]
    ((∀ c ∈ capabilities, c ≠ "" ∧ trimmed c = c) ∧ ∀ c ∈ capabilities, ∀ d ∈ c.toList, isLineEnd d = false) ∧
      (Reply.ofLines (spell ("relay.test Hello" :: capabilities))).capabilities = capabilities ∧
      authMechanisms capabilities = ["LOGIN", "PLAIN"] ∧ Collected capabilities (authMechanisms capabilities) ∧
      (hasCapability capabilities "AUTH" = true ↔
        ∃ c ∈ capabilities, ∃ name, Begins c name ∧ upper name = upper "AUTH".toList) := by
  intro capabilities
  have htrimmed : ∀ c ∈ capabilities, c ≠ "" ∧ trimmed c = c := by decide +kernel
  have hnone : ∀ c ∈ capabilities, c.toList.any isLineEnd = false := by decide +kernel
  have hlines : ∀ c ∈ capabilities, ∀ d ∈ c.toList, isLineEnd d = false := by
    simpa only [List.any_eq_false, Bool.not_eq_true] using hnone
  exact ⟨⟨htrimmed, hlines⟩, announcements_read.1 _ _ htrimmed, by decide +kernel,
    announcements_read.2.2 _ hlines, announcements_read.2.1 _ _⟩

end EnquiryMail.Smtp
