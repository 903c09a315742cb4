/-
The characters of an address. An address has a local part, an at sign and a domain, so it is never blank, has no
character that a command or a header field could not take, and has something behind its last at sign.

- `isAddress_parts`: the two parts of an address.
- `addressProblems_of_isAddress`: an address has no problem in a message, in either role.
- `isBlankText_of_isAddress`, `unbroken_of_isAddress`, `not_endsInAt`: it is not blank, is one line, and does not end
  in its at sign.
-/
import EnquiryMail.Mail.Address
import EnquiryMail.Proofs.Mail.Unbroken

namespace EnquiryMail.Mail

open EnquiryMail.Text

/-! ## Parts -/

/-- a character stands between separators, unless it is one -/
theorem mem_splitOn (sep : Char) {c : Char} {cs : List Char} (h : c ∈ cs) : c = sep ∨ ∃ w ∈ splitOn sep cs, c ∈ w := by
  induction cs with
  | nil => cases h
  | cons d cs ih =>
    rw [splitOn]
    by_cases hsep : d = sep
    · rw [if_pos (by simpa using hsep)]
      rcases List.mem_cons.1 h with rfl | h
      · exact .inl hsep
      · rcases ih h with rfl | ⟨w, hw, hc⟩
        · exact .inl rfl
        · exact .inr ⟨w, List.mem_cons_of_mem _ hw, hc⟩
    · rw [if_neg (by simpa using hsep)]
      cases hpieces : splitOn sep cs with
      | nil => exact absurd hpieces (splitOn_ne_nil sep cs)
      | cons w ws =>
        rw [hpieces] at ih
        rcases List.mem_cons.1 h with rfl | h
        · exact .inr ⟨c :: w, List.mem_cons_self, List.mem_cons_self⟩
        rcases ih h with rfl | ⟨v, hv, hc⟩
        · exact .inl rfl
        rcases List.mem_cons.1 hv with rfl | hv
        · exact .inr ⟨d :: v, List.mem_cons_self, List.mem_cons_of_mem _ hc⟩
        · exact .inr ⟨v, List.mem_cons_of_mem _ hv, hc⟩

/-- the parts of an address -/
theorem isAddress_parts {address : String} (h : isAddress address = true) :
    ∃ part domain, address.toList = part ++ '@' :: domain ∧ isLocalPart part = true ∧ isDomain domain = true := by
  unfold isAddress at h
  dsimp only at h
  split at h
  · cases h
  · rename_i c domain hdrop
    simp only [Bool.and_eq_true] at h
    obtain ⟨⟨hpart, hdomain⟩, -⟩ := h
    have hsplit := List.takeWhile_append_dropWhile (p := (· != '@')) (l := address.toList)
    have hrest : address.toList.dropWhile (· != '@') = c :: domain := by
      have hleft : (address.toList.takeWhile (· != '@') ++ address.toList.dropWhile (· != '@')).drop
          (address.toList.takeWhile (· != '@')).length = address.toList.dropWhile (· != '@') := List.drop_left
      rw [hsplit, hdrop] at hleft
      exact hleft.symm
    have hat : c = '@' := by
      have hhead := List.head?_dropWhile_not (· != '@') address.toList
      simpa [hrest] using hhead
    rw [hrest, hat] at hsplit
    exact ⟨_, domain, hsplit.symm, hpart, hdomain⟩

/-- a letter, a digit, a hyphen or a dot -/
def isDomainChar (c : Char) : Bool := isAlnum c || c == '-' || c == '.'

theorem isDomainChar_of_isAlnum {c : Char} (h : isAlnum c = true) : isDomainChar c = true := by
  simp [isDomainChar, h]

theorem isDomain_ne_nil {domain : List Char} (h : isDomain domain = true) : domain ≠ [] := by
  rintro rfl
  revert h
  decide

/-- the characters of a domain -/
theorem isDomainChar_of_mem {domain : List Char} (h : isDomain domain = true) {c : Char} (hc : c ∈ domain) :
    isDomainChar c = true := by
  simp only [isDomain, Bool.and_eq_true, List.all_eq_true] at h
  obtain ⟨⟨-, hlabels⟩, htop⟩ := h
  rcases mem_splitOn '.' hc with rfl | ⟨label, hlabel, hc⟩
  · rfl
  have hne : splitOn '.' domain ≠ [] := splitOn_ne_nil '.' domain
  rw [← List.dropLast_append_getLast hne, List.mem_append, List.mem_singleton] at hlabel
  rcases hlabel with hlabel | rfl
  · have hvalid := hlabels label hlabel
    cases label with
    | nil => cases hc
    | cons d ds =>
      simp only [isLabel, Bool.and_eq_true, List.all_eq_true] at hvalid
      obtain ⟨hd, hds⟩ := hvalid
      rcases List.mem_cons.1 hc with rfl | hc
      · exact isDomainChar_of_isAlnum hd
      · have halnum := hds c hc
        simp only [isDomainChar]
        rw [halnum]
        rfl
  · rw [List.getLast?_eq_getLast_of_ne_nil hne, Option.getD_some] at htop
    simp only [isTopLabel, Bool.and_eq_true, List.all_eq_true] at htop
    refine isDomainChar_of_isAlnum ?_
    simp only [isAlnum, Char.isAlphanum, htop.2 c hc, Bool.true_or]

/-! ## Characters -/

/-- a character that an address may have -/
def isAddressChar (c : Char) : Bool := isLocalChar c || c == '@'

theorem isAddressChar_of_mem {address : String} (h : isAddress address = true) {c : Char} (hc : c ∈ address.toList) :
    isAddressChar c = true := by
  obtain ⟨part, domain, hsplit, hpart, hdomain⟩ := isAddress_parts h
  rw [hsplit] at hc
  rcases List.mem_append.1 hc with hc | hc
  · simp only [isLocalPart, Bool.and_eq_true, List.all_eq_true] at hpart
    simp only [isAddressChar, hpart.1.1 c hc, Bool.true_or]
  rcases List.mem_cons.1 hc with rfl | hc
  · rfl
  · have hchar := isDomainChar_of_mem hdomain hc
    simp only [isDomainChar, Bool.or_eq_true, beq_iff_eq] at hchar
    rcases hchar with (halnum | rfl) | rfl
    · simp only [isAddressChar, isLocalChar, halnum, Bool.true_or]
    · rfl
    · rfl

theorem isForbidden_of_isAddressChar {c : Char} (h : isAddressChar c = true) : isForbidden c = false := by
  by_contra hno
  simp only [isForbidden, isBreak, Bool.not_eq_false, Bool.or_eq_true, beq_iff_eq] at hno
  rcases hno with ((rfl | rfl) | rfl) | rfl <;> revert h <;> decide

/-- an address is written between the apostrophe and the letter z -/
theorem toNat_of_isAddressChar {c : Char} (h : isAddressChar c = true) : 0x27 ≤ c.toNat ∧ c.toNat ≤ 0x7A := by
  have hrange : ∀ {a b : Char}, 0x27 ≤ a.toNat → b.toNat ≤ 0x7A → a ≤ c ∧ c ≤ b → 0x27 ≤ c.toNat ∧ c.toNat ≤ 0x7A :=
    fun ha hb hin => ⟨ha.trans (UInt32.le_iff_toNat_le.1 hin.1), (UInt32.le_iff_toNat_le.1 hin.2).trans hb⟩
  simp only [isAddressChar, isLocalChar, isAlnum, Bool.or_eq_true, beq_iff_eq] at h
  rcases h with (((((halnum | rfl) | hquote) | rfl) | rfl) | rfl) | rfl
  · rcases range_of_isAlphanum halnum with hupper | hlower | hdigit
    · exact hrange (by decide : 0x27 ≤ 'A'.toNat) (by decide : 'Z'.toNat ≤ 0x7A) hupper
    · exact hrange (by decide : 0x27 ≤ 'a'.toNat) (by decide : 'z'.toNat ≤ 0x7A) hlower
    · exact hrange (by decide : 0x27 ≤ '0'.toNat) (by decide : '9'.toNat ≤ 0x7A) hdigit
  · decide
  · omega
  · decide
  · decide
  · decide
  · decide

theorem isBlank_of_isAddressChar {c : Char} (h : isAddressChar c = true) : isBlank c = false := by
  obtain ⟨hlow, hhigh⟩ := toNat_of_isAddressChar h
  simp only [isBlank, Bool.or_eq_false_iff, Bool.and_eq_false_iff, decide_eq_false_iff_not, beq_eq_false_iff_ne]
  omega

theorem isBlankText_of_isAddress {address : String} (h : isAddress address = true) : isBlankText address = false := by
  obtain ⟨part, domain, hsplit, -⟩ := isAddress_parts h
  have hat : '@' ∈ address.toList := by simp [hsplit]
  rw [isBlankText, List.all_eq_false]
  exact ⟨'@', hat, by decide⟩

theorem unbroken_of_isAddress {address : String} (h : isAddress address = true) : Unbroken address.toList := by
  intro c hc
  have hallowed := isForbidden_of_isAddressChar (isAddressChar_of_mem h hc)
  simp only [isForbidden, Bool.or_eq_false_iff] at hallowed
  exact hallowed.1.1

/-- **An address can be sent to.** It has no problem in a message. -/
theorem addressProblems_of_isAddress (role : AddressRole) {address : String} (h : isAddress address = true) :
    addressProblems role address = [] := by
  have hallowed : address.toList.any isForbidden = false := by
    rw [List.any_eq_false]
    intro c hc
    simp [isForbidden_of_isAddressChar (isAddressChar_of_mem h hc)]
  rw [addressProblems, isBlankText_of_isAddress h, hallowed]
  rfl

/-- an at sign stands last, behind something -/
def EndsInAt (s : String) : Prop := ∃ front, front ≠ [] ∧ s.toList = front ++ ['@']

theorem not_endsInAt {address : String} (h : isAddress address = true) : ¬ EndsInAt address := by
  rintro ⟨front, -, hfront⟩
  obtain ⟨part, domain, hsplit, -, hdomain⟩ := isAddress_parts h
  have hlast : (part ++ '@' :: domain).getLast? = some '@' := by
    rw [← hsplit, hfront, List.getLast?_concat]
  rw [List.getLast?_append_cons, List.getLast?_cons_of_ne_nil (isDomain_ne_nil hdomain)] at hlast
  have hat := isDomainChar_of_mem hdomain (List.mem_of_getLast? hlast)
  revert hat
  decide

end EnquiryMail.Mail
