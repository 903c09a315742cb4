/-
What goes out for `AUTH LOGIN`. The two lines behind that command are base64 of the user name and of the password, as
far as a session comes, and a relay that decodes them has exactly their octets.

- `loginLines_handshake`: the lines behind `AUTH LOGIN` in a plan.
- `signsIn_sendMail`, `signsIn_verifyRelay`: the octets that a session sends there, over every channel.
- `encoded_texts_exact`: base64 in header fields and in a login gives back what was put into it.
-/
import EnquiryMail.Proofs.Mail.Word
import EnquiryMail.Proofs.Net.Discretion

namespace EnquiryMail.Smtp

open EnquiryMail.Text
open Mail (Message)
open Script (Handler transcript)

variable {α σ : Type}

/-! ## The lines of a login -/

/-- the command line that a request writes, if it writes one -/
def Request.line? : Request → Option String
  | .writeLine text _ => some text
  | _ => none

/-- the command lines of a transcript -/
def commandLines (tr : List Exchange) : List String := tr.filterMap (·.request.line?)

/-- the two lines behind `AUTH LOGIN` -/
def loginLines (lines : List String) : List String := ((lines.dropWhile (· != "AUTH LOGIN")).drop 1).take 2

/-- the octets that a run sends for `AUTH LOGIN`, as a relay reads them -/
def Script.logins (handle : Handler σ) (p : Script α) (st : σ) : List Utf8.Bytes :=
  (loginLines (commandLines (transcript handle p st))).map fun line => Base64.decode line.toList

/-- user name and password in octets -/
def Settings.credentials (s : Settings) : List Utf8.Bytes := [utf8 s.username, utf8 s.password]

theorem commandLines_uses (tr : List Exchange) : commandLines (uses tr) = commandLines tr := by
  refine filterMap_uses (fun e he => ?_) tr
  obtain ⟨r, x⟩ := e
  cases r <;> first | rfl | cases he

theorem commandLines_append (a b : List Exchange) : commandLines (a ++ b) = commandLines a ++ commandLines b :=
  List.filterMap_append ..

theorem prefix_dropWhile {p : α → Bool} {a b : List α} (h : a <+: b) : a.dropWhile p <+: b.dropWhile p := by
  obtain ⟨more, rfl⟩ := h
  rw [List.dropWhile_append]
  split
  · rename_i hnil
    rw [List.isEmpty_iff.1 hnil]
    exact List.nil_prefix
  · exact List.prefix_append _ _

theorem prefix_loginLines {a b : List String} (h : a <+: b) : loginLines a <+: loginLines b :=
  ((prefix_dropWhile h).drop 1).take 2

/-- the lines behind `AUTH LOGIN` in the plan of every session -/
theorem loginLines_handshake (s : Settings) (more : List String) :
    loginLines ((Plan.handshake s).filterMap (·.request.line?) ++ more) = s.secrets := by
  have hehlo : ("EHLO " ++ s.ehloDomain) ≠ "AUTH LOGIN" := by
    intro h
    have hhead := congrArg (fun t : String => t.toList.head?) h
    simp at hhead
  have hlines : (Plan.handshake s).filterMap (·.request.line?) ++ more = ("EHLO " ++ s.ehloDomain) ::
      "STARTTLS" :: ("EHLO " ++ s.ehloDomain) :: "AUTH LOGIN" :: base64 s.username :: base64 s.password :: more := rfl
  rw [hlines, loginLines]
  simp [hehlo, Settings.secrets]

/-! ## Sessions -/

theorem Keeps.commandLines {plan : List Stage} {us : List Exchange} {o : Option Failure} (h : Keeps plan us o) :
    commandLines us <+: plan.filterMap (·.request.line?) := by
  have hlines := h.requests_prefix.filterMap Request.line?
  rwa [List.filterMap_map, List.filterMap_map] at hlines

theorem Keeps.commandLines_all {plan : List Stage} {us : List Exchange} (h : Keeps plan us none) :
    Smtp.commandLines us = plan.filterMap (·.request.line?) := by
  have hlines := congrArg (List.filterMap Request.line?) h.requests_all
  rwa [List.filterMap_map, List.filterMap_map] at hlines

/-- the lines behind `AUTH LOGIN` are the secret ones, as far as it came, and both of them after a success -/
def LoginLines (s : Settings) (us : List Exchange) (out : Except Failure α) : Prop :=
  loginLines (commandLines us) <+: s.secrets ∧ ∀ a, out = .ok a → loginLines (commandLines us) = s.secrets

/-- what keeps to a plan that begins with the handshake -/
theorem Keeps.loginLines {s : Settings} {more : List Stage} {us : List Exchange} {f : Failure}
    (h : Keeps (Plan.handshake s ++ more) us (some f)) : LoginLines (α := α) s us (.error f) := by
  refine ⟨?_, fun a ha => nomatch ha⟩
  have hlines := prefix_loginLines h.commandLines
  rwa [List.filterMap_append, loginLines_handshake] at hlines

theorem Keeps.loginLines_all {s : Settings} {more : List Stage} {us vs : List Exchange} {out : Except Failure α}
    (h : Keeps (Plan.handshake s ++ more) us none) : LoginLines s (us ++ vs) out := by
  have hlines : Smtp.loginLines (Smtp.commandLines (us ++ vs)) = s.secrets := by
    rw [commandLines_append, h.commandLines_all, List.filterMap_append, List.append_assoc, loginLines_handshake]
  exact ⟨hlines ▸ List.prefix_rfl, fun a _ => hlines⟩

theorem Delivered.loginLines {s : Settings} {m : Message} {dating : Session.Dating}
    {composed : Option (String × String)} {us : List Exchange} {out : Except Failure Receipt}
    (h : Delivered s m dating composed us out) : LoginLines s us out := by
  have hkeeps := h.keeps
  rw [Plan.delivery_handshake] at hkeeps
  rcases hkeeps with ⟨f, hk, rfl⟩ | ⟨hk, -, rfl⟩ | ⟨ws, vs, id, payload, r, rfl, hk, -, -, -, rfl⟩
  · exact hk.loginLines
  · exact List.append_nil us ▸ hk.loginLines_all
  · exact hk.loginLines_all

theorem SignedIn.loginLines {s : Settings} {us : List Exchange} {out : Except Failure Acceptance}
    (h : SignedIn s us out) : LoginLines s us out := by
  cases h with
  | cut hk =>
    rw [← List.append_nil (Plan.handshake s)] at hk
    exact hk.loginLines
  | accepted hk ha hv =>
    rw [← List.append_nil (Plan.handshake s)] at hk
    exact hk.loginLines_all

theorem OverChannel.loginLines {s : Settings} {During : List Exchange → Except Failure α → Prop}
    (hduring : ∀ us out, During us out → LoginLines s us out) {us : List Exchange} {out : Except Failure α}
    (h : OverChannel During us out) : LoginLines s us out := by
  cases h with
  | refused m => exact ⟨List.nil_prefix, fun a ha => nomatch ha⟩
  | absent => exact ⟨List.nil_prefix, fun a ha => nomatch ha⟩
  | @closed us out h =>
    have hlines : commandLines (⟨.openChannel, .ready⟩ :: us ++ [⟨.close, ()⟩]) = commandLines us := by
      rw [List.cons_append, ← List.singleton_append, commandLines_append, commandLines_append]
      exact List.append_nil _
    rw [LoginLines, hlines]
    exact hduring us out h

/-- what a run sends for `AUTH LOGIN` are the octets of the credentials: as far as it comes, and all of them when it
succeeds -/
def SignsIn (handle : Handler σ) (st : σ) (s : Settings) (p : Script (Except Failure α)) : Prop :=
  p.logins handle st <+: s.credentials ∧ ∀ a, (p.run handle st).1 = .ok a → p.logins handle st = s.credentials

theorem decode_secrets (s : Settings) :
    (s.secrets.map fun line => Base64.decode line.toList) = s.credentials := by
  simp only [Settings.secrets, Settings.credentials, base64, List.map_cons, List.map_nil, String.toList_ofList,
    Base64.decode_encode]

theorem signsIn_of_loginLines {handle : Handler σ} {st : σ} {s : Settings} {p : Script (Except Failure α)}
    (h : LoginLines s (uses (transcript handle p st)) (p.run handle st).1) : SignsIn handle st s p := by
  rw [LoginLines, commandLines_uses] at h
  obtain ⟨hpart, hall⟩ := h
  rw [SignsIn, Script.logins, ← decode_secrets]
  refine ⟨hpart.map _, fun a ha => ?_⟩
  rw [hall a ha]

/-- a session that is refused before it begins writes nothing -/
theorem loginLines_refused {s : Settings} {us : List Exchange} {out : Except Failure α} {f : Failure} (hus : us = [])
    (hout : out = .error f) : LoginLines s us out := by
  subst hus hout
  exact ⟨List.nil_prefix, fun a ha => nomatch ha⟩

theorem signsIn_sendMail (handle : Handler σ) (st : σ) (s : Settings) (m : Message) (offset : Int)
    (dating : Session.Dating) : SignsIn handle st s (sendMail s m offset dating) := by
  refine signsIn_of_loginLines ?_
  rcases runs_sendMail (Script.runs_transcript handle (sendMail s m offset dating) st) with ⟨f, -, huses, hout⟩ | ⟨-, h⟩
  · exact loginLines_refused huses hout
  · exact h.loginLines fun us out hus => hus.loginLines

theorem signsIn_verifyRelay (handle : Handler σ) (st : σ) (s : Settings) : SignsIn handle st s (verifyRelay s) := by
  refine signsIn_of_loginLines ?_
  rcases runs_verifyRelay (Script.runs_transcript handle (verifyRelay s) st) with ⟨f, -, huses, hout⟩ | ⟨-, h⟩
  · exact loginLines_refused huses hout
  · exact h.loginLines fun us out hus => hus.loginLines

/-- **Texts in base64 come back exactly.** An encoded word is read as its text, whatever blanks have come around it and
in whatever case its markers are written; it is graphic ASCII, and the word of one text only. What a session sends for
`AUTH LOGIN`, over any channel, decodes to the octets of the user name and of the password. -/
theorem encoded_texts_exact :
    (∀ text : List Char,
      Mail.decodeWord? (Mail.encodeWord text) = some text ∧ (∀ c ∈ Mail.encodeWord text, Mail.Graphic c) ∧
      ∀ word, Mail.Respelt (Mail.encodeWord text) word → Mail.decodeWord? word = some text) ∧
    Function.Injective Mail.encodeWord ∧
    ∀ (σ : Type) (handle : Handler σ) (st : σ) (s : Settings),
      (∀ m offset dating, SignsIn handle st s (sendMail s m offset dating)) ∧ SignsIn handle st s (verifyRelay s) := by
  refine ⟨?_, Mail.encodeWord_injective, ?_⟩
  · intro text
    exact ⟨Mail.decodeWord?_encodeWord text, Mail.graphic_encodeWord text, fun word => Mail.decodeWord?_respelt⟩
  · intro σ handle st s
    exact ⟨fun m offset dating => signsIn_sendMail handle st s m offset dating, signsIn_verifyRelay handle st s⟩

end EnquiryMail.Smtp
