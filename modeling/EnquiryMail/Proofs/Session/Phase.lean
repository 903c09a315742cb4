/-
The phases of a session with regard to its secrets. An open channel is plain and takes two lines at most; from the
upgrade on nothing is written unless the channel says that it is encrypted.

- `secrecy_serves`: no session makes a use of its channel that is out of place, whatever is answered.
-/
import EnquiryMail.Proofs.Session.Protocol

namespace EnquiryMail.Smtp

open Mail (Message)

/-- where a session stands with its channel -/
inductive Phase
  | unopened
  /-- the channel is plain, and these lines may still be written -/
  | plain (left : List String)
  /-- the upgrade was asked for, or a line was not written -/
  | halted
  /-- the channel says that it is encrypted -/
  | sealed
  | closed

/-- the lines that are written before the upgrade -/
def openingLines (s : Settings) : List String := ["EHLO " ++ s.ehloDomain, "STARTTLS"]

namespace Phase

/-- the phase behind a request and its answer; none when the request is out of place -/
def after (s : Settings) : Phase → Exchange → Option Phase
  | φ, ⟨.log _, _⟩ => some φ
  | φ, ⟨.clock, _⟩ => some φ
  | φ, ⟨.freshId, _⟩ => some φ
  | .unopened, ⟨.openChannel, _⟩ => some (.plain (openingLines s))
  | .plain left, ⟨.read, _⟩ => some (.plain left)
  | .plain (line :: left), ⟨.writeLine text _, (x : Except String Unit)⟩ =>
    if text = line then some (if x.isOk then .plain left else .halted) else none
  | .plain _, ⟨.startTls, _⟩ => some .halted
  | .halted, ⟨.isSecure, (secure : Bool)⟩ => some (if secure then .sealed else .halted)
  | .sealed, ⟨.read, _⟩ => some .sealed
  | .sealed, ⟨.writeLine _ _, _⟩ => some .sealed
  | .sealed, ⟨.writeRaw _, _⟩ => some .sealed
  | .plain _, ⟨.close, _⟩ => some .closed
  | .halted, ⟨.close, _⟩ => some .closed
  | .sealed, ⟨.close, _⟩ => some .closed
  | _, _ => none

/-- the channel is open -/
def isOpen : Phase → Bool
  | .plain _ | .halted | .sealed => true
  | _ => false

/-- what goes to the surroundings is always in place -/
theorem after_of_not_channel (s : Settings) (φ : Phase) (e : Exchange) (h : e.request.ofChannel = false) :
    after s φ e = some φ := by
  obtain ⟨r, x⟩ := e
  cases r <;> first | rfl | cases h

/-- the protocol that keeps secrets -/
def secrecy (s : Settings) : Protocol Phase := ⟨after s, isOpen, after_of_not_channel s⟩

variable {s : Settings} {χ : Phase}

theorem reaches_line {line : String} {secret : Bool} {left : List String} {plan : List Stage}
    (h : (secrecy s).Reaches (.plain left) plan χ) :
    (secrecy s).Reaches (.plain (line :: left)) (.line line secret :: plan) χ := by
  refine Protocol.reaches_cons ?_ ?_ h
  · rintro (m | u) f hx
    · exact ⟨.halted, if_pos rfl, rfl⟩
    · cases hx
  · rintro (m | u) hx
    · cases hx
    · exact if_pos rfl

theorem reaches_read {stage : Stage} (hr : stage.request = .read) {left : List String} {plan : List Stage}
    (h : (secrecy s).Reaches (.plain left) plan χ) : (secrecy s).Reaches (.plain left) (stage :: plan) χ := by
  obtain ⟨r, verdict⟩ := stage
  cases hr
  exact Protocol.reaches_cons (fun x f _ => ⟨_, rfl, rfl⟩) (fun x _ => rfl) h

theorem reaches_upgrade {left : List String} {plan : List Stage} (h : (secrecy s).Reaches .sealed plan χ) :
    (secrecy s).Reaches (.plain left) (.upgrade :: .encrypted :: plan) χ := by
  refine Protocol.reaches_cons (fun x f _ => ⟨.halted, rfl, rfl⟩) (fun x _ => rfl) ?_
  refine Protocol.reaches_cons ?_ ?_ h
  · rintro (_ | _) f hx
    · exact ⟨.halted, rfl, rfl⟩
    · cases hx
  · rintro (_ | _) hx
    · cases hx
    · rfl

/-- requests that read or write -/
def talks : Request → Bool
  | .read | .writeLine _ _ | .writeRaw _ => true
  | _ => false

theorem after_sealed (s : Settings) {r : Request} (x : r.Answer) (h : talks r = true) :
    after s .sealed ⟨r, x⟩ = some .sealed := by
  cases r <;> first | rfl | cases h

theorem reaches_sealed {plan : List Stage} (h : plan.all (talks ·.request) = true) :
    (secrecy s).Reaches .sealed plan .sealed := by
  induction plan with
  | nil => exact Protocol.reaches_nil rfl
  | cons stage plan ih =>
    obtain ⟨hstage, hplan⟩ := Bool.and_eq_true_iff.1 h
    exact Protocol.reaches_cons (fun x f _ => ⟨.sealed, after_sealed s x hstage, rfl⟩)
      (fun x _ => after_sealed s x hstage) (ih hplan)

theorem reaches_handshake (s : Settings) {more : List Stage} (hmore : more.all (talks ·.request) = true) :
    (secrecy s).Reaches (.plain (openingLines s)) (Plan.handshake s ++ more) .sealed := by
  refine reaches_read rfl (reaches_line (reaches_read rfl (reaches_line (reaches_read rfl (reaches_upgrade ?_)))))
  exact reaches_sealed hmore

/-- **Sessions follow the protocol that keeps secrets.** -/
theorem secrecy_serves (s : Settings) : (secrecy s).Serves s .unopened (.plain (openingLines s)) .sealed where
  opens x := ⟨_, rfl, fun _ => rfl⟩
  delivers m composed := by
    rw [Plan.delivery_handshake]
    refine reaches_handshake s ?_
    cases composed <;> rfl
  signsIn := by
    have h : (secrecy s).Reaches (.plain (openingLines s)) (Plan.handshake s ++ []) .sealed := reaches_handshake s rfl
    rwa [List.append_nil] at h
  leaves vs h := by cases h <;> exact ⟨.sealed, rfl, rfl⟩
  closes φ h := by cases φ <;> first | rfl | cases h

end Phase

end EnquiryMail.Smtp
