/-
Messages as they are sent: nine header fields, an empty line, the body with its dots doubled, and the lone dot that
closes the payload. The subject always goes out as an encoded word; the display name of the sender only when it has
characters outside printable ASCII.

`payload_eq`: a payload is headers, stuffed body and end mark.
-/
import EnquiryMail.Mail.EncodedWord
import EnquiryMail.Mail.Lines
import EnquiryMail.Mail.Message
import EnquiryMail.Time.Stamp

namespace EnquiryMail.Mail

/-- a character between the blank and the tilde -/
def isPrintable (c : Char) : Bool := 0x20 ≤ c.toNat && c.toNat ≤ 0x7E

/-- the From field: the address alone, or behind its display name in angle brackets -/
def fromField (name address : String) : String :=
  if name = "" then address
  else
    let shown := if name.toList.all isPrintable then name else String.ofList (encodeWord name.toList)
    shown ++ " <" ++ address ++ ">"

/-- the message id of a number and a domain -/
def messageId (uuid domain : String) : String := "<" ++ uuid ++ "@" ++ domain ++ ">"

/-- what the header of a message needs beside the message -/
structure Envelope where
  date : String
  sender : String
  id : String
  deriving DecidableEq, Repr, Inhabited

/-- names and values of the header fields, in order -/
def headerFields (e : Envelope) (m : Message) : List (String × String) :=
  [("Date", e.date), ("From", e.sender), ("Reply-To", m.replyTo), ("To", m.recipient),
    ("Subject", String.ofList (encodeWord m.subject.toList)), ("Message-ID", e.id), ("MIME-Version", "1.0"),
    ("Content-Type", "text/plain; charset=UTF-8"), ("Content-Transfer-Encoding", "8bit")]

/-- the header, up to and with the empty line -/
def header (e : Envelope) (m : Message) : String :=
  String.intercalate "\r\n" ((headerFields e m).map fun f => f.1 ++ ": " ++ f.2) ++ "\r\n\r\n"

/-- what is sent after DATA -/
def payload (e : Envelope) (m : Message) : String :=
  header e m ++ String.ofList (dotStuff m.body.toList) ++ String.ofList endOfData

theorem payload_eq (e : Envelope) (m : Message) :
    (payload e m).toList = (header e m).toList ++ dotStuff m.body.toList ++ endOfData := by
  simp [payload]

end EnquiryMail.Mail
