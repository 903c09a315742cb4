/-
The enquiry service: a submission becomes one mail to each recipient. A filled hidden field is answered as if all had
gone well; timing and field problems come back together and nothing is sent; otherwise every recipient is tried in
order, whatever became of the others. Visitors get one text when a delivery fails.

How mail is sent is left to a courier, so the service runs over a network and over anything standing in for it.
-/
import EnquiryMail.Enquiry.Body
import EnquiryMail.Enquiry.Guard
import EnquiryMail.Enquiry.Settings
import EnquiryMail.Log.Entry
import EnquiryMail.Net.Network
import EnquiryMail.Smtp.Session

namespace EnquiryMail.Enquiry

open Mail (Message)

/-- an error that a sender throws instead of giving a result -/
structure Thrown where
  message : String
  /-- a status that it carries -/
  status : Option Number
  deriving DecidableEq, Inhabited

/-- the result of sending one mail -/
abbrev SendResult := Except Smtp.Failure Smtp.Receipt

/-- how mail is sent over a state, and the surroundings that the state holds -/
structure Courier (σ : Type) where
  send : Message → σ → Except Thrown SendResult × σ
  world : σ → World
  update : (World → World) → σ → σ

/-- takes down a log call -/
def Courier.log {σ : Type} (courier : Courier σ) (c : Log.Call) (st : σ) : σ := courier.update (·.log c) st

/-- makes an identifier -/
def Courier.fresh {σ : Type} (courier : Courier σ) (st : σ) : String × σ :=
  ((courier.world st).fresh.1, courier.update (fun w => w.fresh.2) st)

/-- a mail that was not delivered -/
structure Undelivered where
  recipient : String
  failure : Smtp.Failure
  deriving DecidableEq, Repr

/-- what becomes of a submission -/
inductive Outcome
  | sent (delivered : List String)
  | discarded
  | rejected (problems : List Problem)
  | failed (message : String) (failures : List Undelivered)
  deriving DecidableEq, Repr

/-- the component of the service's log calls -/
def component : String := "enquiry"

/-- what a visitor reads when a delivery fails -/
def unavailable (s : Settings) : String :=
  "Unable to send your message right now. Please email " ++ s.fallbackAddress ++ " directly."

/-- the mail of an enquiry to one recipient -/
def mailTo (s : Settings) (e : Enquiry) (recipient : String) : Message :=
  { recipient, subject := s.subject, body := body e s.siteName, replyTo := e.email }

/-- sends the mail of an enquiry to recipients in order; whatever is thrown ends it -/
def deliver {σ : Type} (courier : Courier σ) (s : Settings) (e : Enquiry) :
    List String → σ → Except Thrown (List String × List Undelivered) × σ
  | [], st => (.ok ([], []), st)
  | recipient :: rest, st =>
    match courier.send (mailTo s e recipient) st with
    | (.error thrown, st) => (.error thrown, st)
    | (.ok (.ok _), st) =>
      let (r, st) := deliver courier s e rest st
      (r.map fun (delivered, failures) => (recipient :: delivered, failures), st)
    | (.ok (.error failure), st) =>
      let st := courier.log (Log.call component .error
        ("Enquiry not delivered to " ++ recipient ++ ": " ++ failure.message)
        [("kind", .str failure.kind.name)]) st
      let (r, st) := deliver courier s e rest st
      (r.map fun (delivered, failures) => (delivered, ⟨recipient, failure⟩ :: failures), st)

/-- answers a posted document -/
def submit {σ : Type} (courier : Courier σ) (s : Settings) (input : Json) (st : σ) : Except Thrown Outcome × σ :=
  let submission := Submission.read input
  let verdict := guard submission s.minFillSeconds (some (courier.world st).now)
  if verdict.bot then
    (.ok .discarded, courier.log (Log.call component .info "Honeypot field filled; enquiry discarded" []) st)
  else
    match verdict.problems ++ submission.problems with
    | [] =>
      match deliver courier s submission.enquiry s.recipients st with
      | (.error thrown, st) => (.error thrown, st)
      | (.ok (delivered, []), st) =>
        (.ok (.sent delivered), courier.log (Log.call component .info
          ("Enquiry from " ++ submission.company ++ " delivered") [("recipients", .nat delivered.length)]) st)
      | (.ok (_, failures), st) => (.ok (.failed (unavailable s) failures), st)
    | problems =>
      (.ok (.rejected problems), courier.log (Log.call component .debug "Enquiry rejected"
        [("errors", .nat problems.length)]) st)

/-! ## Couriers -/

/-- sends mail over a network of relays -/
def networkCourier (smtp : Smtp.Settings) : Courier Net.Network :=
  { send := fun m n =>
      let (r, n) := (Smtp.sendMail smtp m n.world.offset .clock).run (Net.Network.handle smtp) n
      (.ok r, n)
    world := (·.world)
    update := fun f n => { n with world := f n.world } }

/-- stands in for a sender: results given in advance, and the mails handed to it -/
structure Standin where
  world : World
  results : List (Except Thrown SendResult)
  /-- newest first -/
  mails : List Message

/-- what a stand-in answers when its results are used up -/
def Standin.accepted : SendResult := .ok ⟨"<m@example.com>", "250 2.0.0 Ok"⟩

/-- sends nothing -/
def standinCourier : Courier Standin :=
  { send := fun m s =>
      let s := { s with mails := m :: s.mails }
      match s.results with
      | [] => (.ok Standin.accepted, s)
      | r :: rest => (r, { s with results := rest })
    world := (·.world)
    update := fun f s => { s with world := f s.world } }

end EnquiryMail.Enquiry
