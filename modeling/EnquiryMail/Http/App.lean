/-
The HTTP interface of the enquiry form. Every response carries fixed security fields and the id of its request, which
a client may choose; a body that cannot be read is refused before anything else is looked at. Submissions are limited
per client, and only those that were sent count. One line is logged when a request has been answered. A request whose
target has no path gets a page and leaves no trace.
-/
import EnquiryMail.Enquiry.Service
import EnquiryMail.Http.Freshness
import EnquiryMail.Http.Limiter
import EnquiryMail.Http.Page
import EnquiryMail.Http.Posted
import EnquiryMail.Http.Target
import EnquiryMail.Json.Printer
import EnquiryMail.Time.Stamp

namespace EnquiryMail.Http

open Enquiry (Courier Outcome Thrown)

/-- what the interface is set up with -/
structure App where
  settings : Enquiry.Settings
  /-- proxies in front of it -/
  proxies : Number
  deriving Inhabited

/-- the component of the interface's log calls -/
def component : String := "api"

/-! ## Fields of every response -/

/-- the security fields -/
def securityFields : Headers :=
  [("cross-origin-opener-policy", "same-origin"),
    ("cross-origin-resource-policy", "same-origin"),
    ("origin-agent-cluster", "?1"),
    ("referrer-policy", "no-referrer"),
    ("strict-transport-security", "max-age=15552000; includeSubDomains"),
    ("x-content-type-options", "nosniff"),
    ("x-dns-prefetch-control", "off"),
    ("x-download-options", "noopen"),
    ("x-frame-options", "SAMEORIGIN"),
    ("x-permitted-cross-domain-policies", "none"),
    ("x-xss-protection", "0")]

/-- the field of the request id -/
def requestIdField : String := "x-request-id"

/-- an id that may be taken from a client: up to 64 letters, digits, underscores and hyphens -/
def isSafeId (id : String) : Bool :=
  let cs := id.toList
  cs != [] && cs.length ≤ 64 && cs.all fun c => c.isAlphanum || c == '_' || c == '-'

/-- the id of a request, the client's if it is safe, else a new one -/
def takeRequestId {σ : Type} (courier : Courier σ) (r : Request) (st : σ) : String × σ :=
  match (r.headers.get? requestIdField).filter isSafeId with
  | some id => (id, st)
  | none => courier.fresh st

/-! ## Routes -/

/-- where a request leads -/
inductive Route
  | health
  | submission
  /-- asks which methods submissions take -/
  | methods
  | nowhere
  deriving DecidableEq, Repr

/-- the path of the health route, perhaps with a slash behind it -/
def isHealthPath (path : List Char) : Bool :=
  let path := path.map Char.toLower
  path == "/health".toList || path == "/health/".toList

/-- where submissions are mounted -/
def submissionMount : List Char := "/api/enquiries".toList

/-- a target with a path leads to the root of the mount point of submissions -/
def isSubmissionTarget (target path : List Char) : Bool :=
  match Target.mounted? submissionMount path with
  | none => false
  | some length =>
    match Target.path (Target.below target length) with
    | .ok rest => rest == [] || rest == ['/']
    | .error _ => false

/-- the method in lower case -/
def methodName (r : Request) : String := String.ofList (r.method.toList.map Char.toLower)

/-- where a request leads whose target has a path -/
def route (r : Request) (path : List Char) : Route :=
  if isHealthPath path && (methodName r == "get" || methodName r == "head") then .health
  else if isSubmissionTarget r.target.toList path then
    if methodName r = "post" then .submission else if r.method = "OPTIONS" then .methods else .nowhere
  else .nowhere

/-! ## Answers -/

/-- an answer to a submission that did not go through -/
def unsuccessful (status : Nat) (errors : List String) : Response :=
  .document status (.obj [("success", .bool false), ("errors", .texts errors)])

/-- a submission that went through, or seems to -/
def successful : Response := .document 200 (.obj [("success", .bool true)])

/-- an outcome as a response -/
def ofOutcome : Outcome → Response
  | .sent _ => successful
  | .discarded => successful
  | .rejected problems => unsuccessful 400 (problems.map (·.message))
  | .failed message _ => unsuccessful 502 [message]

/-- an outcome that counts against the limit -/
def counts : Except Thrown Outcome → Bool
  | .ok (.sent _) => true
  | _ => false

/-- what a client reads that has submitted too much -/
def tooMany : String := "Too many submissions. Please try again in a few minutes."

/-- nothing lies there -/
def notFound : Response :=
  .document 404 (.obj [("error", .str "Not Found"), ("message", .str "The requested resource was not found")])

/-- a request that is the client's fault -/
def badRequest (status : Nat) (message : String) : Response :=
  .document status (.obj [("error", .str "Bad Request"), ("message", .str message)])

/-- the status of an error that is the client's fault -/
def clientFault? (e : Thrown) : Option Nat :=
  match e.status with
  | some n => if Number.le 400 n && Number.lt n 500 then (n.trunc.toInt?).map Int.toNat else none
  | none => none

/-- an error as a response; one that is not the client's fault is logged, and its text is not shown in production -/
def ofThrown {σ : Type} (courier : Courier σ) (id : String) (e : Thrown) (st : σ) : Response × σ :=
  match clientFault? e with
  | some status => (badRequest status e.message, st)
  | none =>
    let shown :=
      if (courier.world st).env.get? "NODE_ENV" = some "production" then "An unexpected error occurred" else e.message
    (.document 500 (.obj [("error", .str "Internal Server Error"), ("message", .str shown)]),
      courier.log (Log.failure component "API error" e.message [("requestId", .str id)]) st)

/-- the length of a window in milliseconds -/
def App.windowLength (app : App) : Number := (app.settings.rateWindowMinutes.scale 60).scale 1000

/-- the limit of an interface that begins now -/
def App.limiter (app : App) (now : Time.Instant) : Limiter := .opened app.windowLength now

/-- answers a submission that is within the limit -/
def answerWithin {σ : Type} (courier : Courier σ) (app : App) (id : String) (document : Json) (st : σ) :
    Bool × Response × σ :=
  match Enquiry.submit courier app.settings document st with
  | (.ok outcome, st) => (counts (.ok outcome), ofOutcome outcome, st)
  | (.error e, st) => (false, ofThrown courier id e st)

/-- answers a submission -/
def answerSubmission {σ : Type} (courier : Courier σ) (app : App) (r : Request) (id : String) (document : Json)
    (l : Limiter) (st : σ) : Response × Limiter × σ :=
  let who := client app.proxies r
  let now := (courier.world st).now
  let limit := app.settings.rateLimit
  let (w, l) := l.hit who now
  let fields := Limiter.fields limit app.windowLength w now
  if Limiter.isExceeded limit w then
    let response := unsuccessful 429 [tooMany]
    let fields := fields ++ [("retry-after", (w.secondsLeft now).toText)]
    ({ response with headers := response.headers ++ fields }, l.takeBack who now, st)
  else
    let (delivered, response, st) := answerWithin courier app id document st
    ({ response with headers := response.headers ++ fields }, if delivered then l else l.takeBack who now, st)

/-- answers a request whose body has been read -/
def answerRoute {σ : Type} (courier : Courier σ) (app : App) (r : Request) (path : List Char) (id : String)
    (document : Json) (l : Limiter) (st : σ) : Response × Limiter × σ :=
  match route r path with
  | .health =>
    let stamp := Time.isoStamp (courier.world st).now
    (.document 200 (.obj [("status", .str "ok"), ("timestamp", .str stamp)]), l, st)
  | .submission => answerSubmission courier app r id document l st
  | .methods => ({ Response.text 200 "POST" with headers := [("allow", "POST"), ("content-type", textType)] }, l, st)
  | .nowhere => (notFound, l, st)

/-- the text that a response carries -/
def Content.written : Content → String
  | .document j => j.compact
  | .text s => s
  | .nothing => ""

/-- a response to a client that may have what it carries -/
def conditional (r : Request) (response : Response) : Response :=
  if (r.method = "GET" || r.method = "HEAD") && response.status = 200 && isFresh r (weakTag response.content.written) then
    ⟨304, response.headers.erase "content-type", .nothing⟩
  else response

/-- a response as it is sent; to a head request nothing but fields is sent -/
def bodiless (r : Request) (response : Response) : Response :=
  { response with content := if r.method = "HEAD" then .nothing else response.content }

/-- a response with the fields of every response -/
def finished (r : Request) (id : String) (response : Response) : Response :=
  bodiless r { response with headers := securityFields ++ (requestIdField, id) :: response.headers }

/-- the answer to a request whose target has no path: a page without the fields of other responses -/
def pathless (r : Request) (fault : Target.Fault) : Response :=
  bodiless r
    ⟨404, [("content-security-policy", "default-src 'none'"), ("x-content-type-options", "nosniff"),
      ("content-type", textType)], .text (Page.ofText ("Cannot " ++ r.method ++ " " ++ fault.stand))⟩

/-- the line of an answered request -/
def line (r : Request) (id : String) (status : Nat) (duration : Int) : Log.Call :=
  Log.call component .debug (r.method ++ " " ++ r.target ++ " " ++ toString status)
    [("requestId", .str id), ("durationMs", .int duration)]

/-- answers a request whose target has a path -/
def App.answerAt {σ : Type} (courier : Courier σ) (app : App) (r : Request) (path : List Char) (l : Limiter) (st : σ) :
    Response × Limiter × σ :=
  let (id, st) := takeRequestId courier r st
  let started := (courier.world st).now
  let (response, l, st) := match posted r with
    | .error e => (badRequest e.status e.message, l, st)
    | .ok document => answerRoute courier app r path id document l st
  let response := conditional r response
  (finished r id response, l,
    courier.log (line r id response.status ((courier.world st).now - started)) st)

/-- answers a request -/
def App.answer {σ : Type} (courier : Courier σ) (app : App) (r : Request) (l : Limiter) (st : σ) :
    Response × Limiter × σ :=
  match Target.path r.target.toList with
  | .ok path => app.answerAt courier r path l st
  | .error fault => (pathless r fault, l, st)

end EnquiryMail.Http
