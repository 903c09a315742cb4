/-
One connection to a relay, upgradable in place. Incoming bytes are cut into lines; a reader takes lines until its
reply is complete, within one deadline for the whole reply; what goes beyond a reply stays queued. The connection
ends once, with the error that ended it first; from then on reads answer with that error. The upgrade swaps the plain
socket for an encrypted one and forgets whatever had arrived but was not read.

Transitions are functions to the next connection and the effects on the outside: writes, closed sockets, alarms set
and cancelled, answers to readers, log calls. `feed_append`: how the bytes were cut into packets does not matter.
-/
import EnquiryMail.Log.Entry
import EnquiryMail.Net.Address
import EnquiryMail.Smtp.Reply
import EnquiryMail.Smtp.Settings
import EnquiryMail.Text.Utf8

namespace EnquiryMail.Smtp

open Text.Utf8 (Bytes)

/-- what is spoken on a socket -/
inductive Layer
  | plain
  | tls
  deriving DecidableEq, Repr, Inhabited

/-- the alarms of a connection -/
inductive Alarm
  | connect
  | handshake (id : Nat)
  | read (id : Nat)
  deriving DecidableEq, Repr

/-- what is asked for in a TLS handshake -/
structure Handshake where
  serverName : Option String
  rejectUnauthorized : Bool
  /-- text of a further trust anchor -/
  anchor : Option String
  deriving DecidableEq, Repr

/-- the lowest protocol version accepted -/
def Handshake.minVersion : String := "TLSv1.2"

/-- the highest protocol version accepted -/
def Handshake.maxVersion : String := "TLSv1.3"

/-- what a connection does to the outside -/
inductive Effect
  | wrote (layer : Layer) (text : String)
  | shake (h : Handshake)
  | destroyed (layer : Layer)
  | arm (a : Alarm) (delay : Int)
  | disarm (a : Alarm)
  | answered (id : Nat) (r : Except String Reply)
  | upgraded (r : Except String Unit)
  | log (c : Log.Call)

/-- one end of a socket -/
structure Socket where
  layer : Layer
  /-- neither side has closed it -/
  live : Bool
  /-- the connection listens to it -/
  heard : Bool
  /-- writes fail with this error -/
  refusal : Option String
  deriving DecidableEq, Repr, Inhabited

/-- how far a handshake is -/
inductive HandshakePhase
  | underWay
  /-- it failed or took too long, and whoever waited for it knows -/
  | givenUp
  | done
  deriving DecidableEq, Repr, Inhabited

/-- a handshake and the socket that it is to encrypt -/
structure Upgrade where
  id : Nat
  socket : Socket
  phase : HandshakePhase
  deriving DecidableEq, Repr, Inhabited

/-- a reader waiting for a line -/
structure Reader where
  id : Nat
  deadline : Number
  /-- the lines of its reply so far -/
  got : List String
  deriving DecidableEq, Inhabited

/-- a connection -/
structure Connection where
  settings : Settings
  /-- bytes of the line under way, last one first -/
  buffer : Bytes
  /-- lines that nobody has read -/
  lines : List String
  /-- the reader that gets the next line -/
  pending : Option Reader
  /-- the error that ended the connection -/
  ended : Option String
  secure : Bool
  socket : Socket
  /-- the handshakes so far, newest first -/
  upgrades : List Upgrade
  deriving Inhabited

/-- why an operation on a connection fails -/
inductive ConnectionError
  | connectTimeout (relay limit : String)
  | readTimeout (limit : String)
  | handshakeTimeout (limit : String)
  | closedByRelay
  | closed
  deriving DecidableEq, Repr

/-- the wording of a connection error -/
def ConnectionError.message : ConnectionError → String
  | .connectTimeout relay limit => "Connection to " ++ relay ++ " timed out after " ++ limit ++ " ms"
  | .readTimeout limit => "Timed out after " ++ limit ++ " ms waiting for reply"
  | .handshakeTimeout limit => "TLS handshake timed out after " ++ limit ++ " ms"
  | .closedByRelay => "Connection closed by relay"
  | .closed => "Connection is closed"

/-- the server name of a handshake: the configured one, else the host unless that is a numeric address -/
def Settings.serverName (s : Settings) : Option String :=
  match s.tls.serverName with
  | some name => some name
  | none => if Net.isNumeric s.host then none else some s.host

namespace Connection

/-- a connection over a plain socket that is or is not live, and takes writes or refuses them -/
def onSocket (s : Settings) (live : Bool) (refusal : Option String) : Connection :=
  { settings := s, buffer := [], lines := [], pending := none, ended := none, secure := false
    socket := ⟨.plain, live, true, refusal⟩, upgrades := [] }

/-- a connection over a fresh plain socket -/
def start (s : Settings) : Connection := onSocket s true none

/-- the next connection and what it does -/
abbrev Outcome := Connection × List Effect

/-- goes on after an outcome -/
def andThen (o : Outcome) (f : Connection → Outcome) : Outcome :=
  ((f o.1).1, o.2 ++ (f o.1).2)

/-- a log call of the connection -/
def note (level : Log.Level) (message : String) (fields : Json.Fields) : Effect :=
  .log (Log.call "smtp.session" level message fields)

/-- the log calls of a complete reply, one a line -/
def traceReply (lines : List String) : List Effect := lines.map fun l => note .trace ("S: " ++ l) []

/-- milliseconds left until a deadline, as an alarm delay -/
def remaining (now : Int) (deadline : Number) : Int :=
  let left := Number.sub deadline (Number.ofInt now)
  Time.delayOf (if Number.lt left 0 then 0 else left)

/-! ## Lines and readers -/

/-- hands a line to the waiting reader, or queues it; a reader that has its last line answers, another one goes on
waiting -/
def pushLine (now : Int) (line : String) (c : Connection) : Outcome :=
  match c.pending with
  | none => ({ c with lines := c.lines ++ [line] }, [])
  | some r =>
    let got := r.got ++ [line]
    if isFinalLine line then
      ({ c with pending := none },
        [.disarm (.read r.id)] ++ traceReply got ++ [.answered r.id (.ok (Reply.ofLines got))])
    else
      ({ c with pending := some { r with got } },
        [.disarm (.read r.id), .arm (.read r.id) (remaining now r.deadline)])

/-- a line without the carriage return behind it -/
def chop (cs : List Char) : List Char := if cs.getLast? = some '\r' then cs.dropLast else cs

/-- takes in one byte -/
def feedByte (now : Int) (c : Connection) (b : UInt8) : Outcome :=
  if b = 10 then
    let line := String.ofList (chop (Text.Utf8.decode c.buffer.reverse))
    pushLine now line { c with buffer := [] }
  else ({ c with buffer := b :: c.buffer }, [])

/-- takes in bytes -/
def feed (now : Int) (bytes : Bytes) (c : Connection) : Outcome :=
  bytes.foldl (fun o b => andThen o fun c => feedByte now c b) (c, [])

/-- ends the connection with an error; an unterminated last line still counts as a line -/
def finish (now : Int) (error : String) (c : Connection) : Outcome :=
  if c.ended.isSome then (c, [])
  else
    let rest := c.buffer.reverse
    let c' := { c with buffer := [] }
    let o : Outcome := if rest.isEmpty then (c', []) else pushLine now (ofUtf8 rest) c'
    andThen o fun c =>
      match c.pending with
      | some r =>
        ({ c with ended := some error, pending := none }, [.disarm (.read r.id), .answered r.id (.error error)])
      | none => ({ c with ended := some error }, [])

/-- the lines up to the first that ends a reply, and those behind it; none when no line does -/
def splitReply : List String → Option (List String × List String)
  | [] => none
  | line :: rest =>
    if isFinalLine line then some ([line], rest) else (splitReply rest).map fun (got, more) => (line :: got, more)

/-- starts to read a reply -/
def read (now : Int) (id : Nat) (c : Connection) : Outcome :=
  match splitReply c.lines with
  | some (got, rest) =>
    ({ c with lines := rest }, traceReply got ++ [.answered id (.ok (Reply.ofLines got))])
  | none =>
    match c.ended with
    | some error => ({ c with lines := [] }, [.answered id (.error error)])
    | none =>
      let deadline := c.settings.readTimeout.deadline now
      ({ c with lines := [], pending := some ⟨id, deadline, c.lines⟩ }, [.arm (.read id) (remaining now deadline)])

/-- the deadline of a reader has passed -/
def readExpired (id : Nat) (c : Connection) : Outcome :=
  ({ c with pending := none },
    [.answered id (.error (ConnectionError.readTimeout c.settings.readTimeout.shown).message)])

/-! ## Writing -/

/-- writes a text as it is -/
def writeRaw (text : String) (c : Connection) : Except String Unit × List Effect :=
  if c.socket.live then
    match c.socket.refusal with
    | some m => (.error m, [])
    | none => (.ok (), [.wrote c.socket.layer text])
  else (.error (c.ended.getD ConnectionError.closed.message), [])

/-- writes a command line; a secret one is not shown in the log -/
def writeLine (line : String) (secret : Bool) (c : Connection) : Except String Unit × List Effect :=
  let (r, effects) := c.writeRaw (line ++ "\r\n")
  (r, note .trace ("C: " ++ (if secret then "***" else line)) [] :: effects)

/-! ## The upgrade -/

/-- the handshake of a connection's settings -/
def handshakeOf (s : Settings) (anchor : Option String) : Handshake :=
  ⟨s.serverName, s.tls.rejectUnauthorized, anchor⟩

/-- starts an upgrade: the socket at hand is no longer listened to and what had arrived is forgotten. `anchor` is the
content of the trust anchor when one is set, or why it cannot be read -/
def startTls (id : Nat) (anchor : Except String (Option String)) (c : Connection) : Outcome :=
  let c := { c with socket := { c.socket with heard := false }, buffer := [], lines := [] }
  match anchor with
  | .error m => (c, [.upgraded (.error m)])
  | .ok text =>
    ({ c with upgrades := ⟨id, ⟨.tls, true, false, none⟩, .underWay⟩ :: c.upgrades },
      [.shake (handshakeOf c.settings text), .arm (.handshake id) c.settings.readTimeout.delay])

/-- the handshake with a number -/
def upgrade? (id : Nat) (c : Connection) : Option Upgrade := c.upgrades.find? (·.id == id)

/-- takes down that a handshake has changed -/
def withUpgrade (u : Upgrade) (c : Connection) : Connection :=
  { c with upgrades := c.upgrades.map fun v => if v.id = u.id then u else v }

/-- a handshake has succeeded: its socket takes the place of the other, even when it had been given up -/
def shaken (id : Nat) (c : Connection) : Outcome :=
  match c.upgrade? id with
  | none => (c, [])
  | some u =>
    if u.phase = .done then (c, [])
    else
      ({ c.withUpgrade { u with phase := .done } with socket := { u.socket with heard := true }, secure := true },
        [.disarm (.handshake id),
          note .debug "TLS established" [("protocol", .str "TLSv1.3"), ("cipher", .str "TLS_AES_256_GCM_SHA384")]] ++
        (if u.phase = .underWay then [.upgraded (.ok ())] else []))

/-- gives a handshake that is under way up with an error -/
def abandon (id : Nat) (error : String) (c : Connection) : Outcome :=
  match (c.upgrade? id).filter (·.phase == .underWay) with
  | none => (c, [])
  | some u =>
    (c.withUpgrade { u with socket := { u.socket with live := false }, phase := .givenUp },
      (if u.socket.live then [.destroyed u.socket.layer] else []) ++ [.upgraded (.error error)])

/-- a handshake has failed; once it is done, an error of its socket ends the connection -/
def shakeFailed (now : Int) (id : Nat) (error : String) (c : Connection) : Outcome :=
  match (c.upgrade? id).map Upgrade.phase with
  | some .underWay => andThen (c, [.disarm (.handshake id)]) (abandon id error)
  | some .done => if c.socket.heard then finish now error c else (c, [])
  | _ => (c, [])

/-- a handshake has taken too long -/
def shakeExpired (id : Nat) (c : Connection) : Outcome :=
  abandon id (ConnectionError.handshakeTimeout c.settings.readTimeout.shown).message c

/-! ## What the other side does -/

/-- bytes arrive on the current socket -/
def arrive (now : Int) (bytes : Bytes) (c : Connection) : Outcome :=
  if c.socket.heard then feed now bytes c else (c, [])

/-- the relay closes the current socket, or it fails with an error -/
def hangUp (now : Int) (error : Option String) (c : Connection) : Outcome :=
  let heard := c.socket.heard
  let c := { c with socket := { c.socket with live := false } }
  if heard then finish now (error.getD ConnectionError.closedByRelay.message) c else (c, [])

/-- writes on the current socket fail from now on -/
def refuseWrites (error : String) (c : Connection) : Connection :=
  { c with socket := { c.socket with refusal := some error } }

/-! ## Closing -/

/-- closes the connection -/
def close (now : Int) (c : Connection) : Outcome :=
  let destroyed : List Effect := if c.socket.live then [.destroyed c.socket.layer] else []
  let c := { c with socket := { c.socket with live := false, heard := false } }
  andThen (c, destroyed) (finish now ConnectionError.closed.message)

/-- an alarm goes off; the alarm of connecting belongs to no connection -/
def alarm (a : Alarm) (c : Connection) : Outcome :=
  match a with
  | .connect => (c, [])
  | .handshake id => shakeExpired id c
  | .read id => readExpired id c

theorem andThen_assoc (o : Outcome) (f g : Connection → Outcome) :
    andThen (andThen o f) g = andThen o fun c => andThen (f c) g := by
  simp [andThen, List.append_assoc]

theorem feed_foldl (now : Int) (bytes : Bytes) (o : Outcome) :
    bytes.foldl (fun o b => andThen o fun c => feedByte now c b) o = andThen o (feed now bytes) := by
  induction bytes generalizing o with
  | nil => simp [feed, andThen]
  | cons b bytes ih =>
    have h : feed now (b :: bytes) = fun c => andThen (feedByte now c b) (feed now bytes) := by
      funext c
      simp only [feed, List.foldl_cons]
      rw [ih]
      simp [andThen]
    rw [List.foldl_cons, ih, h, andThen_assoc]

theorem feed_append (now : Int) (a b : Bytes) (c : Connection) :
    feed now (a ++ b) c = andThen (feed now a c) (feed now b) := by
  rw [feed, List.foldl_append, feed_foldl]
  rfl

end Connection

end EnquiryMail.Smtp
