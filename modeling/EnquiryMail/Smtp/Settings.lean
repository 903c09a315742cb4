/-
Relay settings: where the relay is, whom to sign in as, what to announce, and how long to wait. Settings are
written as a document laid over the defaults; a field may hold any value there, and numeric fields keep the value
as given so that it can be shown back.

`Settings.problems` lists what makes settings unusable, each problem a cause with its wording.
-/
import EnquiryMail.Json.Basic
import EnquiryMail.Mail.Message
import EnquiryMail.Number.Literal
import EnquiryMail.Time.Delay

namespace EnquiryMail.Smtp

open EnquiryMail.Mail (hasBreak)

/-- a numeric setting as it was given -/
inductive Amount
  | number (n : Number)
  | text (s : String)
  | flag (b : Bool)
  | absent
  deriving DecidableEq, Inhabited

namespace Amount

/-- the number that a setting counts as -/
def value : Amount → Number
  | .number n => n
  | .text s => Number.ofText s
  | .flag b => .finite (if b then 1 else 0)
  | .absent => .finite 0

/-- the setting as shown in a message -/
def shown : Amount → String
  | .number n => n.toText
  | .text s => s
  | .flag b => if b then "true" else "false"
  | .absent => "null"

/-- the alarm delay of a time limit -/
def delay (a : Amount) : Int := Time.delayOf a.value

/-- the clock reading at which a limit that starts at `now` has passed; a limit given as text is appended to
the digits of the clock -/
def deadline (now : Int) : Amount → Number
  | .text s => Number.ofText (toString now ++ s)
  | a => Number.add (Number.ofInt now) a.value

/-- reads a field of a settings document -/
def ofJson : Json → Amount
  | .num n => .number n
  | .str s => .text s
  | .bool b => .flag b
  | .null => .absent
  | .arr items => .text (Json.plain (.arr items))
  | .obj fields => .text (Json.plain (.obj fields))

/-- the setting as a document -/
def toJson : Amount → Json
  | .number n => .num n
  | .text s => .str s
  | .flag b => .bool b
  | .absent => .null

end Amount

/-- what is asked of the encrypted connection -/
structure TlsSettings where
  rejectUnauthorized : Bool
  serverName : Option String
  /-- path of a further trust anchor -/
  caFile : Option String
  deriving DecidableEq, Inhabited

/-- relay settings -/
structure Settings where
  host : String
  port : Amount
  username : String
  password : String
  /-- envelope sender and From address -/
  sender : String
  /-- display name of the sender, none when empty -/
  senderName : String
  ehloDomain : String
  messageIdDomain : String
  connectTimeout : Amount
  readTimeout : Amount
  tls : TlsSettings
  deriving DecidableEq, Inhabited

namespace Settings

/-- the defaults, as a document -/
def defaults : Json.Fields :=
  [("host", .str "localhost"), ("port", .num 587), ("username", .str ""), ("password", .str ""),
    ("from", .str ""), ("fromName", .str ""), ("ehloDomain", .str "localhost"), ("messageIdDomain", .str ""),
    ("connectTimeout", .num 10000), ("readTimeout", .num 10000),
    ("tls", .obj [("rejectUnauthorized", .bool true)])]

/-- fields laid over others, one by one -/
def overlay (under upper : Json.Fields) : Json.Fields := upper.foldl (fun acc f => Json.Fields.set f.1 f.2 acc) under

/-- values under their places -/
def placed (items : List Json) : Json.Fields := items.zipIdx.map fun (v, i) => (toString i, v)

/-- the fields of a document: those of an object, the items of a list and the letters of a text under their places -/
def fieldsOf : Json → Json.Fields
  | .obj fs => fs
  | .arr items => placed items
  | .str s => placed (s.toList.map fun c => .str (String.singleton c))
  | _ => []

/-- overrides laid over the defaults, the TLS block field by field -/
def complete (overrides : Json) : Json.Fields :=
  let upper := fieldsOf overrides
  let tls := overlay [("rejectUnauthorized", .bool true)] (fieldsOf ((Json.Fields.get? upper "tls").getD .null))
  Json.Fields.set "tls" (.obj tls) (overlay defaults upper)

/-- a text field: values that count as false are empty -/
def textField (fs : Json.Fields) (name : String) : String :=
  match Json.Fields.get? fs name with
  | some (.str s) => s
  | some v => if v.holds then v.plain else ""
  | none => ""

/-- a text field that is used as it is, even when it counts as false -/
def shownField (fs : Json.Fields) (name : String) : String :=
  match Json.Fields.get? fs name with
  | some v => v.plain
  | none => ""

/-- an optional text field: empty is unset -/
def optionalField (fs : Json.Fields) (name : String) : Option String :=
  let s := textField fs name
  if s = "" then none else some s

/-- reads a complete document -/
def ofFields (fs : Json.Fields) : Settings :=
  let amount (name : String) := ((Json.Fields.get? fs name).map Amount.ofJson).getD .absent
  let tls := fieldsOf ((Json.Fields.get? fs "tls").getD .null)
  { host := textField fs "host"
    port := amount "port"
    username := textField fs "username"
    password := textField fs "password"
    sender := textField fs "from"
    senderName := textField fs "fromName"
    ehloDomain := shownField fs "ehloDomain"
    messageIdDomain := textField fs "messageIdDomain"
    connectTimeout := amount "connectTimeout"
    readTimeout := amount "readTimeout"
    tls :=
      { rejectUnauthorized := ((Json.Fields.get? tls "rejectUnauthorized").getD .null).holds
        serverName := optionalField tls "servername"
        caFile := optionalField tls "ca" } }

/-- settings from overrides -/
def ofOverrides (overrides : Json) : Settings := ofFields (complete overrides)

/-- settings as a document -/
def toFields (s : Settings) : Json.Fields :=
  let optional (name : String) : Option String → Json.Fields
    | some v => [(name, .str v)]
    | none => []
  [("host", .str s.host), ("port", s.port.toJson), ("username", .str s.username), ("password", .str s.password),
    ("from", .str s.sender), ("fromName", .str s.senderName), ("ehloDomain", .str s.ehloDomain),
    ("messageIdDomain", .str s.messageIdDomain), ("connectTimeout", s.connectTimeout.toJson),
    ("readTimeout", s.readTimeout.toJson),
    ("tls", .obj ([("rejectUnauthorized", .bool s.tls.rejectUnauthorized)] ++
      optional "servername" s.tls.serverName ++ optional "ca" s.tls.caFile))]

/-- the right side of generated message ids -/
def idDomain (s : Settings) : String := if s.messageIdDomain = "" then s.ehloDomain else s.messageIdDomain

/-- the right side of generated message ids as a document: the first of two fields unless it counts as false -/
def idDomainField (fs : Json.Fields) : Json :=
  let field (name : String) : Json := (Json.Fields.get? fs name).getD .null
  if (field "messageIdDomain").holds then field "messageIdDomain" else field "ehloDomain"

/-- `host:port` -/
def relayName (s : Settings) : String := s.host ++ ":" ++ s.port.shown

/-- the fields that take part in the conversation -/
inductive Identity
  | host
  | username
  | sender
  | senderName
  | ehloDomain
  | messageIdDomain
  deriving DecidableEq, Repr

/-- the name of an identity field in a settings document -/
def Identity.name : Identity → String
  | .host => "host"
  | .username => "username"
  | .sender => "from"
  | .senderName => "fromName"
  | .ehloDomain => "ehloDomain"
  | .messageIdDomain => "messageIdDomain"

/-- the value of an identity field -/
def identity (s : Settings) : Identity → String
  | .host => s.host
  | .username => s.username
  | .sender => s.sender
  | .senderName => s.senderName
  | .ehloDomain => s.ehloDomain
  | .messageIdDomain => s.messageIdDomain

/-- the identity fields in the order of their checks -/
def identities : List Identity := [.host, .username, .sender, .senderName, .ehloDomain, .messageIdDomain]

/-- why settings cannot be used -/
inductive Problem
  | hostMissing
  | portOutside (shown : String)
  | connectTimeoutZero
  | readTimeoutZero
  | usernameMissing
  | passwordMissing
  | senderMissing
  | broken (field : Identity)
  deriving DecidableEq, Repr

/-- the wording of a problem -/
def Problem.message : Problem → String
  | .hostMissing => "SMTP host is required"
  | .portOutside shown => "SMTP port must be between 1 and 65535 (got " ++ shown ++ ")"
  | .connectTimeoutZero => "Connect timeout must be greater than zero"
  | .readTimeoutZero => "Read timeout must be greater than zero"
  | .usernameMissing => "SMTP username is required"
  | .passwordMissing => "SMTP password is required"
  | .senderMissing => "Sender address is required"
  | .broken field => field.name ++ " must not contain line breaks"

/-- a port that can be connected to -/
def usablePort : Amount → Bool
  | .number n =>
    match n.toInt? with
    | some p => 1 ≤ p && p ≤ 65535
    | none => false
  | _ => false

/-- a problem when a check fails -/
def require (ok : Bool) (p : Problem) : List Problem := if ok then [] else [p]

/-- what is wrong with settings, in a fixed order -/
def problems (s : Settings) : List Problem :=
  require (!isBlankText s.host) .hostMissing ++
  require (usablePort s.port) (.portOutside s.port.shown) ++
  require (Number.lt 0 s.connectTimeout.value) .connectTimeoutZero ++
  require (Number.lt 0 s.readTimeout.value) .readTimeoutZero ++
  require (s.username != "") .usernameMissing ++
  require (s.password != "") .passwordMissing ++
  require (!isBlankText s.sender) .senderMissing ++
  identities.flatMap fun field => require (!hasBreak (s.identity field)) (.broken field)

end Settings

end EnquiryMail.Smtp
