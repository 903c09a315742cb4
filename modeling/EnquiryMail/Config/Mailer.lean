/-
The configuration of the mailer, read from an environment: relay settings, enquiry settings and where the server
listens. Reading fails with the issues of all variables, in the order of the schema.

`readSmtp` reads the relay settings alone; `read` reads everything, and its relay settings are those of `readSmtp`.
-/
import EnquiryMail.Config.Rules
import EnquiryMail.Enquiry.Settings
import EnquiryMail.Smtp.Settings

namespace EnquiryMail.Config

open Reading

/-- where the server listens -/
structure ServerSettings where
  host : String
  port : Number
  deriving DecidableEq, Inhabited

/-- the configuration of the mailer -/
structure Mailer where
  smtp : Smtp.Settings
  enquiry : Enquiry.Settings
  server : ServerSettings
  deriving DecidableEq, Inhabited

/-- a configuration that cannot be used -/
structure Invalid where
  issues : List Issue
  deriving DecidableEq, Repr

/-- the wording of an invalid configuration -/
def Invalid.message (e : Invalid) : String :=
  "Invalid mailer configuration:\n  " ++ String.intercalate "\n  " (e.issues.map (·.message))

/-- what stands behind the last at sign, when something stands in front of it -/
def domainOf (address : String) : Option String :=
  let cs := address.toList
  let tail := (cs.reverse.takeWhile (· != '@')).reverse
  if tail.length + 1 < cs.length then some (String.ofList tail) else none

/-- the relay settings of an environment; the sender is the user unless set, and the announced domain that of the
sender -/
def smtpReading (env : Environment) : Reading Smtp.Settings :=
  let host := requiredTrimmed env "SMTP_HOST"
  let port := portNumber env "SMTP_PORT" 587
  let username := requiredText env "SMTP_USERNAME"
  let password := requiredText env "SMTP_PASSWORD"
  let sender := optionalAddress env "SMTP_FROM"
  let connectTimeout := positiveNumber env "SMTP_CONNECT_TIMEOUT" 10000
  let readTimeout := positiveNumber env "SMTP_READ_TIMEOUT" 10000
  match both host (both port (both username (both password (both sender (both connectTimeout readTimeout))))) with
  | .error is => .error is
  | .ok (host, port, username, password, sender, connectTimeout, readTimeout) =>
    let sender := sender.getD username
    let ehloDomain := (optionalText env "SMTP_EHLO_DOMAIN").getD ((domainOf sender).getD "localhost")
    .ok
      { host, port := .number port, username, password, sender
        senderName := (optionalText env "SMTP_FROM_NAME").getD ""
        ehloDomain
        messageIdDomain := (domainOf sender).getD ehloDomain
        connectTimeout := .number connectTimeout
        readTimeout := .number readTimeout
        tls :=
          { rejectUnauthorized := flag env "SMTP_TLS_REJECT_UNAUTHORIZED"
            serverName := none
            caFile := optionalText env "SMTP_TLS_CA_FILE" } }

/-- the enquiry settings of an environment, the fallback address being none when it is not set -/
def enquiryReading (env : Environment) : Reading (Enquiry.Settings × Option String) :=
  let recipients := addressList env "ENQUIRY_RECIPIENTS"
  let fallback := optionalAddress env "ENQUIRY_FALLBACK_ADDRESS"
  let minFill := naturalNumber env "ENQUIRY_MIN_FILL_SECONDS" 3
  let limit := positiveNumber env "ENQUIRY_RATE_LIMIT" 3
  let window := positiveNumber env "ENQUIRY_RATE_WINDOW_MINUTES" 10
  match both recipients (both fallback (both minFill (both limit window))) with
  | .error is => .error is
  | .ok (recipients, fallback, minFillSeconds, rateLimit, rateWindowMinutes) =>
    .ok
      ({ recipients
         subject := (optionalText env "ENQUIRY_SUBJECT").getD "Enterprise Enquiry"
         siteName := (optionalText env "ENQUIRY_SITE_NAME").getD "localhost"
         fallbackAddress := fallback.getD ""
         minFillSeconds, rateLimit, rateWindowMinutes }, fallback)

/-- where the server of an environment listens -/
def serverReading (env : Environment) : Reading ServerSettings :=
  match portNumber env "PORT" 8080 with
  | .error is => .error is
  | .ok port => .ok ⟨(optionalText env "HOST").getD "0.0.0.0", port⟩

/-- issues as an invalid configuration -/
def orInvalid {α : Type} : Reading α → Except Invalid α
  | .ok a => .ok a
  | .error is => .error ⟨is⟩

/-- the relay settings of an environment -/
def readSmtp (env : Environment) : Except Invalid Smtp.Settings := orInvalid (smtpReading env)

/-- the configuration of an environment; visitors are sent to the sender unless another address is set -/
def read (env : Environment) : Except Invalid Mailer :=
  orInvalid (match both (smtpReading env) (both (enquiryReading env) (serverReading env)) with
    | .error is => .error is
    | .ok (smtp, (enquiry, fallback), server) =>
      .ok ⟨smtp, { enquiry with fallbackAddress := fallback.getD smtp.sender }, server⟩)

/-- configurations read so far: the first success of each kind is kept until it is forgotten -/
structure Cache where
  env : Environment
  mailer : Option Mailer
  smtp : Option Smtp.Settings
  deriving Inhabited

namespace Cache

/-- the configuration, read unless it is kept -/
def getMailer (c : Cache) : Except Invalid Mailer × Cache :=
  match c.mailer with
  | some m => (.ok m, c)
  | none =>
    match read c.env with
    | .ok m => (.ok m, { c with mailer := some m })
    | .error e => (.error e, c)

/-- the relay settings, read unless they are kept -/
def getSmtp (c : Cache) : Except Invalid Smtp.Settings × Cache :=
  match c.smtp with
  | some s => (.ok s, c)
  | none =>
    match readSmtp c.env with
    | .ok s => (.ok s, { c with smtp := some s })
    | .error e => (.error e, c)

/-- forgets what is kept -/
def reset (c : Cache) : Cache := { c with mailer := none, smtp := none }

end Cache

end EnquiryMail.Config
