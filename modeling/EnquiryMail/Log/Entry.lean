/-
Log calls and the entries made of them. A call names its component, its level, a message, further fields and
perhaps the stack of an error. The entry carries all fields, except that a message with a format token (a percent
sign before one of `scdjifoO%`) is taken as text alone, and every field of the call is dropped.

A call whose fields mark it as an exception makes no entry. A field `__proto__` is never carried; it stands for
fields behind the others, of which only that mark is looked at.

`entry?_of_token`: a call with a format token always makes an entry, and one without fields.
-/
import EnquiryMail.Json.Basic
import EnquiryMail.Log.Level
import EnquiryMail.Time.Civil

namespace EnquiryMail.Log

/-- what is handed to a logger -/
structure Call where
  component : String
  level : Level
  message : String
  fields : Json.Fields
  stack : Option String
  deriving Inhabited

/-- a call without stack -/
def call (component : String) (level : Level) (message : String) (fields : Json.Fields) : Call :=
  ⟨component, level, message, fields, none⟩

/-- the stack of an error: its kind, and its message if it has one -/
def stackOf (error : String) : String := if error = "" then "Error" else "Error: " ++ error

/-- an error with the stack of its message -/
def failure (component message : String) (error : String) (fields : Json.Fields) : Call :=
  ⟨component, .error, message, fields, some (stackOf error)⟩

/-- a call with the time it was made at -/
structure Timed where
  time : Time.Instant
  call : Call
  deriving Inhabited

/-- the message holds a format token -/
def hasToken : List Char → Bool
  | '%' :: c :: rest => "scdjifoO%".toList.contains c || hasToken (c :: rest)
  | _ :: rest => hasToken rest
  | [] => false

/-- what reaches the outputs -/
structure Entry where
  level : Level
  message : String
  fields : Json.Fields
  deriving Inhabited

/-- the fields of a call: own fields over the component, the stack over both -/
def Call.allFields (c : Call) : Json.Fields :=
  let fields := c.fields.foldl (fun acc f => Json.Fields.set f.1 f.2 acc) [("component", .str c.component)]
  match c.stack with
  | some s => if s = "" then fields else Json.Fields.set "errorStack" (.str s) fields
  | none => fields

/-- the name of the field that stands for fields behind the others -/
def behind : String := "__proto__"

/-- the value of a field, or of one behind it -/
def lookBehind (fields : Json.Fields) (name : String) : Option Json :=
  match Json.Fields.get? fields name with
  | some v => some v
  | none => (Json.Fields.get? fields behind).bind fun j => j.get? name

/-- fields that mark an exception -/
def isException (fields : Json.Fields) : Bool :=
  match lookBehind fields "exception" with
  | some (.bool b) => b
  | _ => false

/-- the entry of a call, if it makes one; a message among the fields is appended to the message -/
def Call.entry? (c : Call) : Option Entry :=
  if hasToken c.message.toList then some ⟨c.level, c.message, []⟩
  else if isException c.allFields then none
  else
    let message := match Json.Fields.get? c.allFields "message" with
      | some v => if v.holds then c.message ++ " " ++ v.plain else c.message
      | none => c.message
    some ⟨c.level, message, ((c.allFields.erase "message").erase "level").erase behind⟩

theorem entry?_of_token (c : Call) (h : hasToken c.message.toList = true) :
    c.entry? = some ⟨c.level, c.message, []⟩ := by
  simp [Call.entry?, h]

end EnquiryMail.Log
