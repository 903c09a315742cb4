/-
Written entries. In text form an entry is the level (five wide), the time stamp, the component in brackets and the
message, with the stack of an error on the lines behind it. In object form it is one line with all fields in the
order of their names.
-/
import EnquiryMail.Json.Printer
import EnquiryMail.Log.Entry
import EnquiryMail.Log.Settings
import EnquiryMail.Time.Stamp

namespace EnquiryMail.Log

/-- a non-empty text field -/
def Entry.textField? (e : Entry) (name : String) : Option String :=
  match Json.Fields.get? e.fields name with
  | some (.str s) => if s = "" then none else some s
  | _ => none

/-- the level of a text entry, blanks in front up to five characters -/
def paddedLevel (level : Level) : String := String.ofList (Text.padStart 5 ' ' level.name.toList)

/-- an entry in text form -/
def Entry.textForm (stamp : String) (e : Entry) : String :=
  let component := match e.textField? "component" with
    | some c => ["[" ++ c ++ "]"]
    | none => []
  let line := String.intercalate " " ([paddedLevel e.level, stamp] ++ component ++ [e.message])
  match e.textField? "errorStack" with
  | some stack => line ++ "\n" ++ stack
  | none => line

/-- an entry in object form; a time stamp among the fields is kept -/
def Entry.objectForm (stamp : String) (e : Entry) : String :=
  let fields := Json.Fields.set "message" (.str e.message)
    (Json.Fields.set "level" (.str e.level.lowerName) e.fields)
  let fields := match Json.Fields.get? fields "timestamp" with
    | some v => if v.holds then fields else Json.Fields.set "timestamp" (.str stamp) fields
    | none => Json.Fields.set "timestamp" (.str stamp) fields
  (Json.sorted (.obj fields)).compact

/-- a call as it is written, if it makes an entry; `offset` is the distance of the local zone in minutes -/
def Timed.written? (format : Format) (stamps : StampForm) (offset : Int) (t : Timed) : Option String :=
  t.call.entry?.map fun e =>
    match format with
    | .json => e.objectForm (Time.isoStamp t.time)
    | .text =>
      e.textForm (match stamps with
        | .iso => Time.isoStamp t.time
        | .classic => Time.lineStamp offset t.time)

end EnquiryMail.Log
