/-
What a command prints when it has finished: a line with a mark and rows of details for people, or one document in
their place. An error that stops a command is a document like any result, but its text goes to the error output.
Failed results and errors leave exit code 1.

`error_exit`: an error says so in the exit code, in both forms.
-/
import EnquiryMail.Cli.Paint
import EnquiryMail.Json.Printer
import EnquiryMail.Smtp.Failure
import EnquiryMail.Text.Units

namespace EnquiryMail.Cli

/-- how results are printed -/
structure Form where
  /-- documents instead of text -/
  json : Bool
  color : Bool
  deriving DecidableEq, Repr

/-- what is printed, and the exit code -/
structure Report where
  output : String
  errors : String
  exit : Nat
  deriving DecidableEq, Repr, Inhabited

/-- a label and its value -/
abbrev Row := String × String

/-- the width of the widest label -/
def labelWidth (rows : List Row) : Nat := rows.foldl (fun w r => max w (Text.units r.1.toList)) 0

/-- one row of details -/
def rowText (color : Bool) (width : Nat) (r : Row) : String :=
  "  " ++ painted color .gray (String.ofList (Text.padEnd width r.1.toList)) ++ "  " ++ r.2

/-- rows of details, the values in one column -/
def details (color : Bool) (rows : List Row) : String :=
  String.intercalate "\n" (rows.map (rowText color (labelWidth rows)))

/-- the rows of a failure: its kind, and what the relay said if it said something -/
def failureRows (kind : String) (response : Option String) : List Row :=
  ("kind", kind) :: (response.map fun r => ("response", r)).toList

/-- a failure as a document -/
def failureDocument (f : Smtp.Failure) : Json :=
  .obj (("kind", .str f.kind.name) :: ("message", .str f.message) ::
    (f.response.map fun r => ("response", .str r)).toList)

/-- milliseconds below a second, else seconds with one place -/
def durationText (ms : Number) : String :=
  if ms.lt 1000 then ms.toText ++ "ms" else (ms.scale (1 / 1000)).toTenths ++ "s"

namespace Form

/-- prints a text or the document in its place -/
def printed (f : Form) (text : String) (document : Json) (exit : Nat) : Report :=
  ⟨(if f.json then document.indented else text) ++ "\n", "", exit⟩

/-- a result that is printed as it is -/
def plain (f : Form) (text : String) (document : Json) : Report := f.printed text document 0

/-- a good result -/
def succeeded (f : Form) (title : String) (rows : List Row) (document : Json) : Report :=
  f.printed (painted f.color .green "✔" ++ " " ++ painted f.color .bold title ++ "\n" ++ details f.color rows) document 0

/-- a failed delivery or check -/
def failed (f : Form) (kind message : String) (response : Option String) (document : Json) : Report :=
  f.printed (painted f.color .red "✖" ++ " " ++ message ++ "\n" ++ details f.color (failureRows kind response))
    document 1

/-- an error that stopped a command -/
def error (f : Form) (message : String) : Report :=
  if f.json then f.printed "" (.obj [("success", .bool false), ("error", .str message)]) 1
  else ⟨"", painted f.color .red "✖" ++ " " ++ message ++ "\n", 1⟩

end Form

theorem error_exit (f : Form) (message : String) : (f.error message).exit = 1 := by
  unfold Form.error; split <;> rfl

end EnquiryMail.Cli
