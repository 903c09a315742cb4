/-
The journal: who logs where. It holds the settings once read, the outputs once opened, the global level, the
registry of components and the loggers handed out. The outputs are opened by the first logger or on demand, which
also applies the overrides of the settings; a call is written when its component's level lets it through.
-/
import EnquiryMail.Log.Layout
import EnquiryMail.Log.Registry

namespace EnquiryMail.Log

/-- open outputs -/
structure Outputs where
  format : Format
  stamps : StampForm
  file : Option String
  /-- no further entry is taken -/
  ended : Bool
  deriving Repr, Inhabited

/-- a logger: its component, and which one it is -/
structure Logger where
  component : String
  id : Nat
  deriving DecidableEq, Repr, Inhabited

/-- the state of logging -/
structure Journal where
  env : Environment
  cached : Option Settings
  outputs : Option Outputs
  global : Level
  registry : Registry
  loggers : List Logger
  made : Nat
  /-- lines on the console, newest first -/
  console : List String
  /-- lines in the log file, newest first -/
  file : List String
  deriving Inhabited

namespace Journal

/-- nothing read, opened or registered -/
def start (env : Environment) : Journal :=
  ⟨env, none, none, .info, .empty, [], 0, [], []⟩

/-- the settings, read from the environment the first time -/
def settings (j : Journal) : Settings × Journal :=
  match j.cached with
  | some s => (s, j)
  | none => (Settings.ofEnvironment j.env, { j with cached := some (Settings.ofEnvironment j.env) })

/-- opens the outputs that the settings ask for -/
def initialise (j : Journal) : Journal :=
  let (s, j) := j.settings
  { j with
    global := s.level
    outputs := some ⟨s.format, s.stamps, s.file, false⟩
    registry := j.registry.apply s.overrides }

/-- opens the outputs unless they are open -/
def ready (j : Journal) : Journal := if j.outputs.isSome then j else j.initialise

/-- how many outputs are open -/
def outputCount (j : Journal) : Nat :=
  match j.outputs with
  | some o => if o.file.isSome then 2 else 1
  | none => 0

/-- the logger of a component, the same one each time -/
def logger (component : String) (j : Journal) : Logger × Journal :=
  match j.loggers.find? fun l => l.component = component with
  | some l => (l, j)
  | none =>
    let j := j.ready
    let l : Logger := ⟨component, j.made⟩
    (l, { j with loggers := j.loggers ++ [l], made := j.made + 1 })

/-- a new logger for a part of a logger's component -/
def child (l : Logger) (name : String) (j : Journal) : Logger × Journal :=
  (⟨l.component ++ "." ++ name, j.made⟩, { j with made := j.made + 1 })

/-- the level that holds where no override does; without outputs it is `info` -/
def threshold (j : Journal) : Level := if j.outputs.isSome then j.global else .info

/-- a message of a component at a level is written -/
def isEnabled (j : Journal) (component : String) (level : Level) : Bool :=
  j.registry.shouldLog component level j.threshold

/-- writes a call if its level lets it through -/
def log (offset : Int) (t : Timed) (j : Journal) : Journal :=
  if j.isEnabled t.call.component t.call.level then
    let j := j.ready
    match j.outputs with
    | some o =>
      if o.ended then j
      else
        { j with
          console := (t.written? o.format o.stamps offset).toList ++ j.console
          file := if o.file.isSome then (t.written? o.format .classic offset).toList ++ j.file else j.file }
    | none => j
  else j

/-- closes the outputs for good -/
def shutdown (j : Journal) : Journal :=
  { j with outputs := j.outputs.map fun o => { o with ended := true } }

/-- forgets outputs, loggers and the global level -/
def reset (j : Journal) : Journal := { j with outputs := none, global := .info, loggers := [] }

/-- forgets the settings read -/
def forgetSettings (j : Journal) : Journal := { j with cached := none }

/-- changes the registry -/
def onRegistry (f : Registry → Registry) (j : Journal) : Journal := { j with registry := f j.registry }

/-- a running mailer: its four components are registered and the outputs are open -/
def boot (env : Environment) : Journal :=
  let r := Registry.empty
  let r := r.register "smtp" "SMTP STARTTLS sender" none
  let r := r.register "enquiry" "Enquiry form handling" none
  let r := r.register "api" "HTTP API server" none
  let r := r.register "server" "Server lifecycle" none
  { start env with registry := r }.initialise

/-- the written lines of calls made one after another -/
def lines (offset : Int) (calls : List Timed) (j : Journal) : List String :=
  (calls.foldl (fun j t => j.log offset t) j).console.reverse

end Journal

end EnquiryMail.Log
