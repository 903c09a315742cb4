/-
Level overrides of components. A component has a name, a description and possibly a level of its own; a dotted name
without one takes the level of its nearest ancestor that has one. Registering a component again renews its
description and keeps its level, so overrides may be set before or after the components register.

`effective_of_override`: a component with a level of its own has that level.
-/
import EnquiryMail.Log.Level
import EnquiryMail.Text.Collation

namespace EnquiryMail.Log

/-- what is known of a component -/
structure Component where
  description : String
  level : Option Level
  deriving DecidableEq, Repr, Inhabited

/-- components by name, in the order they were first named -/
abbrev Registry := List (String × Component)

/-- a line of the component list -/
structure ComponentStatus where
  name : String
  description : String
  effective : Level
  overridden : Bool
  deriving DecidableEq, Repr

namespace Registry

/-- no components -/
def empty : Registry := []

/-- the component with a name -/
def find? (r : Registry) (name : String) : Option Component := r.lookup name

/-- the level of a component's own -/
def override? (r : Registry) (name : String) : Option Level := (r.find? name).bind (·.level)

/-- replaces a component in place, or adds it behind the others -/
def put (name : String) (c : Component) : Registry → Registry
  | [] => [(name, c)]
  | (n, d) :: rest => if name = n then (n, c) :: rest else (n, d) :: put name c rest

/-- declares a component; a level that it has already wins over the one given -/
def register (r : Registry) (name description : String) (level : Option Level) : Registry :=
  put name ⟨description, (r.override? name).or level⟩ r

/-- gives a component a level; an unknown name is registered under that name -/
def setLevel (r : Registry) (name : String) (level : Level) : Registry :=
  put name ⟨((r.find? name).map (·.description)).getD name, some level⟩ r

/-- takes the level of a component away; an unknown name stays unknown -/
def clearLevel (r : Registry) (name : String) : Registry :=
  match r.find? name with
  | some c => put name { c with level := none } r
  | none => r

/-- the parts of a name in front of its dots, the first character aside, shortest first; `before` is what has
been read, in reverse -/
def stems (before : List Char) : List Char → List (List Char)
  | [] => []
  | c :: rest => (if c = '.' ∧ before ≠ [] then [before.reverse] else []) ++ stems (c :: before) rest

/-- a name and its ancestors, nearest first -/
def lineage (name : String) : List String :=
  if name = "" then [] else name :: ((stems [] name.toList).reverse.map String.ofList)

/-- the level that holds for a name: the first among its lineage, else the given one -/
def effective (r : Registry) (name : String) (fallback : Level) : Level :=
  ((lineage name).findSome? r.override?).getD fallback

/-- a message of a component is written -/
def shouldLog (r : Registry) (name : String) (message fallback : Level) : Bool :=
  message.enabled (r.effective name fallback)

/-- the components in dictionary order -/
def statuses (r : Registry) (fallback : Level) : List ComponentStatus :=
  Text.Collation.sortBy (·.name.toList)
    (r.map fun (name, c) => ⟨name, c.description, c.level.getD fallback, c.level.isSome⟩)

/-- splits a text at its last colon -/
def splitLastColon (cs : List Char) : Option (List Char × List Char) :=
  let tail := (cs.reverse.takeWhile (· != ':')).reverse
  if tail.length < cs.length then some (cs.take (cs.length - tail.length - 1), tail) else none

/-- the component and the level of an entry such as `smtp` or `smtp:TRACE`; without a level, and with one that
is no level name, it is `debug` -/
def readEntry (entry : String) : String × Level :=
  match splitLastColon entry.toList with
  | some (name, suffix) =>
    if name = [] then (entry, .debug) else (String.ofList name, (Level.ofText? (String.ofList suffix)).getD .debug)
  | none => (entry, .debug)

/-- applies a list of entries -/
def apply (r : Registry) (entries : List String) : Registry :=
  entries.foldl (fun r e => r.setLevel (readEntry e).1 (readEntry e).2) r

theorem effective_of_override (r : Registry) (name : String) (level fallback : Level) (hn : name ≠ "")
    (h : r.override? name = some level) : r.effective name fallback = level := by
  simp [effective, lineage, hn, h]

end Registry

end EnquiryMail.Log
