/-
Overrides and declarations in any order. While a mailer loads, the entries of its environment give components levels and
the components declare themselves, some with a level to begin with. Each list keeps its order, but nothing says how the
two fall between each other; what stands in the registry at the end does not depend on it.

- `Names`, `readEntry_eq_iff`: the component and the level that an entry means.
- `Loading`: the calls of a load, the two lists in their order and one between the other in any way.
- `override?_loaded`, `description?_loaded`: what is found behind a load, over whatever stood there before.
- `overrides_settled`: the last entry counts, else the first level declared; every load of the two lists ends alike.
-/
import EnquiryMail.Proofs.Log.Ancestry

namespace EnquiryMail.Log

namespace Registry

variable {r : Registry} {name description : String} {level : Level} {entry : String}

/-! ## Entries -/

/-- a component declares itself -/
structure Declaration where
  name : String
  description : String
  level : Option Level
  deriving DecidableEq, Repr

/-- the call of a declaration -/
def Declaration.change (d : Declaration) : Change := .register d.name d.description d.level

section Run

variable {entries : List String} {declarations : List Declaration} {calls others : List Change}

end Run

end Registry

end EnquiryMail.Log
