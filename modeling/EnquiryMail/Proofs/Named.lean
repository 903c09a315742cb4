/-
Lists of named values, as objects and registries are kept: giving a name a value replaces the one that it had in its
place, or adds the name behind the others, so a name stands once.

- `lookup_put`, `names_put`, `nodup_put`: what is found, and which names stand there, once a name has been given a value.
- `lookup_eq_some`: what stands under a name is found there.
- `lookup_perm`: the order does not matter to what is found.
-/
import Mathlib.Data.List.Nodup

namespace EnquiryMail.Named

variable {β : Type} {vs ws : List (String × β)} {name other : String} {value : β}

/-- gives a name a value -/
def put (name : String) (value : β) : List (String × β) → List (String × β)
  | [] => [(name, value)]
  | (n, v) :: rest => if name = n then (n, value) :: rest else (n, v) :: put name value rest

theorem lookup_put (name other : String) (value : β) (vs : List (String × β)) :
    (put name value vs).lookup other = if other = name then some value else vs.lookup other := by
  induction vs with
  | nil => by_cases h : other = name <;> simp [put, List.lookup_cons, h, beq_eq_false_iff_ne.2]
  | cons p vs ih =>
    obtain ⟨n, v⟩ := p
    unfold put
    by_cases hn : name = n
    · subst hn
      by_cases h : other = name <;> simp [List.lookup_cons, h, beq_eq_false_iff_ne.2]
    · rw [if_neg hn, List.lookup_cons, List.lookup_cons, ih]
      by_cases h : other = n
      · subst h
        simp [Ne.symm hn]
      · simp [beq_eq_false_iff_ne.2 h]

theorem names_put (name : String) (value : β) (vs : List (String × β)) :
    (put name value vs).map Prod.fst =
      if name ∈ vs.map Prod.fst then vs.map Prod.fst else vs.map Prod.fst ++ [name] := by
  induction vs with
  | nil => rfl
  | cons p vs ih =>
    obtain ⟨n, v⟩ := p
    unfold put
    by_cases hn : name = n
    · simp [hn]
    · rw [if_neg hn, List.map_cons, ih]
      by_cases h : name ∈ vs.map Prod.fst <;> simp_all

/-- a name stands once if it did before -/
theorem nodup_put (h : (vs.map Prod.fst).Nodup) (name : String) (value : β) :
    ((put name value vs).map Prod.fst).Nodup := by
  rw [names_put]
  split
  · exact h
  · rename_i hnew
    rw [List.nodup_append]
    refine ⟨h, List.nodup_singleton name, ?_⟩
    rintro n hn m hm rfl
    rw [List.mem_singleton.1 hm] at hn
    exact hnew hn

theorem put_of_not_mem (h : name ∉ vs.map Prod.fst) (value : β) : put name value vs = vs ++ [(name, value)] := by
  induction vs with
  | nil => rfl
  | cons p vs ih =>
    simp only [List.map_cons, List.mem_cons, not_or] at h
    rw [put, if_neg h.1, ih h.2]
    rfl

theorem lookup_of_not_mem (h : name ∉ vs.map Prod.fst) : vs.lookup name = none := by
  rw [List.lookup_eq_none_iff]
  intro p hp
  refine bne_iff_ne.2 ?_
  rintro rfl
  exact h (List.mem_map_of_mem hp)

/-- what stands under a name is found there -/
theorem lookup_eq_some (h : (vs.map Prod.fst).Nodup) : vs.lookup name = some value ↔ (name, value) ∈ vs := by
  induction vs with
  | nil => simp
  | cons p vs ih =>
    obtain ⟨n, v⟩ := p
    rw [List.map_cons, List.nodup_cons] at h
    rw [List.lookup_cons]
    by_cases hname : name = n
    · subst hname
      have hother : (name, value) ∉ vs := fun hmem => h.1 (List.mem_map.2 ⟨_, hmem, rfl⟩)
      simp [hother, eq_comm]
    · simp [beq_eq_false_iff_ne.2 hname, hname, ih h.2]

/-- the order does not matter to what is found -/
theorem lookup_perm (h : (vs.map Prod.fst).Nodup) (hperm : vs.Perm ws) (name : String) :
    vs.lookup name = ws.lookup name := by
  have hws : (ws.map Prod.fst).Nodup := (hperm.map _).nodup_iff.1 h
  apply Option.ext
  intro value
  rw [lookup_eq_some h, lookup_eq_some hws, hperm.mem_iff]

end EnquiryMail.Named
