/-
The list of components and the levels that hold. The list reports a component's own level, or the one that holds for
all; what is written goes by the nearest level along the name. The two part where a component has no level of its own
and an ancestor has another one than holds for all, and for the empty name, whose own level is listed and never asked
for.

- `mem_statuses`: the list has a line for each component, with its own level or the one for all.
- `Told`: when a line says the level that holds.
- `levels_listed`: what the list is after any calls, and which of its lines can be relied on.
- `levels_mislisted`: a line that says less than is written, and one that says more.
-/
import EnquiryMail.Proofs.Log.Overrides

namespace EnquiryMail.Log

/-- two levels that let the same messages through are one -/
theorem Level.enabled_injective {a b : Level} (h : ∀ m : Level, m.enabled a = m.enabled b) : a = b := by
  have hab : a.rank ≤ b.rank := by simpa [enabled] using h b
  have hba : b.rank ≤ a.rank := by simpa [enabled] using h a
  have hrank : a.rank = b.rank := Nat.le_antisymm hab hba
  cases a <;> cases b <;> first | rfl | cases hrank

namespace Registry

variable {r : Registry} {g : Level}

/-- the line of a component in the list -/
def statusOf (g : Level) (name : String) (c : Component) : ComponentStatus :=
  ⟨name, c.description, c.level.getD g, c.level.isSome⟩

/-- the list is the lines of the components in another order -/
theorem statuses_perm (r : Registry) (g : Level) :
    (r.statuses g).Perm (r.map fun p => statusOf g p.1 p.2) := by
  unfold statuses Text.Collation.sortBy
  refine ((List.mergeSort_perm _ _).map _).trans (.of_eq ?_)
  rw [List.map_map]
  exact List.map_id _

/-- **The list has one line for each component**, and no other. -/
theorem mem_statuses (h : Distinct r) {s : ComponentStatus} :
    s ∈ r.statuses g ↔ ∃ c, r.find? s.name = some c ∧ s = statusOf g s.name c := by
  rw [(statuses_perm r g).mem_iff, List.mem_map]
  constructor
  · rintro ⟨⟨name, c⟩, hmem, rfl⟩
    exact ⟨c, (find?_eq_some h).2 hmem, rfl⟩
  · rintro ⟨c, hfind, hs⟩
    exact ⟨(s.name, c), (find?_eq_some h).1 hfind, hs.symm⟩

theorem nodup_statuses (h : Distinct r) : ((r.statuses g).map (·.name)).Nodup := by
  have hnames := ((statuses_perm r g).map (·.name)).nodup_iff
  rw [List.map_map] at hnames
  exact hnames.2 h

theorem effective_of_mem (h : Distinct r) {s : ComponentStatus} (hs : s ∈ r.statuses g) :
    s.effective = (r.override? s.name).getD g ∧ s.overridden = (r.override? s.name).isSome := by
  obtain ⟨c, hfind, hs⟩ := (mem_statuses h).1 hs
  rw [override?, hfind, hs]
  exact ⟨rfl, rfl⟩

/-- the line of a name says the level that holds for it: it has one of its own, and is not the empty name, or the level
of its nearest ancestor with one is the level for all -/
def Told (r : Registry) (g : Level) (name : String) : Prop :=
  match r.override? name with
  | some level => name = "" → level = g
  | none => r.inherited name g = g

/-- **A line says the level that holds** exactly when the name is told. -/
theorem told_iff (name : String) : (r.override? name).getD g = r.effective name g ↔ r.Told g name := by
  unfold Told
  by_cases hname : name = ""
  · subst hname
    cases r.override? "" <;> simp [effective_empty, inherited, lineage]
  · rw [effective_eq r hname]
    cases r.override? name <;> simp [hname, eq_comm]

/-- what the list of components is good for -/
structure Listed (r : Registry) (g : Level) : Prop where
  /-- no component is listed twice -/
  once : ((r.statuses g).map (·.name)).Nodup
  /-- each one is listed as it was described, with its own level or the one for all -/
  lines : ∀ s, s ∈ r.statuses g ↔ ∃ c, r.find? s.name = some c ∧ s = statusOf g s.name c
  /-- the line of a component says the level that holds exactly when its name is told -/
  level : ∀ s ∈ r.statuses g, s.effective = r.effective s.name g ↔ r.Told g s.name
  /-- then its messages are written as the line says, and otherwise some message is not -/
  written : ∀ s ∈ r.statuses g, (∀ m : Level, r.shouldLog s.name m g = m.enabled s.effective) ↔ r.Told g s.name

/-- **The list of components**, after any calls and for any level. -/
theorem levels_listed (changes : List Change) (g : Level) : Listed (run changes) g := by
  have hdistinct := distinct_run changes
  have hlevel : ∀ s ∈ (run changes).statuses g,
      s.effective = (run changes).effective s.name g ↔ (run changes).Told g s.name := by
    intro s hs
    rw [(effective_of_mem hdistinct hs).1]
    exact told_iff s.name
  refine ⟨nodup_statuses hdistinct, fun s => mem_statuses hdistinct, hlevel, ?_⟩
  intro s hs
  rw [← hlevel s hs]
  constructor
  · intro h
    exact (Level.enabled_injective h).symm
  · intro h m
    rw [shouldLog, h]

/-- **The list says another level than holds**: a part of a component that is traced is listed with the level for all,
though its trace messages are written, and a level of the empty name is listed, though it is never asked for. -/
theorem levels_mislisted :
    let part := run [.setLevel "smtp" .trace, .register "smtp.session" "Session" none]
    let nobody := run [.setLevel "" .trace]
    (⟨"smtp.session", "Session", .info, false⟩ ∈ part.statuses .info ∧ part.effective "smtp.session" .info = .trace ∧
      part.shouldLog "smtp.session" .trace .info = true ∧ Level.enabled .trace .info = false) ∧
    ⟨"", "", .trace, true⟩ ∈ nobody.statuses .info ∧ nobody.effective "" .info = .info := by
  refine ⟨⟨?_, by decide +kernel, by decide +kernel, rfl⟩, ?_, rfl⟩
  · exact (mem_statuses (distinct_run _)).2 ⟨⟨"Session", none⟩, by decide +kernel, rfl⟩
  · exact (mem_statuses (distinct_run _)).2 ⟨⟨"", some .trace⟩, by decide +kernel, rfl⟩

end Registry

end EnquiryMail.Log
