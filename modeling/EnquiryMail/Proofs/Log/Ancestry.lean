/-
Whose level holds for a component. A name is looked up by climbing: if it has no level of its own, what stands in front
of its last dot is looked up instead, until nothing is left. The names met on the way are the ones that cover it, the
longest first; so the level of the longest name with one holds, and giving a name a level, or taking it away, matters
to the names that it covers and to no other.

- `climb`: the search as it goes; each step leaves a shorter name.
- `Covers`: a name covers itself, and every name that goes on behind a dot.
- `mem_lineage`, `lineage_sorted`: the names on the way are those that cover the name, the longest first.
- `nearest_override`: which level holds, and for whom a change of one component's level matters.
-/
import Mathlib.Data.List.TakeWhile
import EnquiryMail.Proofs.Log.Overrides

namespace EnquiryMail.Log

namespace Registry

variable {r : Registry} {g level : Level} {name p q : String}

/-! ## The last place of a character -/

theorem ne_of_mem_reverse {c : Char} {cs : List Char} (h : c ∉ cs) : ∀ d ∈ cs.reverse, d ≠ c := by
  rintro d hd rfl
  exact h (List.mem_reverse.1 hd)

theorem exists_last {c : Char} {cs : List Char} (h : c ∈ cs) : ∃ as bs, cs = as ++ c :: bs ∧ c ∉ bs := by
  obtain ⟨bs, as, hcs, hbs⟩ := List.eq_append_cons_of_mem (List.mem_reverse.2 h)
  refine ⟨as.reverse, bs.reverse, ?_, by rwa [List.mem_reverse]⟩
  rw [← List.reverse_reverse cs, hcs]
  simp

/-! ## Climbing -/

/-- what stands in front of the last dot of a name -/
def parent (name : String) : String :=
  String.ofList ((name.toList.reverse.dropWhile (· ≠ '.')).tail.reverse)

theorem parent_of_not_mem (h : '.' ∉ name.toList) : parent name = "" := by
  rw [parent, List.dropWhile_eq_nil_iff.2 fun c hc => decide_eq_true (ne_of_mem_reverse h c hc)]
  rfl

theorem parent_of_last_dot {as bs : List Char} (hname : name.toList = as ++ '.' :: bs) (h : '.' ∉ bs) :
    parent name = String.ofList as := by
  rw [parent, hname, List.reverse_append, List.reverse_cons, List.append_assoc,
    List.dropWhile_append_of_pos fun c hc => decide_eq_true (ne_of_mem_reverse h c hc)]
  simp

/-- climbing leaves a shorter name, so it comes to an end -/
theorem length_parent_lt (hname : name ≠ "") : (parent name).length < name.length := by
  have hpos : 0 < name.length := Nat.pos_of_ne_zero fun h => hname (String.length_eq_zero_iff.1 h)
  by_cases hdot : '.' ∈ name.toList
  · obtain ⟨as, bs, hcs, hbs⟩ := exists_last hdot
    rw [parent_of_last_dot hcs hbs, String.length_ofList, ← String.length_toList, hcs, List.length_append,
      List.length_cons]
    omega
  · rw [parent_of_not_mem hdot]
    exact hpos

/-- the level met first when climbing from a name to what stands in front of its last dot, until nothing is left -/
def climb (r : Registry) (fallback : Level) (name : String) : Level :=
  if _hname : name = "" then fallback
  else
    match r.override? name with
    | some level => level
    | none => climb r fallback (parent name)
termination_by name.length
decreasing_by exact length_parent_lt ‹_›

/-! ## The names on the way -/

theorem stems_append (before as bs : List Char) :
    stems before (as ++ bs) = stems before as ++ stems (as.reverse ++ before) bs := by
  induction as generalizing before with
  | nil => rfl
  | cons a as ih => simp [stems, ih]

theorem stems_of_not_mem {cs : List Char} (h : '.' ∉ cs) (before : List Char) : stems before cs = [] := by
  induction cs generalizing before with
  | nil => rfl
  | cons c cs ih =>
    rw [List.mem_cons, not_or] at h
    rw [stems, if_neg (fun hdot => h.1 hdot.1.symm), ih h.2]
    rfl

/-- the names met when climbing are the name itself and those met from its parent -/
theorem lineage_eq (hname : name ≠ "") : lineage name = name :: lineage (parent name) := by
  have htail : (stems [] name.toList).reverse.map String.ofList = lineage (parent name) := by
    by_cases hdot : '.' ∈ name.toList
    · obtain ⟨as, bs, hcs, hbs⟩ := exists_last hdot
      rw [parent_of_last_dot hcs hbs, hcs, stems_append, stems, stems_of_not_mem hbs, lineage, String.toList_ofList]
      by_cases has : as = []
      · subst has
        rfl
      · have hne : String.ofList as ≠ "" := by
          rw [Ne, ← String.toList_eq_nil_iff, String.toList_ofList]
          exact has
        rw [if_pos ⟨rfl, by simpa using has⟩, if_neg hne]
        simp
    · rw [stems_of_not_mem hdot, parent_of_not_mem hdot]
      rfl
  rw [lineage, if_neg hname, htail]

/-- a name covers itself, and every name that goes on behind a dot -/
def Covers (p name : String) : Prop := p ≠ "" ∧ (name = p ∨ ∃ rest, name = p ++ "." ++ rest)

theorem Covers.length_le (h : Covers p name) : p.length ≤ name.length := by
  obtain ⟨-, rfl | ⟨rest, rfl⟩⟩ := h
  · exact le_rfl
  · rw [String.append_assoc, String.length_append]
    omega

/-- nothing covers the empty name -/
theorem not_covers_empty : ¬Covers p "" := fun h => h.1 (String.length_eq_zero_iff.1 (Nat.le_zero.1 h.length_le))

theorem mem_stems {before cs s : List Char} :
    s ∈ stems before cs ↔ s ≠ [] ∧ ∃ as bs, cs = as ++ '.' :: bs ∧ s = before.reverse ++ as := by
  induction cs generalizing before with
  | nil => simp [stems]
  | cons c cs ih =>
    rw [stems, List.mem_append, ih]
    constructor
    · rintro (hhead | ⟨hne, as, bs, rfl, rfl⟩)
      · split at hhead
        · rename_i hdot
          rw [List.mem_singleton] at hhead
          subst hhead
          exact ⟨by simpa using hdot.2, [], cs, by rw [hdot.1]; rfl, (List.append_nil _).symm⟩
        · cases hhead
      · exact ⟨hne, c :: as, bs, rfl, by simp⟩
    · rintro ⟨hne, as, bs, hcs, rfl⟩
      cases as with
      | nil =>
        obtain ⟨rfl, rfl⟩ := List.cons.inj hcs
        left
        rw [List.append_nil] at hne ⊢
        rw [if_pos ⟨rfl, by simpa using hne⟩]
        exact List.mem_singleton_self _
      | cons a as =>
        obtain ⟨rfl, rfl⟩ := List.cons.inj hcs
        exact .inr ⟨hne, as, bs, rfl, by simp⟩

/-- **The names met when climbing** are those that cover the name. -/
theorem mem_lineage : p ∈ lineage name ↔ Covers p name := by
  by_cases hname : name = ""
  · subst hname
    exact iff_of_false List.not_mem_nil not_covers_empty
  · rw [lineage, if_neg hname, List.mem_cons, List.mem_map]
    simp only [List.mem_reverse, mem_stems, List.reverse_nil, List.nil_append]
    constructor
    · rintro (rfl | ⟨_, ⟨hne, as, bs, hcs, rfl⟩, rfl⟩)
      · exact ⟨hname, .inl rfl⟩
      · refine ⟨by simpa [← String.toList_eq_nil_iff] using hne, .inr ⟨String.ofList bs, ?_⟩⟩
        rw [← String.toList_inj, hcs]
        simp
    · rintro ⟨hp, rfl | ⟨rest, rfl⟩⟩
      · exact .inl rfl
      · refine .inr ⟨p.toList, ⟨by simpa using hp, p.toList, rest.toList, by simp, rfl⟩, String.ofList_toList⟩

/-- **The longest are met first.** -/
theorem lineage_sorted (name : String) : (lineage name).Pairwise fun a b => b.length < a.length := by
  induction hlen : name.length using Nat.strong_induction_on generalizing name with
  | _ n ih =>
    subst hlen
    by_cases hname : name = ""
    · subst hname
      exact List.Pairwise.nil
    · rw [lineage_eq hname, List.pairwise_cons]
      have hshorter := length_parent_lt hname
      refine ⟨?_, ih _ hshorter _ rfl⟩
      intro q hq
      exact lt_of_le_of_lt (mem_lineage.1 hq).length_le hshorter

/-! ## The level that holds -/

/-- the level of `p` is the one for a name: no longer name that covers it has a level -/
structure Governs (r : Registry) (p : String) (level : Level) (name : String) : Prop where
  covers : Covers p name
  own : r.override? p = some level
  longest : ∀ q, Covers q name → (r.override? q).isSome = true → q.length ≤ p.length

theorem findSome?_lineage : (lineage name).findSome? r.override? = some level ↔ ∃ p, r.Governs p level name := by
  have hsorted := lineage_sorted name
  constructor
  · intro h
    obtain ⟨longer, p, shorter, hlineage, hown, hnone⟩ := List.findSome?_eq_some_iff.1 h
    have hmem : p ∈ lineage name := hlineage ▸ List.mem_append_right _ List.mem_cons_self
    refine ⟨p, mem_lineage.1 hmem, hown, ?_⟩
    intro q hq hsome
    rw [hlineage, List.pairwise_append, List.pairwise_cons] at hsorted
    have hq := mem_lineage.2 hq
    rw [hlineage, List.mem_append, List.mem_cons] at hq
    rcases hq with hlong | rfl | hshort
    · rw [hnone q hlong] at hsome
      cases hsome
    · exact le_rfl
    · exact (hsorted.2.1.1 q hshort).le
  · rintro ⟨p, hcovers, hown, hlongest⟩
    obtain ⟨longer, shorter, hlineage⟩ := List.append_of_mem (mem_lineage.2 hcovers)
    refine List.findSome?_eq_some_iff.2 ⟨longer, p, shorter, hlineage, hown, ?_⟩
    intro q hq
    rw [hlineage, List.pairwise_append] at hsorted
    have hlonger : p.length < q.length := hsorted.2.2 q hq p List.mem_cons_self
    have hcovers : Covers q name := mem_lineage.1 (hlineage ▸ List.mem_append_left _ hq)
    by_contra hsome
    exact absurd (hlongest q hcovers (Option.isSome_iff_ne_none.2 hsome)) (Nat.not_le.2 hlonger)

/-- **The level that holds** is that of the longest covering name with one, or the given one if none has. -/
theorem effective_eq_iff : r.effective name g = level ↔
    (∃ p, r.Governs p level name) ∨ (∀ p, Covers p name → r.override? p = none) ∧ level = g := by
  have hnone : (lineage name).findSome? r.override? = none ↔ ∀ p, Covers p name → r.override? p = none := by
    simp only [List.findSome?_eq_none_iff, mem_lineage]
  rw [← hnone, ← findSome?_lineage, effective]
  cases (lineage name).findSome? r.override? <;> simp [eq_comm]

/-- climbing finds the level that holds -/
theorem climb_eq (name : String) : r.climb g name = r.effective name g := by
  fun_induction climb r g name with
  | case1 => rfl
  | case2 name hname level hown => rw [effective_of_override r name level g hname hown]
  | case3 name hname hnone ih =>
    rw [ih, effective_eq r hname, hnone, inherited, lineage_eq hname]
    rfl

/-- a name comes under the level of `p` when `p` is given one: `p` covers it, and no longer name that does has a level -/
def Reaches (r : Registry) (p name : String) : Prop :=
  Covers p name ∧ ∀ q, Covers q name → p.length < q.length → r.override? q = none

/-- **A name that `p` does not reach keeps its level** when the level of `p` alone changes. -/
theorem effective_of_not_reaches {r' : Registry} (hother : ∀ q, q ≠ p → r'.override? q = r.override? q)
    (hp : ¬r.Reaches p name) : r'.effective name g = r.effective name g := by
  rw [effective_eq_iff]
  rcases effective_eq_iff.1 (rfl : r.effective name g = r.effective name g) with ⟨q, hq⟩ | ⟨hnone, hg⟩
  · -- the name with the level is not `p`, and `p` is no longer than it
    left
    have hlonger : ∀ s, Covers s name → q.length < s.length → r.override? s = none := by
      intro s hs hlt
      by_contra hsome
      exact absurd (hq.longest s hs (Option.isSome_iff_ne_none.2 hsome)) (Nat.not_le.2 hlt)
    have hne : q ≠ p := by
      rintro rfl
      exact hp ⟨hq.covers, hlonger⟩
    refine ⟨q, hq.covers, (hother q hne).trans hq.own, ?_⟩
    intro s hs hsome
    by_cases hsp : s = p
    · subst hsp
      by_contra hlt
      exact hp ⟨hs, fun t ht hlt' => hlonger t ht ((Nat.not_le.1 hlt).trans hlt')⟩
    · rw [hother s hsp] at hsome
      exact hq.longest s hs hsome
  · right
    refine ⟨?_, hg⟩
    intro s hs
    have hne : s ≠ p := by
      rintro rfl
      exact hp ⟨hs, fun t ht _ => hnone t ht⟩
    rw [hother s hne, hnone s hs]

/-- **A name that `p` reaches has its level** once it is given one. -/
theorem effective_setLevel (h : r.Reaches p name) (level : Level) : (r.setLevel p level).effective name g = level := by
  rw [effective_eq_iff]
  refine .inl ⟨p, h.1, by rw [override?_setLevel, if_pos rfl], ?_⟩
  intro q hq hsome
  by_contra hlt
  have hne : q ≠ p := by
    rintro rfl
    exact hlt le_rfl
  rw [override?_setLevel, if_neg hne, h.2 q hq (Nat.not_le.1 hlt)] at hsome
  cases hsome

/-- how the levels of a registry are found, and how far the level of one component goes -/
structure Nearest (r : Registry) (g : Level) : Prop where
  /-- climbing comes to an end at the level that holds -/
  climbs : ∀ name, r.climb g name = r.effective name g
  /-- it is the level of the longest covering name that has one, or the one for all if none has -/
  holds : ∀ name level, r.effective name g = level ↔
    (∃ p, r.Governs p level name) ∨ (∀ p, Covers p name → r.override? p = none) ∧ level = g
  /-- a component that is given a level gives it to the names that it reaches, -/
  given : ∀ p level name, r.Reaches p name → (r.setLevel p level).effective name g = level
  /-- and to no other; -/
  unreached : ∀ p level name, ¬r.Reaches p name → (r.setLevel p level).effective name g = r.effective name g
  /-- nor does taking its level away matter to another -/
  untouched : ∀ p name, ¬r.Reaches p name → (r.clearLevel p).effective name g = r.effective name g

/-- **The nearest level holds**, for every name, and a change of one component's level goes as far as it reaches. -/
theorem nearest_override (r : Registry) (g : Level) : Nearest r g where
  climbs := climb_eq
  holds _ _ := effective_eq_iff
  given _ level _ h := effective_setLevel h level
  unreached p level _ h :=
    effective_of_not_reaches (fun q hq => by rw [override?_setLevel, if_neg hq]) h
  untouched p _ h :=
    effective_of_not_reaches (fun q hq => by rw [override?_clearLevel, if_neg hq]) h

end Registry

end EnquiryMail.Log
