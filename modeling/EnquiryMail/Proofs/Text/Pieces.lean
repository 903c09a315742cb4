/-
Lists cut at a separator. The pieces keep all other elements in their order, so what is said of every piece is said of
the list, and lengths add up.

- `splitOn_cons`: what one more element in front does to the pieces.
- `splitOn_map`: renaming the elements renames those of the pieces.
- `of_mem_splitOn`, `mem_piece`: an element of a piece, the piece of an element.
- `length_splitOn`: the lengths of the pieces and the separators.
- `splitOn_last`: what is appended joins the last piece.
- `cutAt?_eq_some`, `cutAt?_eq_none`: a list cut in two at the first separator.
-/
import Mathlib.Algebra.GroupWithZero.Nat
import Mathlib.Data.List.Basic
import EnquiryMail.Text.Blank

namespace EnquiryMail.Text

variable {α : Type} [DecidableEq α]

/-- one more element in front opens a piece if it is a separator, and otherwise joins the first piece -/
theorem splitOn_cons (x a : α) (xs : List α) : ∃ w ws, xs.splitOn x = w :: ws ∧
    (a :: xs).splitOn x = if a = x then [] :: w :: ws else (a :: w) :: ws := by
  obtain ⟨w, ws, hsplit⟩ := List.exists_cons_of_ne_nil (List.splitOn_ne_nil x xs)
  refine ⟨w, ws, hsplit, ?_⟩
  rw [List.splitOn_cons_eq_if_modifyHead, hsplit, List.modifyHead_cons]
  simp only [beq_iff_eq]

theorem splitOn_eq_list (sep : Char) (cs : List Char) : splitOn sep cs = cs.splitOn sep := by
  induction cs with
  | nil => rfl
  | cons c cs ih =>
    obtain ⟨w, ws, hsplit, hcons⟩ := splitOn_cons sep c cs
    rw [splitOn, ih, hsplit, hcons]
    simp only [beq_iff_eq]

/-- renaming what is cut, the separator kept apart -/
theorem splitOn_map {β : Type} [DecidableEq β] {f : α → β} {x : α} {xs : List α}
    (h : ∀ a ∈ xs, f a = f x → a = x) : (xs.map f).splitOn (f x) = (xs.splitOn x).map (List.map f) := by
  induction xs with
  | nil => simp
  | cons a xs ih =>
    obtain ⟨ha, hxs⟩ := List.forall_mem_cons.1 h
    obtain ⟨w, ws, hsplit, hcons⟩ := splitOn_cons x a xs
    rw [List.map_cons, List.splitOn_cons_eq_if_modifyHead, ih hxs, hsplit, hcons]
    by_cases heq : a = x
    · simp [heq]
    · have hne : f a ≠ f x := fun hf => heq (ha hf)
      simp [heq, hne]

/-- an element of a piece is one of the list, and no separator -/
theorem of_mem_splitOn {x a : α} {xs w : List α} (hw : w ∈ xs.splitOn x) (ha : a ∈ w) : a ∈ xs ∧ a ≠ x := by
  induction xs generalizing w with
  | nil =>
    rw [List.splitOn_nil, List.mem_singleton] at hw
    subst hw
    cases ha
  | cons b xs ih =>
    obtain ⟨v, vs, hsplit, hcons⟩ := splitOn_cons x b xs
    have hlater : ∀ u ∈ v :: vs, a ∈ u → a ∈ b :: xs ∧ a ≠ x := fun u hu hau =>
      (ih (hsplit ▸ hu) hau).imp (List.mem_cons_of_mem b) id
    rw [hcons] at hw
    split at hw
    · rcases List.mem_cons.1 hw with rfl | hw
      · cases ha
      · exact hlater w hw ha
    · rename_i hb
      rcases List.mem_cons.1 hw with rfl | hw
      · rcases List.mem_cons.1 ha with rfl | ha
        · exact ⟨List.mem_cons_self, hb⟩
        · exact hlater v List.mem_cons_self ha
      · exact hlater w (List.mem_cons_of_mem v hw) ha

/-- an element stands in a piece, unless it is a separator -/
theorem mem_piece (x : α) {a : α} {xs : List α} (h : a ∈ xs) : a = x ∨ ∃ w ∈ xs.splitOn x, a ∈ w := by
  induction xs with
  | nil => cases h
  | cons b xs ih =>
    obtain ⟨v, vs, hsplit, hcons⟩ := splitOn_cons x b xs
    rw [hsplit] at ih
    rw [hcons]
    split
    · rename_i hb
      rcases List.mem_cons.1 h with rfl | h
      · exact .inl hb
      · exact (ih h).imp id fun ⟨w, hw, ha⟩ => ⟨w, List.mem_cons_of_mem _ hw, ha⟩
    · rcases List.mem_cons.1 h with rfl | h
      · exact .inr ⟨a :: v, List.mem_cons_self, List.mem_cons_self⟩
      refine (ih h).imp id fun ⟨w, hw, ha⟩ => ?_
      rcases List.mem_cons.1 hw with rfl | hw
      · exact ⟨b :: w, List.mem_cons_self, List.mem_cons_of_mem _ ha⟩
      · exact ⟨w, List.mem_cons_of_mem _ hw, ha⟩

/-- the first piece is empty only in front of a separator or the end -/
theorem splitOn_eq_nil_cons {x : α} {xs : List α} {ws : List (List α)} (h : xs.splitOn x = [] :: ws) :
    xs = [] ∨ xs.head? = some x := by
  cases xs with
  | nil => exact .inl rfl
  | cons a xs =>
    obtain ⟨w, ws', -, hcons⟩ := splitOn_cons x a xs
    rw [hcons] at h
    split at h
    · rename_i ha
      exact .inr (congrArg some ha)
    · cases h

/-- the pieces of a list and the separators between them -/
theorem length_splitOn (x : α) (xs : List α) : ((xs.splitOn x).map fun w => w.length + 1).sum = xs.length + 1 := by
  induction xs with
  | nil => simp
  | cons a xs ih =>
    obtain ⟨w, ws, hsplit, hcons⟩ := splitOn_cons x a xs
    rw [hsplit] at ih
    rw [hcons]
    simp only [List.map_cons, List.sum_cons] at ih
    split <;> simp only [List.map_cons, List.sum_cons, List.length_cons, List.length_nil] <;> omega

/-- whatever is appended joins the last piece -/
theorem splitOn_last (x : α) (xs : List α) : ∃ front last, xs = front ++ last ∧
    ∀ tail, x ∉ tail → ∃ ws, (xs ++ tail).splitOn x = ws ++ [last ++ tail] := by
  by_cases hx : x ∈ xs
  · obtain ⟨back, front, hcut, hback⟩ := List.eq_append_cons_of_mem (List.mem_reverse.2 hx)
    have hxs : xs = front.reverse ++ x :: back.reverse := by
      rw [← List.reverse_reverse xs, hcut]
      simp
    refine ⟨front.reverse ++ [x], back.reverse, by simp [hxs], fun tail htail => ⟨front.reverse.splitOn x, ?_⟩⟩
    have hlast : (back.reverse ++ tail).splitOn x = [back.reverse ++ tail] :=
      List.splitOn_eq_singleton (by simp [hback, htail])
    rw [hxs, List.append_assoc, List.cons_append, List.splitOn_append_cons_self, hlast]
  · refine ⟨[], xs, rfl, fun tail htail => ⟨[], ?_⟩⟩
    rw [List.splitOn_eq_singleton (by simp [hx, htail])]
    rfl

/-- what stands in front of the first `x`, and what behind it -/
def cutAt? (x : α) : List α → Option (List α × List α)
  | [] => none
  | a :: xs => if a = x then some ([], xs) else (cutAt? x xs).map fun (front, back) => (a :: front, back)

theorem cutAt?_eq_none {x : α} {xs : List α} : cutAt? x xs = none ↔ x ∉ xs := by
  induction xs with
  | nil => simp [cutAt?]
  | cons a xs ih =>
    by_cases ha : a = x
    · simp [cutAt?, ha]
    · have hx : x ≠ a := fun h => ha h.symm
      simp [cutAt?, ha, ih, hx]

theorem cutAt?_append {x : α} {front : List α} (h : x ∉ front) (back : List α) :
    cutAt? x (front ++ x :: back) = some (front, back) := by
  induction front with
  | nil => exact if_pos rfl
  | cons a front ih =>
    obtain ⟨ha, hfront⟩ := not_or.1 (mt List.mem_cons.2 h)
    rw [List.cons_append, cutAt?, if_neg fun hax => ha hax.symm, ih hfront]
    rfl

theorem cutAt?_eq_some {x : α} {xs front back : List α} :
    cutAt? x xs = some (front, back) ↔ xs = front ++ x :: back ∧ x ∉ front := by
  constructor
  · intro h
    induction xs generalizing front with
    | nil => cases h
    | cons a xs ih =>
      rw [cutAt?] at h
      split at h
      · rename_i ha
        cases h
        exact ⟨by rw [ha]; rfl, nofun⟩
      · rename_i ha
        obtain ⟨⟨front', back'⟩, hcut, heq⟩ := Option.map_eq_some_iff.1 h
        cases heq
        obtain ⟨rfl, hfront⟩ := ih hcut
        exact ⟨rfl, fun hmem => (List.mem_cons.1 hmem).elim (fun hx => ha hx.symm) hfront⟩
  · rintro ⟨rfl, hfront⟩
    exact cutAt?_append hfront back

omit [DecidableEq α] in
theorem head?_intercalate (x a : α) (w : List α) (ws : List (List α)) :
    ([x].intercalate ((a :: w) :: ws)).head? = some a := by
  cases ws <;> simp [List.intercalate_cons_cons]

omit [DecidableEq α] in
/-- what is left out counts for nothing -/
theorem sum_filter (p : α → Bool) (f : α → Nat) (xs : List α) :
    ((xs.filter p).map f).sum = (xs.map fun a => if p a then f a else 0).sum := by
  induction xs with
  | nil => rfl
  | cons a xs ih => by_cases ha : p a = true <;> simp [ha, ih]

end EnquiryMail.Text
