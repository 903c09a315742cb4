/-
Agendas: things due at given times, in the order they were set. The next thing is the one due first; of several due
at the same time, the one set first.

`next?_length`: taking a thing off makes the agenda shorter by one.
-/

namespace EnquiryMail.Net

/-- things with their due times, in the order they were set -/
abbrev Agenda (α : Type) := List (Int × α)

namespace Agenda

variable {α : Type}

/-- sets a thing, due at a time -/
def set (a : Agenda α) (due : Int) (x : α) : Agenda α := a ++ [(due, x)]

/-- takes off whatever satisfies a test -/
def cancel (a : Agenda α) (p : α → Bool) : Agenda α := a.filter fun e => !p e.2

/-- the next thing with its time, and the agenda without it -/
def next? : Agenda α → Option ((Int × α) × Agenda α)
  | [] => none
  | e :: rest =>
    match next? rest with
    | none => some (e, [])
    | some (f, others) => if f.1 < e.1 then some (f, e :: others) else some (e, rest)

theorem next?_length {a : Agenda α} {e : Int × α} {rest : Agenda α} (h : a.next? = some (e, rest)) :
    a.length = rest.length + 1 := by
  induction a generalizing e rest with
  | nil => simp [next?] at h
  | cons x xs ih =>
    simp only [next?] at h
    cases hx : next? xs with
    | none =>
      cases xs with
      | nil => simp only [hx] at h; cases h; rfl
      | cons y ys =>
        exfalso
        simp only [next?] at hx
        cases hy : next? ys with
        | none => simp [hy] at hx
        | some p => simp only [hy] at hx; split at hx <;> simp at hx
    | some p =>
      obtain ⟨f, others⟩ := p
      simp only [hx] at h
      have := ih hx
      split at h
      · cases h; simp; omega
      · cases h; simp

end Agenda

end EnquiryMail.Net
