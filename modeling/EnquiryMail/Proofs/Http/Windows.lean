/-
What a limit remembers of a client. Its windows are as long as the limit says and open at the first hit while none is
open; a client is forgotten only when its window is over, so forgetting changes nothing.

- `windowStart`: where the window of a hit begins, by where the last one began.
- `Stands`: a limit has counted so many hits of a client in a window with a given start.
- `hit_of_stands`: a hit is counted in its window.
- `stands_put`, `takeBack_put`: what is put down for a client stands, and a hit taken back is put down as not made.
-/
import EnquiryMail.Http.Limiter
import EnquiryMail.Proofs.Number.Exact

namespace EnquiryMail.Http

open Time (farthest longestDelay)

/-! ## Windows -/

/-- an instant that can be named -/
def InRange (t : Int) : Prop := -farthest ≤ t ∧ t ≤ farthest

/-- when a window of a length closes that opens at an instant; not at all if that could not be named -/
def closing (length : Nat) (start : Int) : Option Int :=
  if start + length ≤ farthest then some (start + length) else none

/-- the start of the window in which a hit is counted, by the start of the last window -/
def windowStart (length : Nat) : Option Int → Int → Int
  | none, t => t
  | some start, t => if t < start + length then start else t

variable {length : Nat} {start t : Int}

theorem instant?_intCast {z : Int} (h : InRange z) : Time.instant? (.finite z) = some z := by
  have hden : ((z : Int) : Rat).den = 1 := rfl
  simp only [Time.instant?, Number.trunc_intCast, Number.toInt?, hden, if_true, Rat.num_intCast]
  exact if_pos h

theorem instant?_of_lt {z : Int} (h : farthest < z) : Time.instant? (.finite z) = none := by
  have hden : ((z : Int) : Rat).den = 1 := rfl
  simp only [Time.instant?, Number.trunc_intCast, Number.toInt?, hden, if_true, Rat.num_intCast]
  exact if_neg (by omega)

theorem ofInt_of_inRange (ht : InRange t) : Number.ofInt t = .finite t := by
  have hsmall : t.natAbs < 2 ^ 53 := by
    obtain ⟨hlow, hhigh⟩ := ht
    simp only [farthest] at hlow hhigh
    omega
  exact Number.nearest_intCast hsmall

theorem opened_eq (ht : InRange t) (hlong : length ≤ longestDelay) :
    Window.opened t (.finite length) = ⟨0, closing length t⟩ := by
  obtain ⟨hlow, hhigh⟩ := id ht
  simp only [farthest] at hlow hhigh
  simp only [longestDelay] at hlong
  have hsum : ((t : Int) : Rat) + (length : Rat) = ((t + length : Int) : Rat) := by push_cast; rfl
  have hsmall : (t + length : Int).natAbs < 2 ^ 53 := by omega
  have hend : Number.add (Number.ofInt t) (.finite length) = .finite ((t + length : Int) : Rat) := by
    rw [ofInt_of_inRange ht, Number.add, hsum, Number.nearest_intCast hsmall]
  rw [Window.opened, hend, closing]
  split
  · rename_i hnamed
    rw [instant?_intCast ⟨by simp only [farthest]; omega, hnamed⟩]
  · rename_i hnamed
    rw [instant?_of_lt (by omega)]

theorem isOver_closing {hits : Nat} (ht : InRange t) :
    Window.isOver ⟨hits, closing length start⟩ t = decide (start + length ≤ t) := by
  obtain ⟨-, hhigh⟩ := ht
  rw [closing]
  split
  · rfl
  · rename_i hnamed
    exact (decide_eq_false (by omega)).symm

theorem windowStart_le {past : Option Int} (hpast : ∀ s, past = some s → s ≤ t) : windowStart length past t ≤ t := by
  cases past with
  | none => exact le_refl t
  | some s =>
    rw [windowStart]
    split
    · exact hpast s rfl
    · exact le_refl t

theorem lt_windowStart (hpos : 1 ≤ length) (past : Option Int) (t : Int) :
    t < windowStart length past t + length := by
  cases past with
  | none =>
    rw [windowStart]
    omega
  | some s =>
    rw [windowStart]
    split
    · assumption
    · omega

/-! ## What is remembered -/

namespace Limiter

/-- a limit has counted hits of a client in a window with a start, or knows nothing of it -/
def Stands (l : Limiter) (length : Nat) (client : String) : Option (Int × Nat) → Prop
  | none => l.clients.lookup client = none
  | some (start, hits) =>
    ∃ seen, l.clients.lookup client = some ⟨⟨hits, closing length start⟩, seen⟩ ∧ l.sweeps start ≤ seen

/-- the hits that count when a client comes, by its last window -/
def counted (length : Nat) : Option (Int × Nat) → Int → Nat
  | none, _ => 0
  | some (start, hits), t => if t < start + length then hits else 0

variable {l : Limiter} {client : String} {past : Option (Int × Nat)}

theorem sweeps_mono {s t : Int} (h : s ≤ t) : l.sweeps s ≤ l.sweeps t := by
  have hsub : s - l.began ≤ t - l.began := Int.sub_le_sub_right h _
  exact Nat.div_le_div_right (Int.toNat_le_toNat hsub)

/-- within the length of a window there is one sweep at most -/
theorem sweeps_within (hlength : l.length = .finite length) (hpos : 1 ≤ length) (hlong : length ≤ longestDelay)
    (h : t < start + length) : l.sweeps t ≤ l.sweeps start + 1 := by
  have hdelay : Time.delayOf l.length = length := by rw [hlength, Time.delayOf_natCast hpos hlong]
  have hfar : (t - l.began).toNat ≤ (start - l.began).toNat + length := by omega
  rw [sweeps, sweeps, hdelay]
  refine (Nat.div_le_div_right hfar).trans ?_
  rw [Nat.add_div_right _ hpos]

/-- a client is known until two sweeps have passed it by -/
theorem find?_of_lookup {w : Window} {seen : Nat} (h : l.clients.lookup client = some ⟨w, seen⟩) :
    l.find? client t = if l.sweeps t < seen + 2 then some w else none := by
  rw [find?, h]
  split <;> simp_all [Option.filter]

theorem find?_of_lookup_none (h : l.clients.lookup client = none) : l.find? client t = none := by
  rw [find?, h]
  rfl

/-- **A hit is counted in its window.** -/
theorem hit_of_stands (hlength : l.length = .finite length) (hpos : 1 ≤ length) (hlong : length ≤ longestDelay)
    (h : l.Stands length client past) (ht : InRange t) :
    l.hit client t =
      (⟨counted length past t + 1, closing length (windowStart length (past.map Prod.fst) t)⟩,
        l.put client t ⟨counted length past t + 1, closing length (windowStart length (past.map Prod.fst) t)⟩) := by
  have hopened := opened_eq ht hlong
  have hfresh : (Window.opened t (.finite length)).hit t (.finite length) = ⟨1, closing length t⟩ := by
    have hopen : ¬ t + length ≤ t := by omega
    rw [hopened, Window.hit, isOver_closing ht, if_neg (by simpa using hopen)]
  suffices hwindow : ((l.find? client t).getD (Window.opened t (.finite length))).hit t (.finite length) =
      ⟨counted length past t + 1, closing length (windowStart length (past.map Prod.fst) t)⟩ by
    rw [hit, hlength, hwindow]
  cases past with
  | none =>
    rw [find?_of_lookup_none h]
    exact hfresh
  | some past =>
    obtain ⟨start, hits⟩ := past
    obtain ⟨seen, hlookup, hseen⟩ := h
    rw [find?_of_lookup hlookup]
    by_cases hopen : t < start + length
    · have hknown : l.sweeps t < seen + 2 := by
        have hsweeps := sweeps_within hlength hpos hlong hopen
        omega
      have hover : ¬ start + length ≤ t := by omega
      rw [if_pos hknown, Option.getD_some, Window.hit, isOver_closing ht, if_neg (by simpa using hover)]
      simp only [counted, windowStart, Option.map_some, if_pos hopen]
    · have hover : start + length ≤ t := by omega
      have hnew : counted length (some (start, hits)) t = 0 ∧
          windowStart length ((some (start, hits)).map Prod.fst) t = t := ⟨if_neg hopen, if_neg hopen⟩
      rw [hnew.1, hnew.2]
      split
      · rw [Option.getD_some, Window.hit, isOver_closing ht, if_pos (by simpa using hover), hopened]
      · exact hfresh

/-- what is put down for a client stands -/
theorem stands_put {hits : Nat} (hstart : start ≤ t) :
    (l.put client t ⟨hits, closing length start⟩).Stands length client (some (start, hits)) := by
  refine ⟨l.sweeps t, ?_, sweeps_mono hstart⟩
  simp [put]

theorem lookup_filter_ne {other : String} (hne : client ≠ other) (clients : List (String × Entry)) :
    (clients.filter fun e => e.1 ≠ other).lookup client = clients.lookup client := by
  induction clients with
  | nil => rfl
  | cons e clients ih =>
    by_cases he : e.1 = other
    · have hother : (client == e.1) = false := by rw [he]; exact beq_false_of_ne hne
      rw [List.filter_cons_of_neg (by simpa using he), List.lookup_cons, hother, ih]
    · rw [List.filter_cons_of_pos (by simpa using he), List.lookup_cons, List.lookup_cons, ih]

/-- what stands for another client is left alone -/
theorem Stands.put_of_ne {other : String} {w : Window} (h : l.Stands length client past) (hne : client ≠ other) :
    (l.put other t w).Stands length client past := by
  have hlookup : (l.put other t w).clients.lookup client = l.clients.lookup client := by
    have hother : (client == other) = false := beq_false_of_ne hne
    rw [put, List.lookup_cons, hother, lookup_filter_ne hne]
  cases past with
  | none => exact hlookup.trans h
  | some past =>
    obtain ⟨seen, hseen, hsweeps⟩ := h
    exact ⟨seen, hlookup.trans hseen, hsweeps⟩

/-- a hit that is taken back is put down as not made -/
theorem takeBack_put {w : Window} :
    (l.put client t w).takeBack client t = l.put client t { w with hits := w.hits - 1 } := by
  rw [takeBack, find?_put]
  have hclients : (l.put client t w).clients.filter (fun e => e.1 ≠ client) =
      l.clients.filter fun e => e.1 ≠ client := by
    simp [put]
  simp only [put] at hclients ⊢
  rw [hclients]
  rfl

end Limiter

end EnquiryMail.Http
