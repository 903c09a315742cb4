/-
Delays of alarms: whole milliseconds from 1 to 2 ^ 31 - 1. A number outside these bounds counts as 1.

`delayOf_pos`: an alarm never rings at the moment it is set.
-/
import EnquiryMail.Number.Basic

namespace EnquiryMail.Time

/-- the longest delay -/
def longestDelay : Nat := 2147483647

/-- whole milliseconds until an alarm that is set for so many milliseconds -/
def delayOf (n : Number) : Nat :=
  match n.trunc with
  | .finite q => if 1 ≤ q.num ∧ Number.le n (.finite longestDelay) then q.num.toNat else 1
  | _ => 1

theorem delayOf_pos (n : Number) : 1 ≤ delayOf n := by
  unfold delayOf
  split
  · split
    · omega
    · exact Nat.le_refl 1
  · exact Nat.le_refl 1

end EnquiryMail.Time
