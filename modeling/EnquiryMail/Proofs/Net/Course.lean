/-
The states that a session leads the network through, one after another: for each request what it does at once, and
then every thing that happens while the session waits for the answer.

- `wait_eq_getLastD`, `handle_eq_getLastD`, `run_eq_getLastD`: the state after waiting, after a request and after a
  whole session is the last of those on the way.
- `chain_turns`: what one turn of waiting relates, the turns of a wait relate in a row.
-/
import Mathlib.Data.List.Chain
import Mathlib.Tactic
import EnquiryMail.Net.Network

namespace EnquiryMail.Net.Network

open EnquiryMail.Smtp

variable {α : Type}

/-- the network when the next thing on the queue or the agenda has happened -/
def next? (n : Network) : Option Network :=
  match n.queue with
  | x :: rest => some ({ n with queue := rest }.happen x)
  | [] =>
    match n.agenda.next? with
    | some ((due, x), rest) => some ({ n with agenda := rest, world := { n.world with now := due } }.happen x)
    | none => none

/-- the states on the way while a test does not hold -/
def turns (ready : Network → Bool) : Nat → Network → List Network
  | 0, _ => []
  | fuel + 1, n =>
    if ready n then []
    else
      match n.next? with
      | some n' => n' :: turns ready fuel n'
      | none => []

theorem wait_succ (ready : Network → Bool) (fuel : Nat) (n : Network) :
    wait ready (fuel + 1) n =
      if ready n then n
      else
        match n.next? with
        | some n' => wait ready fuel n'
        | none => n := by
  rw [wait]
  split
  · rfl
  · cases hq : n.queue with
    | cons x rest => simp only [next?, hq]
    | nil => cases ha : n.agenda.next? <;> simp only [next?, hq, ha]

theorem wait_eq_getLastD (ready : Network → Bool) (fuel : Nat) (n : Network) :
    wait ready fuel n = (turns ready fuel n).getLastD n := by
  induction fuel generalizing n with
  | zero => rfl
  | succ fuel ih =>
    rw [wait_succ, turns]
    split
    · rfl
    · split
      · rw [List.getLastD_cons]; exact ih _
      · rfl

theorem chain_turns {R : Network → Network → Prop} (hnext : ∀ n n', n.next? = some n' → R n n')
    (ready : Network → Bool) (fuel : Nat) (n : Network) : List.IsChain R (n :: turns ready fuel n) := by
  induction fuel generalizing n with
  | zero => exact .singleton n
  | succ fuel ih =>
    rw [turns]
    split
    · exact .singleton n
    · split
      · rename_i n' h
        exact .cons_cons (hnext n n' h) (ih n')
      · exact .singleton n

/-- what a request does at once -/
def asked (s : Settings) : Request → Network → Network
  | .openChannel, n => n.dial s
  | .read, n => { n with answer := none }.onConnection (Connection.read n.world.now 0)
  | .startTls, n => { n with upgraded := none }.onConnection (Connection.startTls 0 (trustAnchor n.world s))
  | r, n => (handle s r n).2

/-- the request has its answer, or needs none -/
def settled : Request → Network → Bool
  | .openChannel, n => n.dialed.isSome
  | .read, n => n.answer.isSome
  | .startTls, n => n.upgraded.isSome
  | _, _ => true

/-- the things that happen until a request is answered -/
def waits (s : Settings) (r : Request) (n : Network) : List Network :=
  let n := n.asked s r
  turns (settled r) (2 * (n.queue.length + n.agenda.length) + 2) n

/-- the states from a request to its answer -/
def during (s : Settings) (r : Request) (n : Network) : List Network := n.asked s r :: n.waits s r

theorem handle_eq_getLastD (s : Settings) (r : Request) (n : Network) :
    (handle s r n).2 = (n.during s r).getLastD n := by
  rw [during, List.getLastD_cons]
  cases r
  case openChannel => exact wait_eq_getLastD _ _ _
  case read => exact wait_eq_getLastD _ _ _
  case startTls => exact wait_eq_getLastD _ _ _
  all_goals rfl

/-- the states that a session passes through -/
def course (s : Settings) : Script α → Network → List Network
  | .done _, _ => []
  | .ask r next, n => n.during s r ++ course s (next (handle s r n).1) (handle s r n).2

theorem getLastD_append (a b : List Network) (n : Network) : (a ++ b).getLastD n = b.getLastD (a.getLastD n) := by
  induction a generalizing n with
  | nil => rfl
  | cons x a ih => rw [List.cons_append, List.getLastD_cons, List.getLastD_cons, ih]

theorem chain_append {R : Network → Network → Prop} {a : Network} {l₁ l₂ : List Network}
    (h₁ : List.IsChain R (a :: l₁)) (h₂ : List.IsChain R (l₁.getLastD a :: l₂)) :
    List.IsChain R (a :: (l₁ ++ l₂)) := by
  induction l₁ generalizing a with
  | nil => exact h₂
  | cons b l ih =>
    obtain ⟨hab, hbl⟩ := List.isChain_cons_cons.1 h₁
    rw [List.getLastD_cons] at h₂
    exact .cons_cons hab (ih hbl h₂)

theorem run_eq_getLastD (s : Settings) (p : Script α) (n : Network) :
    (p.run (handle s) n).2 = (course s p n).getLastD n := by
  induction p generalizing n with
  | done a => rfl
  | ask r next ih =>
    rw [course, getLastD_append, ← handle_eq_getLastD]
    exact ih _ _

end EnquiryMail.Net.Network
