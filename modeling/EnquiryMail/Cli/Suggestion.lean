/-
Suggestions for a mistyped word: the known words that few enough edits lead to. An edit puts in, takes out or
replaces one unit, or swaps two neighbours. At most three edits count, fewer than three fifths of the longer word,
and only words that need the fewest are suggested, in the order of the collation.
-/
import EnquiryMail.Text.Collation
import EnquiryMail.Text.Units

namespace EnquiryMail.Cli

/-- whether `n` edits lead from one word to another -/
def reachable {α : Type} [DecidableEq α] : Nat → List α → List α → Bool
  | _, [], [] => true
  | 0, a :: as, b :: bs => a = b && reachable 0 as bs
  | 0, _, _ => false
  | n + 1, _ :: as, [] => reachable n as []
  | n + 1, [], _ :: bs => reachable n [] bs
  | n + 1, a :: as, b :: bs =>
    (a = b && reachable (n + 1) as bs) || reachable n as (b :: bs) || reachable n (a :: as) bs || reachable n as bs ||
      (match as, bs with
        | a' :: as', b' :: bs' => a = b' && a' = b && reachable n as' bs'
        | _, _ => false)
termination_by _ as bs => as.length + bs.length

/-- the most edits that count -/
def mostEdits : Nat := 3

/-- the number of edits between two words, if it counts -/
def edits? {α : Type} [DecidableEq α] (as bs : List α) : Option Nat :=
  (List.range (mostEdits + 1)).find? fun n => reachable n as bs

/-- the number of edits to a candidate, if it is close enough to be suggested -/
def closeness? (word candidate : List Char) : Option Nat :=
  let a := word.flatMap Text.codeUnits
  let b := candidate.flatMap Text.codeUnits
  if b.length ≤ 1 then none
  else (edits? a b).filter fun n => 5 * n < 3 * max a.length b.length

/-- drops the two dashes of a flag -/
def withoutDashes (word : List Char) : List Char := word.drop 2

/-- the best of several candidates -/
def closest (word : List Char) (candidates : List (List Char)) : List (List Char) :=
  let rated := candidates.filterMap fun c => (closeness? word c).map fun n => (n, c)
  let best := rated.foldl (fun n r => min n r.1) mostEdits
  Text.Collation.sortBy id ((rated.filter fun r => r.1 = best).map (·.2))

/-- the words to suggest for a word; flags are compared and suggested without regard to their dashes -/
def suggestions (word : String) (candidates : List String) : List String :=
  let cs := candidates.eraseDups.map String.toList
  if word.startsWith "--" then
    (closest (withoutDashes word.toList) (cs.map withoutDashes)).map fun c => "--" ++ String.ofList c
  else (closest word.toList cs).map String.ofList

/-- suggestions as they stand behind an error -/
def suggestionText : List String → String
  | [] => ""
  | [word] => "\n(Did you mean " ++ word ++ "?)"
  | words => "\n(Did you mean one of " ++ String.intercalate ", " words ++ "?)"

end EnquiryMail.Cli
