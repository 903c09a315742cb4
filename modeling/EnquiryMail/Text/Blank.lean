/-
White space and trimming. The blank characters are tab to carriage return, the space separators, the line and
paragraph separators and the byte order mark; U+0085, U+180E, U+200B and U+2060 are not among them.

`trim_trim`: trimming once is enough.
-/

namespace EnquiryMail.Text

/-- a white space character -/
def isBlank (c : Char) : Bool :=
  let n := c.toNat
  (0x09 ≤ n && n ≤ 0x0D) || n == 0x20 || n == 0xA0 || n == 0x1680 || (0x2000 ≤ n && n ≤ 0x200A) ||
    n == 0x2028 || n == 0x2029 || n == 0x202F || n == 0x205F || n == 0x3000 || n == 0xFEFF

/-- a character that ends a line in the sense of patterns: line feed, carriage return and the two separators -/
def isLineEnd (c : Char) : Bool :=
  c == '\n' || c == '\r' || c.toNat == 0x2028 || c.toNat == 0x2029

/-- `cs` without the blanks in front -/
def trimStart (cs : List Char) : List Char := cs.dropWhile isBlank

/-- `cs` without the blanks behind -/
def trimEnd (cs : List Char) : List Char := (cs.reverse.dropWhile isBlank).reverse

/-- `cs` without the blanks at both ends -/
def trim (cs : List Char) : List Char := trimEnd (trimStart cs)

/-- the non-empty runs of characters that satisfy no `cut` -/
def wordsBy (cut : Char → Bool) : List Char → List (List Char)
  | [] => []
  | c :: cs =>
    if cut c then wordsBy cut cs
    else
      let tail := wordsBy cut cs
      match cs with
      | [] => [c] :: tail
      | d :: _ =>
        if cut d then [c] :: tail
        else match tail with
          | [] => [[c]]
          | w :: ws => (c :: w) :: ws

/-- the white-space-separated words of a text -/
def words (cs : List Char) : List (List Char) := wordsBy isBlank cs

/-- the pieces of `cs` between occurrences of `sep`, empty ones included -/
def splitOn (sep : Char) : List Char → List (List Char)
  | [] => [[]]
  | c :: cs =>
    if c == sep then [] :: splitOn sep cs
    else match splitOn sep cs with
      | [] => [[c]]
      | w :: ws => (c :: w) :: ws

theorem dropWhile_dropWhile (p : Char → Bool) (cs : List Char) : (cs.dropWhile p).dropWhile p = cs.dropWhile p := by
  induction cs with
  | nil => rfl
  | cons c cs ih => by_cases h : p c <;> simp [h, ih]

theorem trimStart_trim (cs : List Char) : trimStart (trim cs) = trim cs := by
  unfold trim
  cases hs : trimStart cs with
  | nil => rfl
  | cons c t =>
    have hc : isBlank c = false := by
      have := List.head?_dropWhile_not isBlank cs
      simp only [trimStart] at hs
      simpa [hs] using this
    simp only [trimEnd, trimStart, List.reverse_cons, List.dropWhile_append]
    split <;> simp [hc]

theorem trim_trim (cs : List Char) : trim (trim cs) = trim cs := by
  have h : trim (trim cs) = trimEnd (trim cs) := congrArg trimEnd (trimStart_trim cs)
  rw [h]
  simp only [trim, trimEnd, List.reverse_reverse, dropWhile_dropWhile]

theorem splitOn_ne_nil (sep : Char) (cs : List Char) : splitOn sep cs ≠ [] := by
  cases cs with
  | nil => simp [splitOn]
  | cons c cs =>
    simp only [splitOn]
    split
    · simp
    · split <;> simp

end EnquiryMail.Text

namespace EnquiryMail

/-- the text without the blanks at both ends -/
def trimmed (s : String) : String := String.ofList (Text.trim s.toList)

/-- the text has nothing but blanks -/
def isBlankText (s : String) : Bool := s.toList.all Text.isBlank

end EnquiryMail
