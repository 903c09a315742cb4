/-
Colour on a terminal. A style is switched on by one code and off by another; both frame the text. Where the text
itself switches the style off it is switched on again, and before a line break it is switched off, so that no colour
runs over the end of a line. Without colour a text is left as it is, and so is an empty text.
-/

namespace EnquiryMail.Cli

/-- how a text is shown -/
inductive Style
  | bold
  | gray
  | green
  | red
  deriving DecidableEq, Repr

namespace Style

/-- the numbers that switch a style on and off -/
def codes : Style → Nat × Nat
  | bold => (1, 22)
  | gray => (90, 39)
  | green => (32, 39)
  | red => (31, 39)

/-- a number as a control sequence -/
def sequence (n : Nat) : List Char := '\x1b' :: '[' :: (Nat.toDigits 10 n ++ ['m'])

/-- switches a style on -/
def opening (s : Style) : List Char := sequence s.codes.1

/-- switches a style off -/
def closing (s : Style) : List Char := sequence s.codes.2

/-- switches a style on again wherever the text switches it off; `seen` is the text before, last character first -/
def reopened (s : Style) (seen : List Char) : List Char → List Char
  | [] => []
  | c :: rest =>
    c :: ((if s.closing.reverse.isPrefixOf (c :: seen) then s.opening else []) ++ reopened s (c :: seen) rest)

/-- switches a style off before every line break and on behind it -/
def perLine (s : Style) : List Char → List Char
  | [] => []
  | '\r' :: '\n' :: rest => s.closing ++ '\r' :: '\n' :: (s.opening ++ perLine s rest)
  | '\n' :: rest => s.closing ++ '\n' :: (s.opening ++ perLine s rest)
  | c :: rest => c :: perLine s rest

end Style

/-- a text in a style, if there is colour -/
def painted (color : Bool) (s : Style) (text : String) : String :=
  if !color || text = "" then text
  else String.ofList (s.opening ++ s.perLine (s.reopened [] text.toList) ++ s.closing)

end EnquiryMail.Cli
