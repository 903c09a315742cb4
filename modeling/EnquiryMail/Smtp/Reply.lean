/-
Replies of a relay. A reply is one or more lines; `-` in the fourth position announces a further line, a blank
there or a shorter line ends the reply. Positions are counted in 16-bit units.
-/
import EnquiryMail.Text.Units
import EnquiryMail.Text.Blank

namespace EnquiryMail.Smtp

open EnquiryMail.Text

/-- a complete reply -/
structure Reply where
  /-- three characters, or none when the first line is shorter -/
  code : String
  lines : List String
  /-- all lines, blanks at both ends dropped -/
  text : String
  deriving DecidableEq, Repr, Inhabited

/-- the line ends the reply that it belongs to -/
def isFinalLine (line : String) : Bool :=
  units line.toList < 4 || unitAt? line.toList 3 == some ' '

/-- the reply made of some lines -/
def Reply.ofLines (lines : List String) : Reply :=
  let first := (lines.headD "").toList
  { code := if 3 ≤ units first then String.ofList (takeUnits 3 first) else ""
    lines
    text := trimmed (String.intercalate "\n" lines) }

end EnquiryMail.Smtp
