/-
Writing documents as text: on one line without blanks, or over several lines with two blanks a level. A text is
quoted with the short escapes, and other control characters are written as `\u` and four hexadecimal digits.
A number that is not finite is written as null.
-/
import EnquiryMail.Json.Basic

namespace EnquiryMail.Json

/-- a hexadecimal digit, lower case -/
def hexDigit (n : Nat) : Char := if n < 10 then Char.ofNat (48 + n) else Char.ofNat (87 + n)

/-- a character inside quotes -/
def quoteChar (c : Char) : List Char :=
  if c = '"' then ['\\', '"']
  else if c = '\\' then ['\\', '\\']
  else if c = '\n' then ['\\', 'n']
  else if c = '\r' then ['\\', 'r']
  else if c = '\t' then ['\\', 't']
  else if c = '\x08' then ['\\', 'b']
  else if c = '\x0c' then ['\\', 'f']
  else if c.toNat < 0x20 then ['\\', 'u', '0', '0', hexDigit (c.toNat / 16), hexDigit (c.toNat % 16)]
  else [c]

/-- a text in quotes -/
def quote (s : String) : String := String.ofList ('"' :: (s.toList.flatMap quoteChar ++ ['"']))

/-- the text of a number, null when it is not finite -/
def numberText (n : Number) : String := if n.isFinite then n.toText else "null"

/-- members between an opening and a closing mark, separated by commas -/
def enclose (opening closing : String) (items : List String) : String :=
  opening ++ String.intercalate "," items ++ closing

mutual

/-- a document on one line -/
def compact : Json → String
  | .null => "null"
  | .bool true => "true"
  | .bool false => "false"
  | .num n => numberText n
  | .str s => quote s
  | .arr items => enclose "[" "]" (compactItems items)
  | .obj fields => enclose "\x7b" "\x7d" (compactFields fields)

/-- the members of a list -/
def compactItems : List Json → List String
  | [] => []
  | item :: rest => compact item :: compactItems rest

/-- the fields of an object -/
def compactFields : List (String × Json) → List String
  | [] => []
  | (name, value) :: rest => (quote name ++ ":" ++ compact value) :: compactFields rest

end

/-- a line break and the blanks of a level -/
def newline (level : Nat) : String := String.ofList ('\n' :: List.replicate (2 * level) ' ')

/-- members on lines of their own, one level in -/
def block (opening closing : String) (level : Nat) : List String → String
  | [] => opening ++ closing
  | items =>
    opening ++ newline (level + 1) ++ String.intercalate ("," ++ newline (level + 1)) items ++ newline level ++ closing

mutual

/-- a document over several lines, from the given level on -/
def indentAt (level : Nat) : Json → String
  | .arr items => block "[" "]" level (indentItems (level + 1) items)
  | .obj fields => block "\x7b" "\x7d" level (indentFields (level + 1) fields)
  | .null => "null"
  | .bool true => "true"
  | .bool false => "false"
  | .num n => numberText n
  | .str s => quote s

/-- the members of a list -/
def indentItems (level : Nat) : List Json → List String
  | [] => []
  | item :: rest => indentAt level item :: indentItems level rest

/-- the fields of an object -/
def indentFields (level : Nat) : List (String × Json) → List String
  | [] => []
  | (name, value) :: rest => (quote name ++ ": " ++ indentAt level value) :: indentFields level rest

end

/-- a document over several lines -/
def indented (j : Json) : String := indentAt 0 j

mutual

/-- the fields of every object in the order of the units of their names -/
def sorted : Json → Json
  | .arr items => .arr (sortedItems items)
  | .obj fields => .obj ((sortedFields fields).mergeSort fun a b => Text.unitsLe a.1.toList b.1.toList)
  | .null => .null
  | .bool b => .bool b
  | .num n => .num n
  | .str s => .str s

/-- the members of a list, each sorted -/
def sortedItems : List Json → List Json
  | [] => []
  | item :: rest => sorted item :: sortedItems rest

/-- the fields of an object, each value sorted -/
def sortedFields : List (String × Json) → List (String × Json)
  | [] => []
  | (name, value) :: rest => (name, sorted value) :: sortedFields rest

end

end EnquiryMail.Json
