/-
Reading documents from text. A document is one value with blanks around it; a repeated name keeps its last value;
numbers are rounded to the binary64 grid. Whatever the grammar does not allow is refused.

Reading is by recursion on a budget; a value takes at least one character, so a budget of one more than the
length of the text is never used up (`read?`).
-/
import EnquiryMail.Json.Basic
import EnquiryMail.Number.Literal

namespace EnquiryMail.Json

/-- the four blanks of the grammar -/
def isSpace (c : Char) : Bool := c == ' ' || c == '\n' || c == '\r' || c == '\t'

/-- the text behind its leading blanks -/
def skip (cs : List Char) : List Char := cs.dropWhile isSpace

/-- four hexadecimal digits -/
def hex4? : List Char → Option (Nat × List Char)
  | a :: b :: c :: d :: rest => do
    let ds ← [a, b, c, d].mapM Number.digitValue?
    return (ds.foldl (fun n x => n * 16 + x) 0, rest)
  | _ => none

/-- the character of a one-letter escape -/
def escape? : Char → Option Char
  | '"' => some '"'
  | '\\' => some '\\'
  | '/' => some '/'
  | 'b' => some '\x08'
  | 'f' => some '\x0c'
  | 'n' => some '\n'
  | 'r' => some '\r'
  | 't' => some '\t'
  | _ => none

/-- a text up to its closing quote; two escaped units that form a pair are one character, a unit of a pair on
its own is U+FFFD -/
def readText : Nat → List Char → List Char → Option (String × List Char)
  | 0, _, _ => none
  | _ + 1, _, [] => none
  | fuel + 1, acc, c :: cs =>
    if c == '"' then some (String.ofList acc.reverse, cs)
    else if c.toNat < 0x20 then none
    else if c == '\\' then
      match cs with
      | 'u' :: cs =>
        match hex4? cs with
        | none => none
        | some (n, rest) =>
          if 0xD800 ≤ n ∧ n < 0xDC00 then
            match rest with
            | '\\' :: 'u' :: more =>
              match hex4? more with
              | none => none
              | some (m, rest') =>
                if 0xDC00 ≤ m ∧ m < 0xE000 then
                  readText fuel (Char.ofNat (0x10000 + (n - 0xD800) * 0x400 + (m - 0xDC00)) :: acc) rest'
                else readText fuel (Char.ofNat 0xFFFD :: acc) rest
            | _ => readText fuel (Char.ofNat 0xFFFD :: acc) rest
          else if 0xDC00 ≤ n ∧ n < 0xE000 then readText fuel (Char.ofNat 0xFFFD :: acc) rest
          else readText fuel (Char.ofNat n :: acc) rest
      | e :: cs =>
        match escape? e with
        | some d => readText fuel (d :: acc) cs
        | none => none
      | [] => none
    else readText fuel (c :: acc) cs

/-- the places behind a point, none without a point, and what follows -/
def readPlaces : List Char → Option (List Char × List Char)
  | '.' :: tail =>
    if (tail.takeWhile Number.isDigit).isEmpty then none
    else some (tail.takeWhile Number.isDigit, tail.dropWhile Number.isDigit)
  | rest => some ([], rest)

/-- the sign of an exponent, and what follows -/
def readSign : List Char → Int × List Char
  | '+' :: rest => (1, rest)
  | '-' :: rest => (-1, rest)
  | rest => (1, rest)

/-- an exponent, zero without its mark, and what follows -/
def readExponent : List Char → Option (Int × List Char)
  | [] => some (0, [])
  | e :: tail =>
    if e == 'e' || e == 'E' then
      let (sign, tail) := readSign tail
      let ds := tail.takeWhile Number.isDigit
      if ds.isEmpty then none else some (sign * Number.natOf ds, tail.dropWhile Number.isDigit)
    else some (0, e :: tail)

/-- a number behind its sign -/
def readUnsigned (negative : Bool) (cs : List Char) : Option (Number × List Char) :=
  match cs.takeWhile Number.isDigit with
  | [] => none
  | '0' :: _ :: _ => none
  | whole => do
    let (places, rest) ← readPlaces (cs.dropWhile Number.isDigit)
    let (exponent, rest) ← readExponent rest
    return (Number.ofDecimal negative (whole ++ places) (exponent - places.length), rest)

/-- a number, at its first character -/
def readNumber : List Char → Option (Number × List Char)
  | '-' :: rest => readUnsigned true rest
  | cs => readUnsigned false cs

mutual

/-- a value, at its first character or blanks in front of it -/
def readValue : Nat → List Char → Option (Json × List Char)
  | 0, _ => none
  | fuel + 1, cs =>
    match skip cs with
    | '\x7b' :: rest =>
      match skip rest with
      | '\x7d' :: rest => some (.obj [], rest)
      | rest => readFields fuel [] rest
    | '[' :: rest =>
      match skip rest with
      | ']' :: rest => some (.arr [], rest)
      | rest => readItems fuel [] rest
    | '"' :: rest => (readText (rest.length + 1) [] rest).map fun (s, rest) => (.str s, rest)
    | 't' :: 'r' :: 'u' :: 'e' :: rest => some (.bool true, rest)
    | 'f' :: 'a' :: 'l' :: 's' :: 'e' :: rest => some (.bool false, rest)
    | 'n' :: 'u' :: 'l' :: 'l' :: rest => some (.null, rest)
    | rest => (readNumber rest).map fun (n, rest) => (.num n, rest)

/-- list members up to the closing bracket -/
def readItems : Nat → List Json → List Char → Option (Json × List Char)
  | 0, _, _ => none
  | fuel + 1, acc, cs =>
    match readValue fuel cs with
    | none => none
    | some (item, rest) =>
      match skip rest with
      | ',' :: rest => readItems fuel (item :: acc) rest
      | ']' :: rest => some (.arr (item :: acc).reverse, rest)
      | _ => none

/-- fields up to the closing brace -/
def readFields : Nat → List (String × Json) → List Char → Option (Json × List Char)
  | 0, _, _ => none
  | fuel + 1, acc, cs =>
    match skip cs with
    | '"' :: rest =>
      match readText (rest.length + 1) [] rest with
      | none => none
      | some (name, rest) =>
        match skip rest with
        | ':' :: rest =>
          match readValue fuel rest with
          | none => none
          | some (value, rest) =>
            match skip rest with
            | ',' :: rest => readFields fuel ((name, value) :: acc) rest
            | '\x7d' :: rest => some (.obj (Fields.ofList ((name, value) :: acc).reverse), rest)
            | _ => none
        | _ => none
    | _ => none

end

/-- the document that a text holds -/
def read? (cs : List Char) : Option Json :=
  match readValue (cs.length + 1) cs with
  | some (value, rest) => if (skip rest).isEmpty then some value else none
  | none => none

end EnquiryMail.Json
