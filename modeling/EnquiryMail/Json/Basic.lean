/-
Documents: null, truth values, numbers, texts, lists and objects. An object is a list of named fields; a name
occurs once, and names that are list positions (`0`, `1`, …) come first in rising order, the others in the order
they were set.

`get?_set`: a field that was set reads back.
-/
import EnquiryMail.Number.Shortest
import EnquiryMail.Text.Units

namespace EnquiryMail

/-- a document -/
inductive Json
  | null
  | bool (b : Bool)
  | num (n : Number)
  | str (s : String)
  | arr (items : List Json)
  | obj (fields : List (String × Json))
  deriving Inhabited

namespace Json

/-- named fields of an object -/
abbrev Fields := List (String × Json)

/-- the value of a field -/
def Fields.get? (fs : Fields) (name : String) : Option Json := fs.lookup name

/-- replaces the value of a field in place, or adds the field behind the others -/
def Fields.set (name : String) (value : Json) : Fields → Fields
  | [] => [(name, value)]
  | (n, v) :: rest => if name = n then (n, value) :: rest else (n, v) :: Fields.set name value rest

/-- without a field -/
def Fields.erase (fs : Fields) (name : String) : Fields := fs.filter fun f => f.1 ≠ name

/-- a name that is a list position: a decimal below `2 ^ 32 - 1` without leading zero -/
def position? (name : String) : Option Nat :=
  let cs := name.toList
  let n := cs.foldl (fun n d => n * 10 + (d.toNat - 48)) 0
  if cs ≠ [] ∧ cs.length ≤ 10 ∧ cs.all Char.isDigit ∧ Number.decimal n = cs ∧ n < 4294967295 then some n
  else none

/-- positions in rising order before the other names -/
def Fields.arrange (fs : Fields) : Fields :=
  let places := fs.filterMap fun f => (position? f.1).map fun n => (n, f)
  (places.mergeSort fun a b => a.1 ≤ b.1).map (·.2) ++ fs.filter fun f => (position? f.1).isNone

/-- fields set one after another, the last value of a name in the place of its first -/
def Fields.ofList (fs : List (String × Json)) : Fields :=
  Fields.arrange (fs.foldl (fun acc f => Fields.set f.1 f.2 acc) [])

/-- the value of a field of an object; nothing else has fields -/
def get? : Json → String → Option Json
  | .obj fs, name => Fields.get? fs name
  | _, _ => none

/-- a text -/
def text? : Json → Option String
  | .str s => some s
  | _ => none

/-- a natural number as a document -/
def nat (n : Nat) : Json := .num (Number.ofInt n)

/-- an integer as a document -/
def int (n : Int) : Json := .num (Number.ofInt n)

/-- texts as a document -/
def texts (ss : List String) : Json := .arr (ss.map .str)

/-- the value counts as true: anything but null, false, zero, `nan` and the empty text -/
def holds : Json → Bool
  | .null => false
  | .bool b => b
  | .num n => n.holds
  | .str s => s ≠ ""
  | .arr _ => true
  | .obj _ => true

mutual

/-- the plain text of a value: lists join their members with commas, null members being empty -/
def plain : Json → String
  | .null => "null"
  | .bool true => "true"
  | .bool false => "false"
  | .num n => n.toText
  | .str s => s
  | .arr items => String.intercalate "," (plainItems items)
  | .obj _ => "[object Object]"

/-- the plain texts of list members -/
def plainItems : List Json → List String
  | [] => []
  | .null :: rest => "" :: plainItems rest
  | item :: rest => plain item :: plainItems rest

end

theorem get?_set (fs : Fields) (name : String) (value : Json) :
    Fields.get? (Fields.set name value fs) name = some value := by
  induction fs with
  | nil => simp [Fields.set, Fields.get?]
  | cons f fs ih =>
    by_cases h : name = f.1
    · simp [Fields.set, Fields.get?, h]
    · have hb : (name == f.1) = false := beq_eq_false_iff_ne.2 h
      simp only [Fields.get?] at ih
      simp only [Fields.set, if_neg h, Fields.get?, List.lookup_cons, hb]
      exact ih

end Json

end EnquiryMail
