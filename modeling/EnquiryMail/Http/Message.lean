/-
Requests and responses. Header names are compared without regard to case; of several fields with one name the first
counts.

`get?_set`: a field that was set is found. `get?_erase`: a field that was erased is not.
-/
import EnquiryMail.Json.Basic
import EnquiryMail.Text.Utf8

namespace EnquiryMail.Http

open Text.Utf8 (Bytes)

/-- header fields -/
abbrev Headers := List (String × String)

namespace Headers

/-- two spellings of one name -/
def sameName (a b : String) : Bool := a.toList.map Char.toLower == b.toList.map Char.toLower

/-- the value of a field -/
def get? (h : Headers) (name : String) : Option String := (h.find? fun f => sameName f.1 name).map (·.2)

/-- takes all fields of a name away -/
def erase (h : Headers) (name : String) : Headers := h.filter fun f => !sameName f.1 name

/-- gives a field the only value of its name -/
def set (h : Headers) (name value : String) : Headers := h.erase name ++ [(name, value)]

/-- sets fields one after another -/
def setAll (h fields : Headers) : Headers := fields.foldl (fun acc f => acc.set f.1 f.2) h

theorem get?_erase (h : Headers) (name : String) : (h.erase name).get? name = none := by
  simp [get?, erase, List.find?_eq_none]

theorem get?_set (h : Headers) (name value : String) : (h.set name value).get? name = some value := by
  have hnone : (h.erase name).find? (fun f => sameName f.1 name) = none := by
    simp [erase, List.find?_eq_none]
  have hself : sameName name name = true := by simp [sameName]
  simp [get?, set, List.find?_append, hnone, hself]

end Headers

/-- a request as it reaches the application -/
structure Request where
  method : String
  /-- path and query -/
  target : String
  /-- the address at the other end of the connection -/
  peer : String
  headers : Headers
  body : Bytes
  deriving Inhabited

/-- what a response carries -/
inductive Content
  | document (j : Json)
  | text (s : String)
  | nothing
  deriving Inhabited

/-- a response -/
structure Response where
  status : Nat
  headers : Headers
  content : Content
  deriving Inhabited

/-- the type of a response with a document -/
def documentType : String := "application/json; charset=utf-8"

/-- the type of a response with a text -/
def textType : String := "text/html; charset=utf-8"

/-- a document as a response -/
def Response.document (status : Nat) (j : Json) : Response := ⟨status, [("content-type", documentType)], .document j⟩

/-- a text as a response -/
def Response.text (status : Nat) (s : String) : Response := ⟨status, [("content-type", textType)], .text s⟩

end EnquiryMail.Http
