/-
The document that a request posts: a JSON object or array, or a form. A request without body, or with a body of
another type, posts an empty document. What cannot be read is refused for one of few reasons, each with its status.
-/
import EnquiryMail.Deflate.Container
import EnquiryMail.Http.Form
import EnquiryMail.Http.MediaType
import EnquiryMail.Http.Message
import EnquiryMail.Json.Reader
import EnquiryMail.Number.Literal
import EnquiryMail.Text.Lower
import EnquiryMail.Text.Utf7

namespace EnquiryMail.Http

open Text.Utf8 (Bytes)

/-- why a body is refused -/
inductive Refusal
  | charset (name : String)
  | compression (name : String)
  | tooLarge
  | tooManyParameters
  | wrongLength
  | malformed
  deriving DecidableEq, Repr

namespace Refusal

/-- the status of a refusal -/
def status : Refusal → Nat
  | charset _ => 415
  | compression _ => 415
  | tooLarge => 413
  | tooManyParameters => 413
  | wrongLength => 400
  | malformed => 400

/-- the wording of a refusal; a charset is named in upper case -/
def message : Refusal → String
  | charset name => "unsupported charset \"" ++ String.ofList (Text.upper name.toList) ++ "\""
  | compression name => "unsupported content encoding \"" ++ name ++ "\""
  | tooLarge => "request entity too large"
  | tooManyParameters => "too many parameters"
  | wrongLength => "request size did not match content length"
  | malformed => "malformed body"

end Refusal

/-- the most octets of a body -/
def largest : Nat := 65536

/-- a form with so many separators is refused -/
def mostSeparators : Nat := 1000

/-! ## Length and compression -/

/-- a header value that counts as a number -/
def isNumber (value : String) : Bool :=
  match Number.ofText value with
  | .nan => false
  | _ => true

/-- the integer that a header value begins with -/
def leadingInt? (value : String) : Option Int :=
  let digits (cs : List Char) : Option Int :=
    match cs.takeWhile Number.isDigit with
    | [] => none
    | ds => some (Number.natOf ds : Int)
  match Text.trimStart value.toList with
  | '-' :: cs => (digits cs).map fun n => -n
  | '+' :: cs => digits cs
  | cs => digits cs

/-- the length that a request declares, if it declares one; it need not be readable -/
def declaredLength (r : Request) : Option (Option Int) :=
  (r.headers.get? "content-length").bind fun v => if isNumber v then some (leadingInt? v) else none

/-- a request that comes with a body -/
def hasBody (r : Request) : Bool := (r.headers.get? "transfer-encoding").isSome || (declaredLength r).isSome

/-- how a body is compressed -/
inductive Compression
  | identity
  | deflate
  | gzip
  deriving DecidableEq, Repr

namespace Compression

/-- the compression with a name -/
def ofName? (name : String) : Option Compression :=
  if name = "identity" then some identity
  else if name = "deflate" then some deflate
  else if name = "gzip" then some gzip
  else none

/-- undoes a compression -/
def undo : Compression → Bytes → Deflate.Yield
  | identity, bs => ⟨bs, none⟩
  | deflate, bs => Deflate.unwrap bs
  | gzip, bs => Deflate.gunzip bs

end Compression

/-- the name of a request's compression -/
def compressionName (r : Request) : String :=
  match r.headers.get? "content-encoding" with
  | none => "identity"
  | some v => if v = "" then "identity" else Text.lowered v

/-- what came, checked against the most that may come, for faults and against the declared length -/
def checked (declared : Option (Option Int)) (y : Deflate.Yield) : Except Refusal Bytes :=
  if largest < y.octets.length then .error .tooLarge
  else if y.fault.isSome then .error .malformed
  else
    match declared with
    | none => .ok y.octets
    | some n => if n = some (y.octets.length : Int) then .ok y.octets else .error .wrongLength

/-- the octets of a body in a charset that is or is not known -/
def octets (r : Request) (charset : String) (known : Bool) : Except Refusal Bytes :=
  match Compression.ofName? (compressionName r) with
  | none => .error (.compression (compressionName r))
  | some c =>
    let declared := if c = .identity then declaredLength r else none
    if (declared.bind id).any fun n => (largest : Int) < n then .error .tooLarge
    else if !known then .error (.charset charset)
    else checked declared (c.undo r.body)

/-! ## Documents and forms -/

/-- the charsets of documents -/
inductive Charset
  | utf7 (form : Text.Utf7.Form)
  | utf8
  | utf16 (order : Option Text.Utf16.Order)
  deriving DecidableEq, Repr

namespace Charset

/-- a name without the year behind its last colon -/
def undated (cs : List Char) : List Char :=
  let (year, rest) := cs.reverse.splitAt 4
  if year.length = 4 ∧ year.all Number.isDigit ∧ rest.head? = some ':' then rest.tail.reverse else cs

/-- the charset with a name, of which only letters and digits count, and no year at the end -/
def ofName? (name : String) : Option Charset :=
  let key := String.ofList ((undated name.toList).filter Char.isAlphanum)
  if key = "utf8" then some utf8
  else if key = "utf16" then some (utf16 none)
  else if key = "utf16le" then some (utf16 (some .low))
  else if key = "utf16be" then some (utf16 (some .high))
  else if key = "utf7" then some (utf7 .common)
  else if key = "utf7imap" then some (utf7 .folder)
  else none

/-- a text without the mark at its beginning -/
def unmarked (cs : List Char) : List Char :=
  match cs with
  | '\uFEFF' :: rest => rest
  | _ => cs

/-- reads octets; a mark at the beginning is dropped, but not from text in the manner of folder names -/
def decode : Charset → Bytes → List Char
  | utf7 .common, bs => unmarked (Text.Utf7.decode .common bs)
  | utf7 .folder, bs => Text.Utf7.decode .folder bs
  | utf8, bs => unmarked (Text.Utf8.decode bs)
  | utf16 order, bs => unmarked (Text.Utf16.decode order bs)

end Charset

/-- a JSON object or array; nothing at all is an empty object -/
def readDocument (cs : List Char) : Except Refusal Json :=
  if cs = [] then .ok (.obj [])
  else if (Json.skip cs).head? = some '{' ∨ (Json.skip cs).head? = some '[' then
    match Json.read? cs with
    | some j => .ok j
    | none => .error .malformed
  else .error .malformed

/-- a form -/
def readForm (cs : List Char) : Except Refusal Json :=
  if mostSeparators ≤ Form.separators cs then .error .tooManyParameters else .ok (Form.read cs)

/-- a body of a type -/
def readBody (r : Request) (m : MediaType) : Except Refusal Json :=
  let charset := m.charset?.getD "utf-8"
  if m.name = "application/json" then
    if !charset.startsWith "utf-" then .error (.charset charset)
    else (octets r charset (Charset.ofName? charset).isSome).bind fun bs =>
      readDocument (((Charset.ofName? charset).getD .utf8).decode bs)
  else if m.name = "application/x-www-form-urlencoded" then
    if charset ≠ "utf-8" then .error (.charset charset)
    else (octets r charset true).bind fun bs => readForm (Charset.utf8.decode bs)
  else .ok (.obj [])

/-- the document that a request posts -/
def posted (r : Request) : Except Refusal Json :=
  if hasBody r then
    match (r.headers.get? "content-type").bind MediaType.read? with
    | some m => readBody r m
    | none => .ok (.obj [])
  else .ok (.obj [])

end EnquiryMail.Http
