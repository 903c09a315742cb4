/-
Conditional requests. A client that has a representation names its tag, or any tag by a star; if the representation
is still the same, the answer says so and carries nothing. A tag is weak: it is made of the length of the
representation and the beginning of its digest. No time of change is known, so a client that goes by time is never
up to date.
-/
import EnquiryMail.Digest
import EnquiryMail.Http.Client
import EnquiryMail.Text.Base64

namespace EnquiryMail.Http

/-- characters of a digest that a tag holds -/
def tagWidth : Nat := 27

/-- the tag of a representation -/
def weakTag (body : String) : String :=
  let bs := utf8 body
  let digest := (Text.Base64.encode (Digest.sha1 bs)).take tagWidth
  "W/\"" ++ String.ofList (Nat.toDigits 16 bs.length ++ '-' :: digest) ++ "\""

/-- a header field that says something -/
def condition? (r : Request) (name : String) : Option String := (r.headers.get? name).filter (· ≠ "")

/-- asks not to be answered from what is stored -/
def insists (r : Request) : Bool :=
  let value := (condition? r "cache-control").getD ""
  ((Text.splitOn ',' value.toList).map Text.trim).contains "no-cache".toList

/-- a list of tags names a tag, strong or weak -/
def namesTag (tag : String) (tags : String) : Bool :=
  tags == "*" || (Text.splitOn ',' tags.toList).any fun piece =>
    let piece := String.ofList (stripSpaces piece)
    piece == tag || piece == "W/" ++ tag || "W/" ++ piece == tag

/-- the client has the representation with a tag -/
def isFresh (r : Request) (tag : String) : Bool :=
  !insists r && (condition? r "if-modified-since").isNone && (condition? r "if-none-match").any (namesTag tag)

end EnquiryMail.Http
