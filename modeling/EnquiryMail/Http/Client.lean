/-
Who sends a request: the other end of the connection, or, behind proxies, an address that they pass on. The header
names the addresses on the way, the nearest last; as many of them as there are proxies are believed.
-/
import EnquiryMail.Http.Message
import EnquiryMail.Text.Blank

namespace EnquiryMail.Http

/-- a text without blanks at its ends -/
def stripSpaces (cs : List Char) : List Char :=
  ((cs.dropWhile (· == ' ')).reverse.dropWhile (· == ' ')).reverse

/-- the addresses that a request passes on, the nearest first -/
def forwarded (r : Request) : List String :=
  let value := (r.headers.get? "x-forwarded-for").getD ""
  (((Text.splitOn ',' value.toList).map stripSpaces).filter (· ≠ [])).reverse.map String.ofList

/-- goes from address to address while the one at hand, at a distance, belongs to a proxy -/
def believed (proxies : Number) (distance : Nat) (address : String) : List String → String
  | [] => address
  | next :: rest =>
    if (Number.ofInt distance).lt proxies then believed proxies (distance + 1) next rest else address

/-- the address of a client behind a number of proxies -/
def client (proxies : Number) (r : Request) : String := believed proxies 0 r.peer (forwarded r)

end EnquiryMail.Http
