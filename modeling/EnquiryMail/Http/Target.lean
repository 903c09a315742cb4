/-
Request targets. A target names a path, and it may name a protocol and a host in front of it and a query behind it. A
plain target begins with a slash and holds neither blanks nor a number sign; its path ends at the first question mark.
Any other is read as an address: blanks at its ends are dropped, backslashes in front of the query count as slashes,
and characters that do not belong in an address are escaped in its path.
-/
import EnquiryMail.Text.Blank
import EnquiryMail.Text.Percent

namespace EnquiryMail.Http.Target

/-- why a target has no path -/
inductive Fault
  /-- nothing stands where a path could stand -/
  | absent
  /-- the host or what stands in front of it cannot be read -/
  | invalid
  deriving DecidableEq, Repr

/-- what stands for the path of a target that has none -/
def Fault.stand : Fault → String
  | absent => "null"
  | invalid => "resource"

/-! ## Plain targets -/

/-- a character that no plain target holds -/
def isBreak (c : Char) : Bool :=
  c == '\t' || c == '\n' || c == '\x0c' || c == '\r' || c == ' ' || c == '#' || c == '\u00a0' || c == '\ufeff'

/-- begins with a slash and holds neither blanks nor a number sign -/
def isPlain (cs : List Char) : Bool := cs.head? == some '/' && !cs.any isBreak

/-! ## Addresses -/

/-- a character that is dropped at the ends of an address -/
def isEdge (c : Char) : Bool := c.toNat < 33 || c == '\u00a0' || c == '\ufeff'

/-- an address without what is dropped at its ends -/
def trimEdges (cs : List Char) : List Char := ((cs.dropWhile isEdge).reverse.dropWhile isEdge).reverse

/-- begins the query or the fragment -/
def isCut (c : Char) : Bool := c == '?' || c == '#'

/-- slashes for the backslashes in front of query and fragment -/
def slashed (cs : List Char) : List Char :=
  ((cs.takeWhile (!isCut ·)).map fun c => if c = '\\' then '/' else c) ++ cs.dropWhile (!isCut ·)

/-- a path and perhaps a query without blanks, two slashes at most in front, no fragment and no sign of a host -/
def isSimple (cs : List Char) : Bool :=
  cs.head? == some '/' && !(cs.take 3 == ['/', '/', '/']) && !cs.contains '#' &&
    !(cs.takeWhile (!isCut ·)).contains '@' && !cs.any Text.isBlank

/-- a character of a protocol's name -/
def isProtocolChar (c : Char) : Bool := c.isAlphanum || c == '.' || c == '+' || c == '-'

/-- the protocol that an address begins with, and what follows its colon -/
def protocol? (cs : List Char) : Option (String × List Char) :=
  match cs.takeWhile isProtocolChar, cs.dropWhile isProtocolChar with
  | c :: name, ':' :: rest => some (String.ofList (c :: name), rest)
  | _, _ => none

/-- protocols whose addresses have a host behind two slashes -/
def slashedProtocols : List String := ["http", "https", "ftp", "gopher", "file", "ws", "wss"]

/-- the protocol, in lower case, whose addresses have no host and keep all characters -/
def hostless : String := "javascript"

/-- two slashes and a user in front of a host -/
def hasUser (cs : List Char) : Bool :=
  match cs with
  | '/' :: '/' :: rest =>
    let user := rest.takeWhile fun c => c != '@' && c != '/'
    let host := (rest.drop user.length).drop 1
    !user.isEmpty && (rest.drop user.length).head? == some '@' &&
      !(host.takeWhile fun c => c != '@' && c != '/').isEmpty
  | _ => false

/-- a character that ends a host -/
def endsHost (c : Char) : Bool := isCut c || c == '/'

/-- a character that no host holds -/
def isOutsideHost (c : Char) : Bool :=
  endsHost c || [' ', '"', '%', '\'', ';', '<', '>', '\\', '^', '\x60', '\x7b', '|', '\x7d'].contains c

/-- a host without the port behind it -/
def withoutPort (host : List Char) : List Char :=
  match host.reverse.dropWhile Char.isDigit with
  | ':' :: rest => rest.reverse
  | _ => host

/-- a host in brackets -/
def isBracketed (host : List Char) : Bool := host.head? == some '[' && host.getLast? == some ']'

/-- a character that leaves no trace in a host: soft hyphens, joiners, variation selectors and the byte order mark -/
def isTraceless (c : Char) : Bool :=
  ['\u00ad', '\u034f', '\u200b', '\u2060', '\u2064', '\ufeff'].contains c || ('\ufe00' ≤ c && c ≤ '\ufe0f')

/-- the basic form of a full-width character -/
def narrow (c : Char) : Char := if '\uff01' ≤ c ∧ c ≤ '\uff5e' then Char.ofNat (c.toNat - 0xFEE0) else c

/-- a character that makes a host unreadable: a control character, a bracket, or one beyond the basic set that is
blank, private, or a full-width form of one that no host holds -/
def isForbidden (bracketed : Bool) (c : Char) : Bool :=
  c == '\x00' ||
    (!bracketed &&
      (c == '[' || c == ']' || ('\u0080' ≤ c && (c ≤ '\u009f' || Text.isBlank c)) ||
        ('\ue000' ≤ c && c ≤ '\uf8ff') || c == '\ufffd' ||
        (narrow c != c && ['#', '%', '/', ':', '<', '>', '?', '@', '[', '\\', ']', '^', '|'].contains (narrow c))))

/-- the most units of a host -/
def longestHost : Nat := 255

/-- the host that an address goes on with, and what follows it -/
def host? (cs : List Char) : Except Fault (List Char × List Char) :=
  let front := (cs.takeWhile (!endsHost ·)).filter fun c => c != '\t' && c != '\n' && c != '\r'
  let back := cs.dropWhile (!endsHost ·)
  let place := (front.reverse.takeWhile (· != '@')).reverse
  let user := front.take (front.length - place.length - 1)
  if (Text.Percent.decode? user).isNone then .error .invalid
  else
    let host := withoutPort (place.takeWhile (!isOutsideHost ·))
    let rest := place.dropWhile (!isOutsideHost ·) ++ back
    let bracketed := isBracketed host
    let name := if bracketed then host else host.takeWhile (· != ':')
    let rest := if name.length < host.length then '/' :: host.drop name.length ++ rest else rest
    let name := if longestHost < Text.units name then [] else name
    let trace := name.filter (bracketed || !isTraceless ·)
    if trace.any (isForbidden bracketed) || (trace.isEmpty && !name.isEmpty) then .error .invalid
    else .ok (if bracketed then name.drop 1 |>.dropLast else name,
      if bracketed && rest.head? != some '/' then '/' :: rest else rest)

/-- a character with the escape that stands for it in a path -/
def escaped (c : Char) : List Char :=
  match c with
  | '\t' => ['%', '0', '9']
  | '\n' => ['%', '0', 'A']
  | '\r' => ['%', '0', 'D']
  | ' ' => ['%', '2', '0']
  | '"' => ['%', '2', '2']
  | '\'' => ['%', '2', '7']
  | '<' => ['%', '3', 'C']
  | '>' => ['%', '3', 'E']
  | '\\' => ['%', '5', 'C']
  | '^' => ['%', '5', 'E']
  | '\x60' => ['%', '6', '0']
  | '\x7b' => ['%', '7', 'B']
  | '|' => ['%', '7', 'C']
  | '\x7d' => ['%', '7', 'D']
  | c => [c]

/-- the host of an address and what follows it, where a protocol of the given name has been read -/
def split (protocol : Option String) (cs : List Char) : Except Fault (List Char × List Char) :=
  let isHostless := protocol.any fun p => p.toList.map Char.toLower == hostless.toList
  let slashes := (protocol.isSome || hasUser cs) && cs.take 2 == ['/', '/']
  if isHostless then .ok ([], cs)
  else if slashes then host? (cs.drop 2)
  else if protocol.any fun p => !slashedProtocols.contains p then host? cs
  else .ok ([], cs)

/-- the path in what follows the host of an address; behind a host the root stands for no path at all -/
def pathBehind (protocol : Option String) (host rest : List Char) : Except Fault (List Char) :=
  let protocol := protocol.map fun p => String.ofList (p.toList.map Char.toLower)
  let rest := if protocol = some hostless then rest else rest.flatMap escaped
  match rest.takeWhile (!isCut ·) with
  | [] => if protocol.any slashedProtocols.contains && !host.isEmpty then .ok ['/'] else .error .absent
  | path => .ok path

/-- the path of an address -/
def addressPath (cs : List Char) : Except Fault (List Char) :=
  let cs := slashed (trimEdges cs)
  if isSimple cs then .ok (cs.takeWhile (· != '?'))
  else
    let (protocol, rest) := match protocol? cs with
      | some (name, rest) => (some name, rest)
      | none => (none, cs)
    (split protocol rest).bind fun (host, rest) => pathBehind protocol host rest

/-- the path of a target -/
def path (cs : List Char) : Except Fault (List Char) :=
  if isPlain cs then .ok (cs.takeWhile (· != '?')) else addressPath cs

/-! ## Mount points -/

/-- where the first occurrence of `pattern` begins -/
def find? (pattern : List Char) : List Char → Option Nat
  | [] => if pattern = [] then some 0 else none
  | c :: cs => if pattern.isPrefixOf (c :: cs) then some 0 else (find? pattern cs).map (· + 1)

/-- protocol and host in front of a target's path -/
def origin (cs : List Char) : List Char :=
  if cs.head? = some '/' then []
  else
    match find? [':', '/', '/'] (cs.takeWhile (· != '?')) with
    | none => []
    | some n =>
      match find? ['/'] (cs.drop (n + 3)) with
      | none => []
      | some m => cs.take (n + 3 + m)

/-- the path, in lower case, is `base` or lies below it; the length of `base` and of a slash at the end -/
def mounted? (base path : List Char) : Option Nat :=
  let tail := path.drop base.length
  if base.isPrefixOf (path.map Char.toLower) then
    match tail with
    | [] => some base.length
    | ['/'] => some (base.length + 1)
    | '/' :: '/' :: _ => some (base.length + 1)
    | '/' :: _ => some base.length
    | _ => none
  else none

/-- the target below a mount point, whose path is so many units long -/
def below (cs : List Char) (length : Nat) : List Char :=
  let front := origin cs
  let rest := Text.dropUnits length (cs.drop front.length)
  if front = [] ∧ rest.head? ≠ some '/' then '/' :: rest else front ++ rest

/-- An address with a protocol, a host and a port names the path behind them. -/
example : (path "HTTPS://u:p@h:80/HEALTH/".toList).toOption = some "/HEALTH/".toList := by decide +kernel

/-- A query alone names no path. -/
example : (path "?x=1".toList).toOption = none := by decide +kernel

/-- The user in front of a host has to be readable. -/
example : (path "http://%zz@h/health".toList).toOption = none := by decide +kernel

end EnquiryMail.Http.Target
