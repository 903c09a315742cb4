/-
Numbers of documents and settings: the binary64 values, held exactly. A finite value is a rational on the
binary64 grid, zero has one sign, and the three special values stand beside them.

`nearest` rounds a rational to the grid, ties to the even neighbour. Operations compute exactly and round once.
-/

namespace EnquiryMail

/-- a number of a document -/
inductive Number
  | nan
  | infinite (negative : Bool)
  | finite (q : Rat)
  deriving DecidableEq, Inhabited

namespace Number

-- powers are those of the natural numbers by themselves, whatever else is imported
attribute [local instance (10000)] instPowNat

/-- `n / d` to the nearest natural, a tie to the even one -/
def roundDiv (n d : Nat) : Nat :=
  let q := n / d
  let r := n % d
  if 2 * r < d then q
  else if d < 2 * r then q + 1
  else if q % 2 = 0 then q else q + 1

/-- the exponent of the leading binary digit of `n / d`, both positive -/
def leading (n d : Nat) : Int :=
  let e : Int := (n.log2 : Int) - (d.log2 : Int)
  let reached : Bool := if 0 ≤ e then d * 2 ^ e.toNat ≤ n else d ≤ n * 2 ^ (-e).toNat
  if reached then e else e - 1

/-- the magnitude `n / d` on the grid -/
def nearestMagnitude (n d : Nat) : Rat :=
  let u := max (leading n d - 52) (-1074)
  if 0 ≤ u then ((roundDiv n (d * 2 ^ u.toNat) * 2 ^ u.toNat : Nat) : Rat)
  else mkRat (roundDiv (n * 2 ^ (-u).toNat) d) (2 ^ (-u).toNat)

/-- the value on the grid nearest to `q` -/
def nearest (q : Rat) : Number :=
  if q = 0 then .finite 0
  else
    let m := nearestMagnitude q.num.natAbs q.den
    if (2 ^ (1024 : Nat) : Nat) ≤ m then .infinite (q.num < 0)
    else .finite (if q.num < 0 then -m else m)

/-- an integer as a number -/
def ofInt (n : Int) : Number := nearest n

instance : OfNat Number n := ⟨.finite n⟩

/-- `a` is less than `b`; nothing compares with `nan` -/
def lt : Number → Number → Bool
  | .nan, _ => false
  | _, .nan => false
  | .infinite s, .infinite t => s && !t
  | .infinite s, .finite _ => s
  | .finite _, .infinite s => !s
  | .finite p, .finite q => p < q

/-- `a` is at most `b` -/
def le (a b : Number) : Bool := lt a b || (a != .nan && a == b)

/-- the greater of two numbers; `nan` if one is -/
def max : Number → Number → Number
  | .nan, _ => .nan
  | _, .nan => .nan
  | a, b => if lt a b then b else a

/-- the difference -/
def sub : Number → Number → Number
  | .nan, _ => .nan
  | _, .nan => .nan
  | .infinite s, .infinite t => if s = t then .nan else .infinite s
  | .infinite s, .finite _ => .infinite s
  | .finite _, .infinite s => .infinite (!s)
  | .finite p, .finite q => nearest (p - q)

/-- the sum -/
def add : Number → Number → Number
  | .nan, _ => .nan
  | _, .nan => .nan
  | .infinite s, .infinite t => if s = t then .infinite s else .nan
  | .infinite s, .finite _ => .infinite s
  | .finite _, .infinite s => .infinite s
  | .finite p, .finite q => nearest (p + q)

/-- the product with a positive rational -/
def scale (k : Rat) : Number → Number
  | .finite q => nearest (q * k)
  | x => x

/-- the fraction dropped -/
def trunc : Number → Number
  | .finite q => .finite (if q < 0 then q.ceil else q.floor : Int)
  | x => x

/-- the least integer that is not below -/
def ceil : Number → Number
  | .finite q => .finite (q.ceil : Int)
  | x => x

/-- the value when it is an integer -/
def toInt? : Number → Option Int
  | .finite q => if q.den = 1 then some q.num else none
  | _ => none

/-- neither `nan` nor infinite -/
def isFinite : Number → Bool
  | .finite _ => true
  | _ => false

/-- the number counts as true: it is neither zero nor `nan` -/
def holds : Number → Bool
  | .nan => false
  | .infinite _ => true
  | .finite q => q != 0

end Number

end EnquiryMail
