import Toolpath.Number.Rounding

/-!
# Arithmetic on doubles

Each operation is the exact result, rounded once. The remainder needs no rounding, and the
hypotenuse is rounded from the root itself, so that no square overflows on the way.
-/

namespace Toolpath.Binary64

/-- The double nearest to an integer. -/
def ofNat (n : Nat) : Binary64 := round false (n * unit) 1

instance (n : Nat) : OfNat Binary64 (n + 1) := ⟨ofNat (n + 1)⟩

def ofInt (n : Int) : Binary64 := nearest (n * unit) 1

/-- A sum that cancels is the positive zero; only two negative zeros make a negative one. -/
def add : Binary64 → Binary64 → Binary64
  | .nan, _ => .nan
  | _, .nan => .nan
  | .infinity s, .infinity t => if s = t then .infinity s else .nan
  | .infinity s, .finite .. => .infinity s
  | .finite .., .infinity t => .infinity t
  | a@(.finite s ..), b@(.finite t ..) =>
    let sum := a.ticks + b.ticks
    if sum = 0 then zero (s && t) else nearest sum 1

instance : Add Binary64 := ⟨add⟩

instance : Neg Binary64 := ⟨neg⟩

instance : Sub Binary64 := ⟨fun a b => add a (neg b)⟩

def mul : Binary64 → Binary64 → Binary64
  | .nan, _ => .nan
  | _, .nan => .nan
  | .infinity s, b => if b.magnitude = 0 then .nan else .infinity (s != b.isNegative)
  | a, .infinity t => if a.magnitude = 0 then .nan else .infinity (a.isNegative != t)
  | a@(.finite s ..), b@(.finite t ..) => round (s != t) (a.magnitude * b.magnitude) unit

instance : Mul Binary64 := ⟨mul⟩

/-- The product of `a` and `b` with `c` added before it is rounded. -/
def mulAdd : Binary64 → Binary64 → Binary64 → Binary64
  | a@(.finite s ..), b@(.finite t ..), c@(.finite r ..) =>
    let sum := a.ticks * b.ticks + c.ticks * unit
    if sum = 0 then zero ((s != t) && r) else nearest sum unit
  | .finite .., .finite .., c => c
  | a, b, c => a * b + c

def div : Binary64 → Binary64 → Binary64
  | .nan, _ => .nan
  | _, .nan => .nan
  | .infinity _, .infinity _ => .nan
  | .infinity s, .finite t .. => .infinity (s != t)
  | .finite s .., .infinity t => zero (s != t)
  | a@(.finite s ..), b@(.finite t ..) =>
    if b.magnitude = 0 then
      if a.magnitude = 0 then .nan else .infinity (s != t)
    else round (s != t) (a.magnitude * unit) b.magnitude

instance : Div Binary64 := ⟨div⟩

/-- What is left of `a` after whole multiples of `b` towards zero. It has the sign of `a`. -/
def rem : Binary64 → Binary64 → Binary64
  | .nan, _ => .nan
  | _, .nan => .nan
  | .infinity _, _ => .nan
  | a, .infinity _ => a
  | a@(.finite s ..), b =>
    if b.magnitude = 0 then .nan else round s (a.magnitude % b.magnitude) 1

/-- The remainder moved up by one modulus where it is negative. -/
def remEuclid (a b : Binary64) : Binary64 :=
  let r := rem a b
  if r.lt 0 then r + b.abs else r

/-- The length of the hypotenuse. Twice the root is taken of four times the sum of squares, so
that an inexact root stays apart from every double and from every midpoint of two.

Implementations may differ in the last place of this operation; here the exact root is rounded once.
Arcs rely on less: the length is infinite next to an infinite side, finite only between finite ones,
never negative, zero between zeros, and positive as soon as one of the sides is not zero. -/
def hypot (a b : Binary64) : Binary64 :=
  match a, b with
  | .infinity _, _ => .infinity false
  | _, .infinity _ => .infinity false
  | .nan, _ => .nan
  | _, .nan => .nan
  | a, b =>
    let n := 4 * (a.magnitude * a.magnitude + b.magnitude * b.magnitude)
    let s := floorSqrt n
    round false (if s * s = n then 2 * s else 2 * s + 1) 4

/-- The whole number a double is, if it is one. -/
def toInt? : Binary64 → Option Int
  | x@(.finite ..) => if x.magnitude % unit = 0 then some (x.ticks / unit) else none
  | _ => none

end Toolpath.Binary64
