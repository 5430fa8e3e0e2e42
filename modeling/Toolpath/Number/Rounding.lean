import Toolpath.Number.Binary64

/-!
# Rounding

An exact result is a quotient of two integers, counted in ticks. It goes to the nearest double, and
to the one with the even coefficient when two are equally near. A quotient that rounds past the
largest finite double becomes an infinity.
-/

namespace Toolpath

/-- The integer nearest to `a / d`; a half goes to the even neighbour. -/
def roundHalfEven (a d : Nat) : Nat :=
  let q := a / d
  let r := a % d
  if 2 * r < d then q else if d < 2 * r then q + 1 else q + q % 2

/-- The integer square root, by the binary digits from the highest down. -/
def floorSqrt (n : Nat) : Nat :=
  go (n.log2 / 2 + 1) 0
where
  /-- Adds each of the lowest digits, the highest first, that keeps the square within the number. -/
  go : Nat → Nat → Nat
    | 0, r => r
    | i + 1, r =>
      let s := r + 1 <<< i
      go i (if s * s ≤ n then s else r)

namespace Binary64

/-- The double with this coefficient and shift. A coefficient that was rounded up to 54 digits is
halved, and what does not fit is infinite. -/
def place (negative : Bool) (m p : Nat) : Binary64 :=
  let (m, p) := if m = 9007199254740992 then (4503599627370496, p + 1) else (m, p)
  if h : Canonical m p then .finite negative m p h else .infinity negative

/-- The shift that leaves 53 binary digits of a number of ticks, or all where there are fewer. -/
def shiftOf (n : Nat) : Nat := n.log2 - 52

/-- The double nearest to `a / d` ticks on the given side of zero. -/
def round (negative : Bool) (a d : Nat) : Binary64 :=
  let p := shiftOf (a / d)
  place negative (roundHalfEven a (d <<< p)) p

/-- The double nearest to `a / d` ticks. -/
def nearest (a : Int) (d : Nat) : Binary64 := round (decide (a < 0)) a.natAbs d

end Binary64

end Toolpath
