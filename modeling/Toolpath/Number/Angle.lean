import Toolpath.Number.Arctangent

/-!
# The angle of a vector

The angle is counted from the axis nearest to the vector, on which its arc tangent is at most one.
On the axes the angle is a multiple of the double nearest to a quarter turn, and elsewhere it stays
within the two multiples that border its quadrant.
-/

namespace Toolpath

namespace Binary64

/-- The double nearest to a half turn. -/
def pi : Binary64 := .finite false 7074237752028440 1023 (by decide)

/-- The double nearest to a quarter turn. -/
def halfPi : Binary64 := .finite false 7074237752028440 1022 (by decide)

/-- The double nearest to a full turn. -/
def tau : Binary64 := .finite false 7074237752028440 1024 (by decide)

def quarterTurn : Refined := ⟨halfPi, .finite false 4967757600021511 968 (by decide)⟩

def halfTurn : Refined := ⟨pi, .finite false 4967757600021511 969 (by decide)⟩

/-- The angle of a vector off the axes, from its distances to them. -/
def quadrantAngle (left : Bool) (y x : Nat) : Binary64 :=
  if left then
    max halfPi <| min pi <|
      if y ≤ x then Refined.angleFrom halfTurn true (.quotient y x)
      else Refined.angleFrom quarterTurn false (.quotient x y)
  else
    max 0 <| min halfPi <|
      if y ≤ x then Refined.arctan (.quotient y x)
      else Refined.angleFrom quarterTurn true (.quotient x y)

/-- The angle above the axis, without the sign that tells the side. -/
def angleOf (left : Bool) (y x : Nat) : Binary64 :=
  if y = 0 then if left then pi else 0
  else if x = 0 then halfPi
  else quadrantAngle left y x

/-- The direction that the distances to the axes give. An infinite one outweighs a finite one. -/
def direction (y x : Binary64) : Nat × Nat :=
  match y, x with
  | .infinity _, .infinity _ => (1, 1)
  | .infinity _, _ => (1, 0)
  | _, .infinity _ => (0, 1)
  | y, x => (y.magnitude, x.magnitude)

/-- The angle of the vector `(x, y)`, with the sign of `y`, between minus and plus a half turn. -/
def atan2 (y x : Binary64) : Binary64 :=
  if y.isNaN || x.isNaN then .nan
  else
    let (v, u) := direction y x
    let a := angleOf x.isNegative v u
    if y.isNegative then neg a else a

end Binary64

end Toolpath
