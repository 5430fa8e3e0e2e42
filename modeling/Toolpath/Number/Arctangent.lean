import Toolpath.Number.ArctanNode
import Toolpath.Number.Arithmetic

/-!
# Arc tangents of quotients

The arc tangent of a quotient between zero and one, alone or counted from an axis, in the arithmetic
of doubles. What rounding leaves of the quotient and of the place of the axis is carried along, so
that the result misses the exact value by little more than half the distance between two doubles.

For a small quotient the arc tangent is a polynomial in its odd powers. For the others a table has a
point close by, its arc tangent, and a polynomial in the distance from the point. The results are
those of rounding each step once, in the order in which the steps are written here.
-/

namespace Toolpath

open Binary64

/-- A number as the double nearest to it and the double nearest to what that leaves. -/
structure Refined where
  lead : Binary64
  rest : Binary64

namespace Refined

/-- The quotient of two numbers. -/
def quotient (a b : Nat) : Refined :=
  let lead := round false (a * unit) b
  ⟨lead, nearest ((a * unit : Int) - lead.magnitude * b) b⟩

/-- The sum of two doubles. What rounding leaves of it is a double. -/
def sum (a b : Binary64) : Refined :=
  let lead := a + b
  ⟨lead, nearest (a.ticks + b.ticks - lead.ticks) 1⟩

end Refined

namespace Binary64

/-- So many parts of which `2 ^ 64` make one. -/
def ofParts (n : Int) : Binary64 := nearest (n * unit) (1 <<< 64)

/-- The polynomial with these coefficients, the one of the highest power first. -/
def polynomial (coefficients : List Binary64) (x : Binary64) : Binary64 :=
  coefficients.foldl (fun sum c => mulAdd sum x c) 0

/-- The coefficients of the odd powers from the thirteenth down to the third. -/
def oddCoefficients : List Binary64 :=
  [0x1375F08B31CBCE00, -0x17458022B13C2500, 0x1C71C6E5129A3B00, -0x249249247EEC0600,
    0x33333333332FFA00, -0x5555555555555400].map ofParts

/-- What the odd powers from the third on add to the arc tangent, over the cube. -/
def oddPowers (x : Binary64) : Binary64 := polynomial oddCoefficients (x * x)

def cube (x : Binary64) : Binary64 := x * (x * x)

end Binary64

namespace ArctanNode

/-- The place in the table of the point nearest to a number. -/
def index (x : Binary64) : Nat := roundHalfEven (x.magnitude * 256) unit - 16

/-- The point for a number from a sixteenth up to one. -/
def near (x : Binary64) : ArctanNode :=
  arctanNodes.getD (index x) ⟨0, 0, 0, 0, 0, 0, 0⟩

/-- The coefficients of the powers from the second on, the highest first. -/
def curve (n : ArctanNode) : List Binary64 := [n.fifth, n.fourth, n.third, n.second].map ofParts

end ArctanNode

namespace Refined

/-- Less than a sixteenth. -/
def isSmall (q : Refined) : Bool := q.lead.lt (ofParts (1 <<< 60))

/-- So small that the arc tangent rounds to the same double. -/
def isTiny (q : Refined) : Bool := q.lead.lt (ofParts (1 <<< 7))

/-- The arc tangent of a quotient up to one. -/
def arctan (q : Refined) : Binary64 :=
  if q.isTiny then q.lead
  else if q.isSmall then q.lead + mulAdd (cube q.lead) (oddPowers q.lead) q.rest
  else
    let node := ArctanNode.near q.lead
    let slope := ofParts node.first
    let d := sum (q.lead - ofParts node.point) q.rest
    let bend := d.lead * d.lead * polynomial node.curve d.lead
    ofParts node.value + mulAdd d.lead slope (mulAdd d.rest slope bend)

/-- The place of an axis with the arc tangent of a quotient up to one added to it, or taken away for
an angle behind the axis. -/
def angleFrom (axis : Refined) (behind : Bool) (q : Refined) : Binary64 :=
  let side (x : Binary64) := if behind then -x else x
  if q.isSmall then
    let s := sum axis.lead (side q.lead)
    s.lead + (axis.rest + s.rest + side q.rest + side (cube q.lead * oddPowers q.lead))
  else
    let node := ArctanNode.near q.lead
    let d := q.lead - ofParts node.point + q.rest
    let slope := polynomial (node.curve ++ [ofParts node.first]) d
    axis.lead + side (ofParts node.value) + mulAdd (side d) slope axis.rest

end Refined

end Toolpath
