import Toolpath.Geometry.Point
import Toolpath.Number.Angle

/-!
# Arcs

The points where an arc can reach furthest are the four cardinal points of its circle. Those that
the sweep from start to finish passes are the extremes of the arc. Angles are measured
counter-clockwise from the direction of the first axis, from zero up to a full turn.
-/

namespace Toolpath.Arc

/-- The angle within one turn. What rounds up to a full turn is none. -/
def normalize (angle : Binary64) : Binary64 :=
  let a := angle.remEuclid .tau
  if Binary64.tau.le a then 0 else a

def angleAround (center point : Point) : Binary64 :=
  normalize (.atan2 (point.y - center.y) (point.x - center.x))

/-- The sweep from `start` to `finish` meets the direction `theta`. Equal angles make a full turn.
The far end is moved up by a turn where the sweep crosses the seam, and `theta` is tried in both
turns. -/
def sweepContains (start finish theta : Binary64) (clockwise : Bool) : Bool :=
  let low := if clockwise then finish else start
  let high :=
    if clockwise then if start.le finish then start + .tau else start
    else if finish.le start then finish + .tau else finish
  let within (angle : Binary64) := low.le angle && angle.le high
  within theta || within (theta + .tau)

/-- The cardinal points of a circle with the angles at which they are seen: east, north, west and
south. -/
def cardinals (center : Point) (radius : Binary64) : List (Point × Binary64) :=
  [(⟨center.x + radius, center.y⟩, 0),
    (⟨center.x, center.y + radius⟩, .halfPi),
    (⟨center.x - radius, center.y⟩, .pi),
    (⟨center.x, center.y - radius⟩, 3 * .halfPi)]

/-- The cardinal points that the arc passes. An arc that starts on its center has none, and
neither has one without a finite radius. -/
def extremes (start finish center : Point) (clockwise : Bool) : List Point :=
  let radius := start.distance center
  if radius.le 0 || !radius.isFinite then []
  else
    let a := angleAround center start
    let b := angleAround center finish
    ((cardinals center radius).filter fun c => sweepContains a b c.2 clockwise).map (·.1)

end Toolpath.Arc
