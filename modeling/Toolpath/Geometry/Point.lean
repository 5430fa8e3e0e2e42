import Toolpath.Number.Arithmetic
import Toolpath.Number.Fixed

/-!
# Points of the plane
-/

namespace Toolpath

structure Point where
  x : Binary64
  y : Binary64
  deriving DecidableEq

namespace Point

def origin : Point := ⟨0, 0⟩

instance : Inhabited Point := ⟨origin⟩

def distance (p q : Point) : Binary64 := .hypot (p.x - q.x) (p.y - q.y)

def offset (p : Point) (dx dy : Binary64) : Point := ⟨p.x + dx, p.y + dy⟩

/-- Equality of the coordinates as numbers. -/
def eq (p q : Point) : Bool := p.x.eq q.x && p.y.eq q.y

def text (p : Point) : String := "(" ++ fixed 3 p.x ++ ", " ++ fixed 3 p.y ++ ")"

end Point

end Toolpath
