import Toolpath.Geometry.Move

/-!
# Boxes

An upright rectangle that grows with every point it has to cover. The empty box stands for no point
at all: its least corner lies beyond everything and so does its greatest, the other way.
-/

namespace Toolpath

structure Box where
  min : Point
  max : Point
  deriving DecidableEq

namespace Box

def empty : Box :=
  ⟨⟨.infinity false, .infinity false⟩, ⟨.infinity true, .infinity true⟩⟩

instance : Inhabited Box := ⟨empty⟩

def isEmpty (b : Box) : Bool := b.max.x.lt b.min.x || b.max.y.lt b.min.y

def cover (b : Box) (p : Point) : Box :=
  ⟨⟨b.min.x.min p.x, b.min.y.min p.y⟩, ⟨b.max.x.max p.x, b.max.y.max p.y⟩⟩

def coverMove (b : Box) (m : Move) : Box := m.points.foldl cover b

/-- The least box around both. -/
def join (a b : Box) : Box :=
  ⟨⟨a.min.x.min b.min.x, a.min.y.min b.min.y⟩, ⟨a.max.x.max b.max.x, a.max.y.max b.max.y⟩⟩

/-- The box itself, or the origin alone when the box is empty. -/
def finalize (b : Box) : Box := if b.isEmpty then ⟨.origin, .origin⟩ else b

def width (b : Box) : Binary64 := if b.isEmpty then 0 else b.max.x - b.min.x

def height (b : Box) : Binary64 := if b.isEmpty then 0 else b.max.y - b.min.y

/-- The corners in the order in which they are traced, back to the first one. -/
def corners (b : Box) : List Point :=
  [b.min, ⟨b.max.x, b.min.y⟩, b.max, ⟨b.min.x, b.max.y⟩, b.min]

end Box

end Toolpath
