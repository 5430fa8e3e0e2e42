import Toolpath.Geometry.Arc

/-!
# Moves

A move goes from one point to another, straight or along an arc around a center. It touches its two
ends and, on an arc, the extremes.
-/

namespace Toolpath

inductive Path where
  | straight
  | arc (center : Point) (clockwise : Bool)
  deriving DecidableEq

structure Move where
  start : Point
  finish : Point
  path : Path
  deriving DecidableEq

namespace Move

def isArc (m : Move) : Bool :=
  match m.path with
  | .straight => false
  | .arc .. => true

def extremes (m : Move) : List Point :=
  match m.path with
  | .straight => []
  | .arc center clockwise => Arc.extremes m.start m.finish center clockwise

def points (m : Move) : List Point := m.start :: m.finish :: m.extremes

end Move

end Toolpath
