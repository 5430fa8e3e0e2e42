import Toolpath.Frame.Survey

/-!
# Outlines

The outline of a box is the list of commands that trace it: the unit, where there is one, absolute
coordinates, a rapid to the least corner and a feed move to every corner after it.
-/

namespace Toolpath

/-- A coordinate with three places. What rounds to zero has no sign. -/
def coordText (v : Binary64) : List Char :=
  let t := fixedText 3 v
  if t = ['-', '0', '.', '0', '0', '0'] then ['0', '.', '0', '0', '0'] else t

def coord (v : Binary64) : String := String.ofList (coordText v)

def targetWords (p : Point) : String := "X" ++ coord p.x ++ " Y" ++ coord p.y

structure Outline where
  unit : Option LengthUnit
  commands : List String
  deriving DecidableEq

namespace Outline

def ofBox (b : Box) (unit : Option LengthUnit) : Outline where
  unit := unit
  commands := (unit.map LengthUnit.command).toList ++ "G90" ::
    match b.corners.map targetWords with
    | [] => []
    | first :: rest => ("G0 " ++ first) :: rest.map ("G1 " ++ ·)

def program (o : Outline) : String := "\n".intercalate o.commands ++ "\n"

end Outline

def Frame.outline (f : Frame) : Outline := .ofBox f.bounds f.unit

end Toolpath
