import Toolpath.Geometry.Point
import Toolpath.Number.Reading
import Toolpath.Text.Blank
import Toolpath.Text.Quoted

/-!
# Positions as they are typed

A position is typed as two numbers with a comma between them. Blanks around a number are allowed,
and both numbers are finite.
-/

namespace Toolpath

inductive PositionError where
  | noComma (text : String)
  | coordinate (text : String)
  deriving DecidableEq

def PositionError.message : PositionError → String
  | noComma text => "expected X,Y but got " ++ quoted text
  | coordinate text => "invalid coordinate " ++ quoted text

namespace Point

def coordinate (text : List Char) : Except PositionError Binary64 :=
  match (Binary64.read? (trim text)).filter Binary64.isFinite with
  | some v => .ok v
  | none => .error (.coordinate (String.ofList text))

/-- The first comma divides the text, and the number before it is looked at first. -/
def ofText (text : String) : Except PositionError Point :=
  match text.toList.dropWhile (· ≠ ',') with
  | _ :: y =>
    match coordinate (text.toList.takeWhile (· ≠ ',')) with
    | .error e => .error e
    | .ok x =>
      match coordinate y with
      | .error e => .error e
      | .ok y => .ok ⟨x, y⟩
  | [] => .error (.noComma text)

end Point

end Toolpath
