import Toolpath.Number.Shortest
import Toolpath.Number.Written

/-!
# Laying a double out

The shortest decimal of a double is written with a point and a digit on both sides of it, or with an
exponent. A layout says where each form is used, so every output format that writes doubles has one
layout as its whole rule.
-/

namespace Toolpath

/-- How doubles are written in one format. -/
structure Layout where
  /-- The powers of ten of the leading digit that are written out in full. -/
  positional : Int → Bool
  /-- A plus sign stands before an exponent that is not negative. -/
  plus : Bool
  tie : Tie

namespace Layout

/-- Digits with a point. A digit stands on both sides of the point. -/
def positionalForm (negative : Bool) (digits : List Char) (exponent : Int) : Written :=
  match exponent with
  | .ofNat k => ⟨negative, digits ++ List.replicate k '0', some ['0'], none⟩
  | .negSucc k =>
    let padded := List.replicate (k + 2 - digits.length) '0' ++ digits
    let point := padded.length - (k + 1)
    ⟨negative, padded.take point, some (padded.drop point), none⟩

/-- One digit before the point, the others after it, and the power of ten of the first. -/
def scientificForm (plus negative : Bool) (digits : List Char) (leading : Int) : Written :=
  let sign := if leading < 0 then some '-' else if plus then some '+' else none
  ⟨negative, digits.take 1, if digits.length ≤ 1 then none else some (digits.drop 1),
    some (sign, digitsOfNat leading.natAbs)⟩

def decimal (layout : Layout) (x : Decimal) : Written :=
  let digits := digitsOfNat x.coefficient
  let leading := x.exponent + digits.length - 1
  if layout.positional leading then positionalForm x.negative digits x.exponent
  else scientificForm layout.plus x.negative digits leading

/-- The written form of a finite double. -/
def written? (layout : Layout) : Binary64 → Option Written
  | .finite s m p _ => some (layout.decimal (Decimal.shortest layout.tie s m p))
  | _ => none

end Layout

/-- The texts of the doubles that have no digits. -/
def wordText : Binary64 → List Char
  | .infinity true => ['-', 'i', 'n', 'f']
  | .infinity false => ['i', 'n', 'f']
  | _ => ['N', 'a', 'N']

def Layout.text (layout : Layout) (x : Binary64) : List Char :=
  match layout.written? x with
  | some w => w.text
  | none => wordText x

end Toolpath
