import Toolpath.Number.Decimal

/-!
# Written numbers

A number as it is written, in the common form of the document formats: a minus or nothing, digits,
and possibly a point with digits and an exponent with digits.
-/

namespace Toolpath

structure Written where
  negative : Bool
  whole : List Char
  /-- The digits after the point, where there is one. -/
  fraction : Option (List Char) := none
  /-- The sign of the exponent as it is written, and its digits. -/
  exponent : Option (Option Char × List Char) := none
  deriving DecidableEq

namespace Written

def text (w : Written) : List Char :=
  (if w.negative then ['-'] else []) ++ w.whole ++
    (match w.fraction with
      | none => []
      | some ds => '.' :: ds) ++
    match w.exponent with
    | none => []
    | some (sign, ds) => 'e' :: sign.toList ++ ds

def isInteger (w : Written) : Bool := w.fraction.isNone && w.exponent.isNone

def ofNat (n : Nat) : Written := { negative := false, whole := digitsOfNat n }

end Written

end Toolpath
