import Toolpath.Number.Layout

/-!
# A fixed number of places

The exact value is rounded to a multiple of a power of ten, a half to the even neighbour, and
written out in full. The sign is kept, also where nothing but zeros is left.
-/

namespace Toolpath

/-- The multiple of the last place that is nearest to a magnitude. -/
def Binary64.scaled (places : Nat) (x : Binary64) : Nat :=
  roundHalfEven (x.magnitude * Nat.pow 10 places) Binary64.unit

/-- The digits of a number, with zeros in front up to the given count. -/
def paddedDigits (count n : Nat) : List Char :=
  let ds := digitsOfNat n
  List.replicate (count - ds.length) '0' ++ ds

/-- A magnitude in units of the last place. -/
def placesForm (negative : Bool) (places n : Nat) : Written :=
  let one := Nat.pow 10 places
  ⟨negative, digitsOfNat (n / one), some (paddedDigits places (n % one)), none⟩

/-- A double with the given positive number of places. -/
def fixedText (places : Nat) (x : Binary64) : List Char :=
  if x.isFinite then (placesForm x.isNegative places (x.scaled places)).text else wordText x

def fixed (places : Nat) (x : Binary64) : String := String.ofList (fixedText places x)

end Toolpath
