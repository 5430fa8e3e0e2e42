import Toolpath.Number.Rounding

/-!
# Decimals

A decimal is a signed coefficient and a power of ten. Its double is the nearest one: the whole
decimal counts, however many digits it has. Text is split into runs of digits here, and what a run
stands for is a left fold.
-/

namespace Toolpath

/-- One of the ten digits that a number may be written with. -/
def isDigit (c : Char) : Bool := '0' ≤ c && c ≤ '9'

def digitValue (c : Char) : Nat := c.toNat - 48

/-- The number that a run of digits stands for, and zero for the empty run. -/
def natOfDigits (cs : List Char) : Nat := cs.foldl (fun n c => 10 * n + digitValue c) 0

/-- The digits of a number without a leading zero; zero itself has one digit. -/
def digitsOfNat (n : Nat) : List Char := Nat.toDigits 10 n

structure Decimal where
  negative : Bool
  coefficient : Nat
  exponent : Int
  deriving DecidableEq

namespace Decimal

/-- The decimal with these digits before and after the point. -/
def ofDigits (negative : Bool) (whole fraction : List Char) (exponent : Int) : Decimal :=
  ⟨negative, natOfDigits (whole ++ fraction), exponent - fraction.length⟩

/-- The double nearest to a decimal. A power of ten far beyond the range of doubles is not formed:
a coefficient with `n` binary digits is less than the `n`-th power of ten. -/
def toBinary64 (x : Decimal) : Binary64 :=
  if x.coefficient = 0 then Binary64.zero x.negative
  else if 400 < x.exponent then .infinity x.negative
  else if x.exponent + x.coefficient.log2 + 1 < -400 then Binary64.zero x.negative
  else match x.exponent with
    | .ofNat k => .round x.negative (x.coefficient * Nat.pow 10 k * Binary64.unit) 1
    | .negSucc k => .round x.negative (x.coefficient * Binary64.unit) (Nat.pow 10 (k + 1))

end Decimal

end Toolpath
