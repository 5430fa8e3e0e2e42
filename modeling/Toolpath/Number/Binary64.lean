/-!
# Doubles

A double is an integer number of ticks, where a tick is the least positive double and `unit` ticks
make one. A finite double keeps at most 53 binary digits of that integer as a coefficient and a
shift. They stand in the one form that the width allows, so two doubles with the same sign and the
same number of ticks are the same term.

Order is the order of the ticks: the infinities stand one step beyond the largest finite doubles,
and only the two zeros share a place. Every exact result below is a quotient of integers, counted
in ticks.
-/

namespace Toolpath

/-- The coefficient fills 53 binary digits, or nothing is shifted and it may be shorter. -/
def Binary64.Canonical (m p : Nat) : Prop :=
  m < 9007199254740992 ∧ p ≤ 2045 ∧ (4503599627370496 ≤ m ∨ p = 0)

instance (m p : Nat) : Decidable (Binary64.Canonical m p) :=
  inferInstanceAs (Decidable (_ ∧ _))

/-- A 64-bit binary floating-point number. Which of the many absent numbers one has is not kept. -/
inductive Binary64 where
  | nan
  | infinity (negative : Bool)
  | finite (negative : Bool) (coefficient shift : Nat)
      (canonical : Binary64.Canonical coefficient shift)
  deriving DecidableEq

namespace Binary64

/-- The number of ticks in one. -/
def unit : Nat := 1 <<< 1074

def zero (negative : Bool) : Binary64 := .finite negative 0 0 (by decide)

instance : OfNat Binary64 0 := ⟨zero false⟩

instance : Inhabited Binary64 := ⟨0⟩

def isNaN : Binary64 → Bool
  | .nan => true
  | _ => false

def isFinite : Binary64 → Bool
  | .finite .. => true
  | _ => false

/-- The sign, which a zero has too. An absent number has none. -/
def isNegative : Binary64 → Bool
  | .nan => false
  | .infinity s => s
  | .finite s .. => s

/-- The distance from zero in ticks. -/
def magnitude : Binary64 → Nat
  | .nan => 0
  | .infinity _ => 1 <<< 2098
  | .finite _ m p _ => m <<< p

/-- The place on the line in ticks. -/
def ticks (x : Binary64) : Int := if x.isNegative then -(x.magnitude : Int) else x.magnitude

/-- An absent number compares with nothing, not even with itself. -/
def le (a b : Binary64) : Bool := !a.isNaN && !b.isNaN && decide (a.ticks ≤ b.ticks)

def lt (a b : Binary64) : Bool := !a.isNaN && !b.isNaN && decide (a.ticks < b.ticks)

/-- Equality as numbers: the two zeros are equal, and an absent number equals nothing. -/
def eq (a b : Binary64) : Bool := !a.isNaN && !b.isNaN && decide (a.ticks = b.ticks)

def neg : Binary64 → Binary64
  | .nan => .nan
  | .infinity s => .infinity (!s)
  | .finite s m p h => .finite (!s) m p h

def abs : Binary64 → Binary64
  | .nan => .nan
  | .infinity _ => .infinity false
  | .finite _ m p h => .finite false m p h

/-- The lesser of two; an absent number gives way to the other. -/
def min (a b : Binary64) : Binary64 :=
  if a.isNaN then b else if b.isNaN || decide (a.ticks ≤ b.ticks) then a else b

/-- The greater of two; an absent number gives way to the other. -/
def max (a b : Binary64) : Binary64 :=
  if a.isNaN then b else if b.isNaN || decide (b.ticks ≤ a.ticks) then a else b

end Binary64

end Toolpath
