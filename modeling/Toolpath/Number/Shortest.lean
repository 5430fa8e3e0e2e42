import Toolpath.Number.Decimal

/-!
# Shortest digits

The shortest decimal of a double is the one with the fewest digits among those that read back as
the same double, and the nearest of these. It is looked for on the grids of multiples of a power of
ten, from a coarse grid to finer ones: the first grid with a point that reads back wins. On every
grid only the two neighbours of the double have to be tried.
-/

namespace Toolpath

/-- Which of two equally near decimals is taken. -/
inductive Tie where
  | toEven
  | up
  deriving DecidableEq

namespace Shortest

/-- The numbers that round to a double, in quarters of a tick. -/
structure Interval where
  low : Nat
  mid : Nat
  high : Nat
  /-- The ends round to the double too. -/
  closed : Bool

/-- Half the way to the next double on either side. Below a coefficient that has just grown to its
full width the doubles stand twice as close. -/
def interval (m p : Nat) : Interval :=
  let mid := 4 * (m <<< p)
  let step := 2 <<< p
  let down := if m = 4503599627370496 ∧ 0 < p then 1 <<< p else step
  ⟨mid - down, mid, mid + step, m % 2 = 0⟩

/-- A power of ten as a quotient, in quarters of a tick. -/
def tenPower : Int → Nat × Nat
  | .ofNat k => (4 * Binary64.unit * Nat.pow 10 k, 1)
  | .negSucc k => (4 * Binary64.unit, Nat.pow 10 (k + 1))

/-- The multiples of `10 ^ k` around the middle that lie in the interval, the nearer one first to be
taken. -/
def onGrid? (tie : Tie) (i : Interval) (k : Int) : Option Nat :=
  let (num, den) := tenPower k
  let inside (c : Nat) : Bool :=
    if i.closed then i.low * den ≤ c * num && c * num ≤ i.high * den
    else i.low * den < c * num && c * num < i.high * den
  let mid := i.mid * den
  let c := mid / num
  let below := mid - c * num
  let above := (c + 1) * num - mid
  let takeUpper := match tie with
    | .toEven => above < below || above = below && c % 2 = 1
    | .up => above ≤ below
  if inside c && inside (c + 1) then some (if takeUpper then c + 1 else c)
  else if inside c then some c
  else if inside (c + 1) then some (c + 1)
  else none

/-- Tries the grids from `10 ^ k` on downwards. -/
def search (tie : Tie) (i : Interval) : Nat → Int → Nat × Int
  | 0, k => (i.mid * (tenPower k).2 / (tenPower k).1, k)
  | fuel + 1, k =>
    match onGrid? tie i k with
    | some c => (c, k)
    | none => search tie i fuel (k - 1)

/-- A power of ten just above the double: no multiple of a greater one reads back. -/
def coarsest (m p : Nat) : Int := (((m <<< p).log2 : Int) - 1074) * 30103 / 100000 + 1

end Shortest

/-- The shortest decimal of a finite double. Seventeen digits always suffice. -/
def Decimal.shortest (tie : Tie) (negative : Bool) (m p : Nat) : Decimal :=
  if m = 0 then ⟨negative, 0, 0⟩
  else
    let (c, k) := Shortest.search tie (Shortest.interval m p) 20 (Shortest.coarsest m p)
    ⟨negative, c, k⟩

end Toolpath
