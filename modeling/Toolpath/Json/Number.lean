import Toolpath.Json.Value
import Toolpath.Number.Arithmetic

/-!
# Numbers in JSON documents

An integer is read exactly when 64 binary digits hold it. Any other number is read as a double from
the digits that 64 binary digits hold: the remaining digits before the point only count as powers of
ten, the remaining ones after it not at all, and the power of ten is applied by one multiplication
or division wherever one is enough. The double is therefore near the number as it is written, but
not always the nearest.
-/

namespace Toolpath.Json

def tenToThe (n : Nat) : Binary64 := .round false (Nat.pow 10 n * Binary64.unit) 1

/-- The digits that are kept and the power of ten that goes with them. -/
structure Kept where
  significand : Nat
  exponent : Int

/-- One more digit if there is room for it. -/
def Kept.push? (n : Nat) (c : Char) : Option Nat :=
  let n := 10 * n + digitValue c
  if n < 18446744073709551616 then some n else none

/-- Digits before the point. After the first one without room every digit is a power of ten. -/
def Kept.whole (k : Kept) : List Char → Kept
  | [] => k
  | c :: cs =>
    match push? k.significand c with
    | some n => Kept.whole { k with significand := n } cs
    | none => { k with exponent := k.exponent + (cs.length + 1) }

/-- Digits after the point, up to the first one without room. -/
def Kept.fraction (k : Kept) : List Char → Kept
  | [] => k
  | c :: cs =>
    match push? k.significand c with
    | some n => Kept.fraction ⟨n, k.exponent - 1⟩ cs
    | none => k

def Kept.ofWritten (w : Written) : Kept :=
  ((⟨0, 0⟩ : Kept).whole w.whole).fraction (w.fraction.getD [])

def writtenExponent (w : Written) : Int :=
  match w.exponent with
  | none => 0
  | some (some '-', ds) => -(natOfDigits ds : Int)
  | some (_, ds) => natOfDigits ds

/-- Powers of ten that fit into 32 binary digits; beyond them a written exponent is not added. -/
def isLong (e : Int) : Bool := 2147483647 < e.natAbs

/-- Divides by the greatest power of ten that is a double as long as more than that is missing.
Nothing is left after a few divisions. -/
def divideDown : Nat → Binary64 → Int → Option Binary64
  | fuel, f, e =>
    if e.natAbs ≤ 308 then
      if 0 ≤ e then
        let f := f * tenToThe e.natAbs
        if f.isFinite then some f else none
      else some (f / tenToThe e.natAbs)
    else if f.eq 0 then some f
    else if 0 ≤ e then none
    else match fuel with
      | 0 => some 0
      | fuel + 1 => divideDown fuel (f / tenToThe 308) (e + 308)

/-- A number as a double, unless it is beyond the finite ones. -/
def toDouble? (w : Written) : Option Binary64 :=
  let k := Kept.ofWritten w
  let e := writtenExponent w
  let magnitude :=
    if w.isInteger && k.exponent = 0 then some (Binary64.ofNat k.significand)
    else if isLong e then
      if 0 < e && k.significand != 0 then none else some 0
    else divideDown 4 (.ofNat k.significand) (k.exponent + e)
  magnitude.map fun f => if w.negative then f.neg else f

/-- A number written as a natural number, if it is at most the given one. -/
def toNat? (greatest : Nat) (w : Written) : Option Nat :=
  if w.isInteger && !w.negative then
    let n := natOfDigits w.whole
    if n ≤ greatest then some n else none
  else none

end Toolpath.Json
