import Toolpath.Json.Decode
import Toolpath.Proofs.Number.Written

/-!
# The digits of numbers in JSON documents

What a double is written as has so few digits that the reader keeps all of them as an integer. What
is read is then a matter of that integer and one power of ten.
-/

namespace Toolpath

namespace Json

/-! ## The digits that are kept -/

section Steps

-- Unfolding has to stop at the value of a digit, whose difference would be unrolled again and again.
attribute [local irreducible] digitValue

theorem Kept.whole_cons (k : Kept) (c : Char) (cs : List Char) : k.whole (c :: cs) =
    match push? k.significand c with
    | some n => Kept.whole { k with significand := n } cs
    | none => { k with exponent := k.exponent + (cs.length + 1) } := rfl

theorem Kept.fraction_cons (k : Kept) (c : Char) (cs : List Char) : k.fraction (c :: cs) =
    match push? k.significand c with
    | some n => Kept.fraction ⟨n, k.exponent - 1⟩ cs
    | none => k := rfl

end Steps

theorem Kept.push?_eq {n : Nat} {c : Char} (h : 10 * n + digitValue c < 18446744073709551616) :
    Kept.push? n c = some (10 * n + digitValue c) := by
  rw [push?]
  simp only [h, if_true]

theorem natOfDigits_cons (c : Char) (cs : List Char) :
    natOfDigits (c :: cs) = 10 ^ cs.length * digitValue c + natOfDigits cs := by
  have hc : natOfDigits [c] = digitValue c := by simp [natOfDigits]
  rw [← List.singleton_append, natOfDigits_append, hc]

/-- The number of the digits that were kept and of the ones behind them. -/
def keep (n : Nat) (cs : List Char) : Nat := 10 ^ cs.length * n + natOfDigits cs

theorem keep_zero (cs : List Char) : keep 0 cs = natOfDigits cs := by
  rw [keep, Nat.mul_zero, Nat.zero_add]

theorem keep_nil (n : Nat) : keep n [] = n := by
  rw [keep, List.length_nil, pow_zero, one_mul]
  rfl

theorem keep_cons (n : Nat) (c : Char) (cs : List Char) :
    keep n (c :: cs) = keep (10 * n + digitValue c) cs := by
  rw [keep, keep, natOfDigits_cons, List.length_cons, pow_succ]
  ring

theorem keep_keep (n : Nat) (cs ds : List Char) : keep (keep n cs) ds = keep n (cs ++ ds) := by
  rw [keep, keep, keep, natOfDigits_append, List.length_append, pow_add]
  ring

theorem le_keep (n : Nat) (cs : List Char) : n ≤ keep n cs :=
  le_add_right (Nat.le_mul_of_pos_left n (Nat.pow_pos (by decide)))

/-- All digits are kept where 64 binary digits hold the number of all of them. -/
theorem Kept.whole_eq {n : Nat} {e : Int} {cs : List Char} (h : keep n cs < 18446744073709551616) :
    Kept.whole ⟨n, e⟩ cs = ⟨keep n cs, e⟩ := by
  induction cs generalizing n with
  | nil => rw [keep_nil]; rfl
  | cons c cs ih =>
      rw [keep_cons] at h ⊢
      rw [whole_cons, push?_eq ((le_keep _ cs).trans_lt h)]
      exact ih h

theorem Kept.fraction_eq {n : Nat} {e : Int} {cs : List Char} (h : keep n cs < 18446744073709551616) :
    Kept.fraction ⟨n, e⟩ cs = ⟨keep n cs, e - cs.length⟩ := by
  induction cs generalizing n e with
  | nil =>
      rw [keep_nil, List.length_nil, Nat.cast_zero, sub_zero]
      rfl
  | cons c cs ih =>
      rw [keep_cons] at h ⊢
      rw [fraction_cons, push?_eq ((le_keep _ cs).trans_lt h)]
      refine (ih h).trans ?_
      rw [List.length_cons]
      congr 1
      push_cast
      ring

theorem Kept.ofWritten_eq {w : Written} (h : w.mantissa.coefficient < 18446744073709551616) :
    Kept.ofWritten w = ⟨w.mantissa.coefficient, w.mantissa.exponent⟩ := by
  have hall : keep (keep 0 w.whole) (w.fraction.getD []) = w.mantissa.coefficient := by
    rw [keep_keep, keep_zero]
    rfl
  have hwhole := (le_keep (keep 0 w.whole) (w.fraction.getD [])).trans_lt (hall ▸ h)
  rw [ofWritten, whole_eq hwhole, fraction_eq (hall ▸ h), hall]
  rfl

/-- A number with a point or an exponent is read from its digits where none of them is dropped. -/
theorem toDouble?_eq_map {w : Written} (hinteger : w.isInteger = false)
    (hlong : isLong (writtenExponent w) = false)
    (hcoefficient : w.mantissa.coefficient < 18446744073709551616) :
    toDouble? w = (divideDown 4 (.ofNat w.mantissa.coefficient)
      (w.mantissa.exponent + writtenExponent w)).map fun f ↦ if w.negative then f.neg else f := by
  rw [toDouble?, Kept.ofWritten_eq hcoefficient, hinteger, hlong]
  simp only [Bool.false_and, Bool.false_eq_true, if_false]

theorem toDouble?_eq_divideDown {w : Written} (hpositive : w.negative = false)
    (hinteger : w.isInteger = false) (hlong : isLong (writtenExponent w) = false)
    (hcoefficient : w.mantissa.coefficient < 18446744073709551616) :
    toDouble? w = divideDown 4 (.ofNat w.mantissa.coefficient)
      (w.mantissa.exponent + writtenExponent w) := by
  rw [toDouble?_eq_map hinteger hlong hcoefficient, hpositive]
  exact Option.map_id'

theorem writtenExponent_scientificForm (plus s : Bool) (ds : List Char) (leading : Int) :
    writtenExponent (Layout.scientificForm plus s ds leading) = leading := by
  have hvalue : natOfDigits (digitsOfNat leading.natAbs) = leading.natAbs :=
    natOfDigits_digitsOfNat leading.natAbs
  by_cases hleading : leading < 0
  · simp only [writtenExponent, Layout.scientificForm, hleading, if_true, hvalue]
    omega
  · have hread : writtenExponent (Layout.scientificForm plus s ds leading) =
        natOfDigits (digitsOfNat leading.natAbs) := by
      cases plus <;> simp [writtenExponent, Layout.scientificForm, hleading]
    rw [hread, hvalue]
    omega

theorem ten_pow_le_of_lt_length {c j : Nat} (hc : c ≠ 0) (h : j < (digitsOfNat c).length) :
    10 ^ j ≤ c := by
  rcases Nat.eq_zero_or_pos j with rfl | hj
  · exact Nat.one_le_iff_ne_zero.mpr hc
  · by_contra hlt
    have hle := (Nat.length_toDigits_le_iff (by decide : 1 < 10) hj).mpr (not_le.mp hlt)
    exact absurd h (not_lt.mpr hle)

theorem length_digitsOfNat_le {c j : Nat} (hj : 0 < j) (h : c < 10 ^ j) : (digitsOfNat c).length ≤ j :=
  (Nat.length_toDigits_le_iff (by decide) hj).mpr h

theorem lt_ten_pow_length (c : Nat) : c < 10 ^ (digitsOfNat c).length :=
  (Nat.length_toDigits_le_iff (by decide) (List.length_pos_iff.mpr (isRun_digitsOfNat c).1)).mp le_rfl

/-! ## The digits of a decimal -/

/-- The digits that a decimal is written with, and the power of ten that goes with them. A whole
number that is written in full has one more zero, behind its point. -/
def spelled (c : Nat) (k : Int) : Decimal :=
  if layout.positional (k + (digitsOfNat c).length - 1) ∧ 0 ≤ k then ⟨false, c * 10 ^ (k.toNat + 1), -1⟩
  else ⟨false, c, k⟩

section Spelled

variable {c : Nat} {k : Int}

theorem spelled_of_neg (h : k < 0) : spelled c k = ⟨false, c, k⟩ := if_neg (by omega)

theorem spelled_natCast {j : Nat} (h : layout.positional (j + (digitsOfNat c).length - 1)) :
    spelled c j = ⟨false, c * 10 ^ (j + 1), -1⟩ := if_pos ⟨h, by omega⟩

theorem spelled_of_not_positional (h : ¬layout.positional (k + (digitsOfNat c).length - 1)) :
    spelled c k = ⟨false, c, k⟩ := if_neg fun hboth ↦ h hboth.1

theorem mul_ten_pow_lt_of_positional {j : Nat} (h : layout.positional (j + (digitsOfNat c).length - 1)) :
    c * 10 ^ (j + 1) < 10 ^ 17 := by
  have hleading : j + (digitsOfNat c).length ≤ 16 := by
    simp only [layout, Bool.and_eq_true, decide_eq_true_eq] at h
    omega
  calc
    c * 10 ^ (j + 1) < 10 ^ (digitsOfNat c).length * 10 ^ (j + 1) :=
      Nat.mul_lt_mul_of_pos_right (lt_ten_pow_length c) (Nat.pow_pos (by decide))
    _ = 10 ^ ((digitsOfNat c).length + (j + 1)) := (pow_add _ _ _).symm
    _ ≤ 10 ^ 17 := Nat.pow_le_pow_right (by decide) (by omega)

theorem toDouble?_positional (hc : c < 10 ^ 19)
    (hpositional : layout.positional (k + (digitsOfNat c).length - 1)) :
    toDouble? (Layout.positionalForm false (digitsOfNat c) k) =
      divideDown 4 (.ofNat (spelled c k).coefficient) (spelled c k).exponent := by
  obtain ⟨⟨fraction, hfraction⟩, hexponent⟩ := Layout.positionalForm_parts false (digitsOfNat c) k
  have hinteger : (Layout.positionalForm false (digitsOfNat c) k).isInteger = false := by
    rw [Written.isInteger, hfraction]
    rfl
  have hnone : writtenExponent (Layout.positionalForm false (digitsOfNat c) k) = 0 := by
    rw [writtenExponent, hexponent]
  have hlong : isLong (writtenExponent (Layout.positionalForm false (digitsOfNat c) k)) = false := by
    rw [hnone]
    rfl
  cases k with
  | ofNat j =>
      rw [Int.ofNat_eq_natCast] at hpositional hinteger hnone hlong ⊢
      have hlt := mul_ten_pow_lt_of_positional hpositional
      have hform := Layout.mantissa_positionalForm_ofNat false c j
      rw [toDouble?_eq_divideDown rfl hinteger hlong (by rw [hform]; exact hlt.trans (by decide)),
        hform, hnone, spelled_natCast hpositional, add_zero]
  | negSucc j =>
      have hform := Layout.mantissa_positionalForm_negSucc false c j
      rw [toDouble?_eq_divideDown rfl hinteger hlong (by rw [hform]; exact hc.trans (by decide)),
        hform, hnone, spelled_of_neg (Int.negSucc_lt_zero j), add_zero]

theorem toDouble?_scientific (hc : c < 10 ^ 19) (hlow : -400 ≤ k) (hhigh : k ≤ 400) (plus : Bool) :
    toDouble? (Layout.scientificForm plus false (digitsOfNat c)
        (k + (digitsOfNat c).length - 1)) = divideDown 4 (.ofNat c) k := by
  have hlength := length_digitsOfNat_le (by decide) hc
  have hexponent := writtenExponent_scientificForm plus false (digitsOfNat c)
    (k + (digitsOfNat c).length - 1)
  have hform := Layout.mantissa_scientificForm plus false c (k + (digitsOfNat c).length - 1)
  have hinteger : (Layout.scientificForm plus false (digitsOfNat c)
      (k + (digitsOfNat c).length - 1)).isInteger = false := by
    rw [Written.isInteger, Bool.and_eq_false_iff]
    exact Or.inr rfl
  rw [toDouble?_eq_divideDown rfl hinteger ?_ (by rw [hform]; exact hc.trans (by decide)), hform,
    hexponent]
  · congr 1
    dsimp only
    omega
  · rw [hexponent, isLong, decide_eq_false_iff_not]
    omega

/-- The digits are kept, and the power of ten is applied to the double of their number. -/
theorem toDouble?_decimal (hc : c < 10 ^ 19) (hlow : -400 ≤ k) (hhigh : k ≤ 400) :
    toDouble? (layout.decimal ⟨false, c, k⟩) =
      divideDown 4 (.ofNat (spelled c k).coefficient) (spelled c k).exponent := by
  dsimp only [Layout.decimal]
  split
  next hpositional => exact toDouble?_positional hc hpositional
  next hpositional =>
    rw [spelled_of_not_positional hpositional]
    exact toDouble?_scientific hc hlow hhigh layout.plus

/-- The zero behind the point does not matter to the double. -/
theorem toBinary64_spelled (hlow : -400 ≤ k) (hhigh : k ≤ 400) :
    (spelled c k).toBinary64 = Decimal.toBinary64 ⟨false, c, k⟩ := by
  unfold spelled
  split
  next h =>
    obtain ⟨j, rfl⟩ := Int.eq_ofNat_of_zero_le h.2
    rw [← Layout.toBinary64_positionalForm false hlow hhigh, Int.toNat_natCast]
    exact congrArg Decimal.toBinary64 (Layout.mantissa_positionalForm_ofNat false c j).symm
  next => rfl

end Spelled

end Json

end Toolpath
