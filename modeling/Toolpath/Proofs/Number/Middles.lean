import Toolpath.Proofs.Number.Exact
import Toolpath.Proofs.Number.Scaling

/-!
# Middles between doubles

A number goes to a double as long as it lies between the middles to the doubles next to it. The middles
themselves go to it as well where its coefficient is even. So the decimals of a double fill an interval,
and its ends are known from the places of three doubles.
-/

namespace Toolpath

namespace Binary64

/-- A double stands at `t`. The doubles next to it stand `g` below and `h` above, and the middles between
them and it are rounded to it. -/
def TakesMiddles (t g h : Int) : Prop :=
  (0 < g ∧ 0 < h) ∧
    ((nearest (t - g) 1).ticks = t - g ∧ (nearest (t + h) 1).ticks = t + h) ∧
    (nearest (2 * t - g) 2).ticks = t ∧ (nearest (2 * t + h) 2).ticks = t

instance (t g h : Int) : Decidable (TakesMiddles t g h) := inferInstanceAs (Decidable (_ ∧ _))

/-- What lies between the middles is rounded to the double, and nothing else is. -/
theorem TakesMiddles.ticks_nearest_eq_iff {t g h : Int} (ht : TakesMiddles t g h) {d : Nat} (hd : 0 < d)
    (a : Int) : (nearest a d).ticks = t ↔ (2 * t - g) * d ≤ 2 * a ∧ 2 * a ≤ (2 * t + h) * d := by
  obtain ⟨⟨hg, hh⟩, ⟨hbelow, habove⟩, hlow, hhigh⟩ := ht
  have hpos : (0 : Int) < d := by exact_mod_cast hd
  constructor
  · intro ht
    have hl := ticks_nearest_le hd a (nearest (t - g) 1)
    have hr := ticks_nearest_le hd a (nearest (t + h) 1)
    rw [ht, hbelow] at hl
    rw [ht, habove] at hr
    have hl := add_le_of_abs_sub_le (mul_lt_mul_of_pos_right (by omega : t - g < t) hpos) hl
    have hr := le_add_of_abs_sub_le (mul_lt_mul_of_pos_right (by omega : t < t + h) hpos) hr
    constructor <;> linarith
  · rintro ⟨hl, hr⟩
    have hl := nearest_mono two_pos hd (a := 2 * t - g) (b := a) (by push_cast; linarith)
    have hr := nearest_mono hd two_pos (a := a) (b := 2 * t + h) (by push_cast; linarith)
    omega

end Binary64

namespace Decimal

open Binary64

theorem toBinary64_ne_nan (x : Decimal) : x.toBinary64 ≠ .nan := by
  obtain ⟨a, d, -, hround, -⟩ := x.exists_toBinary64_eq_round
  rw [hround]
  exact round_ne_nan _ _ _

/-- The decimals of a double are those between the middles. -/
theorem ticks_toBinary64_eq_iff {t g h : Int} (ht : TakesMiddles t g h) (x : Decimal) :
    x.toBinary64.ticks = t ↔
      (2 * t - g : Int) / (2 * unit) ≤ x.value ∧ x.value ≤ (2 * t + h : Int) / (2 * unit) := by
  obtain ⟨a, d, hd, hround, hvalue⟩ := x.exists_toBinary64_eq_round
  have hunit : (0 : ℚ) < unit := by exact_mod_cast unit_pos
  have hdpos : (0 : ℚ) < d := by exact_mod_cast hd
  have hden : (0 : ℚ) < 2 * (d * unit) := mul_pos two_pos (mul_pos hdpos hunit)
  have hscale (b : Int) : (b / (2 * unit) : ℚ) = (b * d : Int) / (2 * (d * unit)) := by
    push_cast
    field_simp
  have hx : x.value = (2 * (sign x.negative * a) : Int) / (2 * (d * unit)) := by
    rw [hvalue]
    push_cast
    field_simp
  rw [hround, ticks_round_eq_ticks_nearest, ht.ticks_nearest_eq_iff hd, hscale, hscale, hx,
    div_le_div_iff_of_pos_right hden, div_le_div_iff_of_pos_right hden, Int.cast_le, Int.cast_le]

theorem value_nonneg {x : Decimal} (h : x.negative = false) : 0 ≤ x.value := by
  rw [value, h, if_neg Bool.false_ne_true]
  positivity

theorem value_nonpos {x : Decimal} (h : x.negative = true) : x.value ≤ 0 := by
  rw [value, h, if_pos rfl, neg_one_mul, neg_mul, neg_nonpos]
  positivity

/-- Half of the least double greater than zero is still rounded to zero. -/
theorem lt_toBinary64_iff (x : Decimal) : Binary64.lt 0 x.toBinary64 ↔ 1 / 2 ^ 1075 < x.value := by
  have hunit : (2 * unit : ℚ) = 2 ^ 1075 := by
    rw [unit_eq, Nat.cast_pow, Nat.cast_two, ← pow_succ']
  have hhalf : (0 : ℚ) < 1 / 2 ^ 1075 := by positivity
  have hzero := ticks_toBinary64_eq_iff (t := 0) (g := 1) (h := 1) (by decide +kernel) x
  rw [hunit] at hzero
  rw [lt_iff, and_iff_right (by decide), and_iff_right x.toBinary64_ne_nan, ticks_zero]
  cases hs : x.negative with
  | true =>
      have hticks := ticks_of_isNegative ((isNegative_toBinary64 x).trans hs)
      have hvalue := value_nonpos hs
      exact iff_of_false (by omega) (hvalue.trans hhalf.le).not_gt
  | false =>
      have hticks := ticks_of_not_isNegative ((isNegative_toBinary64 x).trans hs)
      have hvalue := value_nonneg hs
      have hnonneg : 0 < x.toBinary64.ticks ↔ ¬x.toBinary64.ticks = 0 := by omega
      have hlow : ((2 * 0 - 1 : Int) : ℚ) / 2 ^ 1075 ≤ x.value :=
        (div_nonpos_of_nonpos_of_nonneg (by norm_num) (by positivity)).trans hvalue
      rw [hnonneg, hzero, and_iff_right hlow, not_le, mul_zero, zero_add, Int.cast_one]

/-- The decimals whose doubles are finite and greater than zero. -/
theorem isFinite_and_lt_toBinary64_iff (x : Decimal) :
    x.toBinary64.isFinite ∧ Binary64.lt 0 x.toBinary64 ↔
      1 / 2 ^ 1075 < x.value ∧ x.value < overflowBound := by
  rw [lt_toBinary64_iff, isFinite_toBinary64_iff, and_comm]
  refine and_congr_right fun h ↦ ?_
  rw [abs_of_pos ((by positivity : (0 : ℚ) < 1 / 2 ^ 1075).trans h)]

end Decimal

end Toolpath
