import Toolpath.Proofs.Number.Nearest
import Toolpath.Number.Fixed

/-!
# Thousandths

A double that is printed with three places goes to the nearest number of thousandths, and what is
read back is the double nearest to that number. Neither way is injective, since doubles may be
denser or rarer than thousandths, but going back and forth once more changes nothing.
-/

namespace Toolpath.Binary64

/-- The number of thousandths that is nearest to a double. -/
def thousandths (x : Binary64) : Int :=
  if x.isNegative then -(x.scaled 3 : Int) else x.scaled 3

/-- The double nearest to a number of thousandths. -/
def ofThousandths (k : Int) : Binary64 := nearest (k * unit) 1000

theorem ofThousandths_eq (k : Int) : ofThousandths k = nearest (k * unit) 1000 := rfl

-- Unfolding it would let unification try to compute with the unit.
attribute [irreducible] ofThousandths

theorem ofThousandths_ne_nan (k : Int) : ofThousandths k ≠ .nan := by
  rw [ofThousandths_eq]
  exact nearest_ne_nan _ _

theorem isHalfEven_thousandths (x : Binary64) :
    IsHalfEven x.thousandths (x.ticks * 1000) unit := by
  have h := isHalfEven_roundHalfEven unit_pos (x.magnitude * Nat.pow 10 3)
  unfold thousandths scaled
  cases hs : x.isNegative with
  | false =>
      rw [if_neg Bool.false_ne_true, ticks_of_not_isNegative hs]
      exact_mod_cast h
  | true =>
      rw [if_pos rfl, ticks_of_isNegative hs, neg_mul]
      exact_mod_cast h.neg

theorem thousandths_eq {x : Binary64} {k : Int} (h : IsHalfEven k (x.ticks * 1000) unit) :
    x.thousandths = k :=
  (isHalfEven_thousandths x).unique unit_pos h

theorem thousandths_congr {x y : Binary64} (h : x.ticks = y.ticks) :
    x.thousandths = y.thousandths :=
  thousandths_eq (by rw [h]; exact isHalfEven_thousandths y)

theorem thousandths_mono {x y : Binary64} (h : x.ticks ≤ y.ticks) :
    x.thousandths ≤ y.thousandths :=
  (isHalfEven_thousandths x).mono unit_pos (isHalfEven_thousandths y) (by omega)

theorem ofThousandths_mono {k l : Int} (h : k ≤ l) :
    (ofThousandths k).ticks ≤ (ofThousandths l).ticks := by
  have hmul : k * unit ≤ l * unit := by gcongr
  rw [ofThousandths_eq, ofThousandths_eq]
  exact nearest_mono (by norm_num) (by norm_num) (by omega)

/-- What is read back is no further from the printed number than what was printed. -/
theorem abs_sub_ticks_ofThousandths_le (x : Binary64) :
    |x.thousandths * unit - (ofThousandths x.thousandths).ticks * 1000| ≤
      |x.thousandths * unit - x.ticks * 1000| := by
  rw [abs_sub_comm, abs_sub_comm _ (x.ticks * 1000), ofThousandths_eq]
  exact ticks_nearest_le (d := 1000) (by norm_num) (x.thousandths * unit) x

/-- What was read back is printed in the same way. -/
theorem thousandths_ofThousandths_thousandths (x : Binary64) :
    (ofThousandths x.thousandths).thousandths = x.thousandths := by
  obtain ⟨hle, htie⟩ := isHalfEven_thousandths x
  have hback := abs_sub_ticks_ofThousandths_le x
  exact thousandths_eq ⟨by omega, fun h ↦ htie (by omega)⟩

/-- Printing and reading moves a double by at most a thousandth. -/
theorem abs_ticks_sub_ticks_ofThousandths_le (x : Binary64) :
    1000 * |(ofThousandths x.thousandths).ticks - x.ticks| ≤ unit := by
  have hle := (isHalfEven_thousandths x).1
  have hback := abs_sub_ticks_ofThousandths_le x
  have htri := abs_sub_le ((ofThousandths x.thousandths).ticks * 1000) (x.thousandths * unit)
    (x.ticks * 1000)
  rw [abs_sub_comm _ (x.thousandths * (unit : Int)), ← sub_mul, abs_mul] at htri
  simp only [Nat.abs_ofNat] at htri
  omega

/-! ## Powers of two around a thousandth -/

theorem thousand_mul_two_pow_lt {p : Nat} (h : p ≤ 1064) : 1000 * 2 ^ p < unit := by
  have hle := (pow_le_pow_right₀ (show 1 ≤ 2 by norm_num) (show p + 10 ≤ 1074 by omega)).trans_eq
    unit_eq.symm
  rw [pow_add] at hle
  have hpos := Nat.two_pow_pos p
  omega

theorem unit_lt_thousand_mul_two_pow {p : Nat} (h : 1065 ≤ p) : unit < 1000 * 2 ^ p := by
  have hle := unit_eq.trans_le
    (pow_le_pow_right₀ (show 1 ≤ 2 by norm_num) (show 1074 ≤ p + 9 by omega))
  rw [pow_add] at hle
  have hpos := Nat.two_pow_pos p
  omega

/-- The largest finite doubles are farther from the horizon than a thousandth. -/
theorem isFinite_ofThousandths_thousandths {x : Binary64} (hx : x.isFinite) :
    (ofThousandths x.thousandths).isFinite := by
  have hmove := abs_ticks_sub_ticks_ofThousandths_le x
  have hroom : x.magnitude + 2 ^ 2045 ≤ horizon := by
    obtain ⟨s, m, p, hc, rfl⟩ := exists_finite hx
    rw [magnitude_finite, horizon_eq, show 9007199254740992 = 9007199254740991 + 1 by norm_num,
      add_mul, one_mul]
    exact Nat.add_le_add_right (mul_two_pow_le (by have := hc.1; omega) hc.2.1) _
  have hunit := unit_lt_thousand_mul_two_pow (p := 2045) (by norm_num)
  rw [isFinite_iff (ofThousandths_ne_nan _)]
  rw [← natAbs_ticks] at hroom
  rw [Int.abs_eq_natAbs] at hmove
  generalize 2 ^ 2045 = t at hroom hunit
  omega

theorem ticks_ofThousandths_thousandths_of_dvd {x : Binary64} (h : (unit : Int) ∣ x.ticks) :
    (ofThousandths x.thousandths).ticks = x.ticks := by
  obtain ⟨n, hn⟩ := h
  have hx : x.ticks * 1000 = n * 1000 * unit := by
    rw [hn]
    ring
  have hk : x.thousandths = n * 1000 := thousandths_eq (by
    rw [IsHalfEven, hx, sub_self, abs_zero]
    have := unit_pos
    omega)
  rw [hk, ofThousandths_eq]
  exact ticks_nearest_of_eq (by norm_num) hx.symm

/-- Where doubles are rarer than thousandths, a coefficient above the least one stands apart. -/
theorem ticks_eq_of_near {x y : Binary64} {m p : Nat} (hx : x.magnitude = m * 2 ^ p)
    (hm : 4503599627370496 < m) (hp : 1065 ≤ p) (hp' : p ≤ 2098)
    (h : 1000 * |y.ticks - x.ticks| ≤ unit) : y.ticks = x.ticks := by
  have hunit := unit_lt_thousand_mul_two_pow hp
  have hgap : ¬(2 ^ p : Nat) ≤ |y.ticks - x.ticks| := by omega
  rcases magnitude_on_grid y hp' with ⟨n, hn⟩ | ⟨-, hn⟩
  · by_contra hne
    have hdvd (z : Binary64) {j : Nat} (hz : z.magnitude = j * 2 ^ p) :
        ((2 ^ p : Nat) : Int) ∣ z.ticks := by
      rw [Int.natCast_dvd, natAbs_ticks, hz]
      exact Nat.dvd_mul_left _ _
    exact hgap (Int.le_of_dvd (abs_pos.mpr (sub_ne_zero.mpr hne))
      ((dvd_abs _ _).mpr (dvd_sub (hdvd y hn) (hdvd x hx))))
  · refine absurd ?_ hgap
    have hle : 4503599627370497 * 2 ^ p ≤ m * 2 ^ p := Nat.mul_le_mul_right _ hm
    rw [← natAbs_ticks] at hn hx
    rw [Int.abs_eq_natAbs]
    omega

/-- What was read back is read back once more. -/
theorem ticks_ofThousandths_thousandths_ofThousandths {k : Int} (h : (ofThousandths k).isFinite) :
    (ofThousandths (ofThousandths k).thousandths).ticks = (ofThousandths k).ticks := by
  have hcoeff := h
  rw [ofThousandths_eq] at hcoeff
  obtain ⟨m, p, hmag, hp2045, hfull, hhalf⟩ := exists_coefficient_nearest (by norm_num) hcoeff
  rw [← ofThousandths_eq] at hmag hhalf
  have hnear := abs_ticks_sub_ticks_ofThousandths_le (ofThousandths k)
  rcases Nat.lt_or_ge 1064 p with hp | hp
  · have hm := hfull (by omega)
    by_cases hedge : m = 4503599627370496
    · refine ticks_ofThousandths_thousandths_of_dvd ?_
      obtain ⟨q, rfl⟩ := Nat.exists_eq_add_of_le hp
      rw [Int.natCast_dvd, natAbs_ticks, hmag, hedge, unit_eq,
        show 4503599627370496 = 2 ^ 52 by norm_num, ← pow_add]
      exact pow_dvd_pow 2 (by omega)
    · exact ticks_eq_of_near hmag (by omega) hp (by omega) hnear
  · have hlt := thousand_mul_two_pow_lt hp
    have hk : (ofThousandths k).thousandths = k := by
      rw [abs_sub_comm, Nat.cast_mul, Nat.cast_ofNat] at hhalf
      exact thousandths_eq ⟨by omega, by omega⟩
    rw [hk]

end Toolpath.Binary64
