import Toolpath.Proofs.Number.Shortest

/-!
# Exact values

A decimal stands for a rational number, and so does a finite double. The double of a decimal is the
nearest one to its number, and of two that are equally near the one with the even coefficient. It is
finite as long as the number lies closer to zero than half a place beyond the greatest finite double.
-/

namespace Toolpath

/-- The number that a decimal stands for. -/
def Decimal.value (x : Decimal) : ℚ :=
  (if x.negative then -1 else 1) * x.coefficient * 10 ^ x.exponent

/-- Where another integer is as near to the quotient, the nearest one is even. -/
theorem IsHalfEven.even_of_tie {k m a : Int} {d : Nat} (h : IsHalfEven m a d) (hk : k ≠ m)
    (htie : |k * d - a| = |m * d - a|) : m % 2 = 0 := by
  have hgap := le_abs_mul_sub_mul (d := d) hk
  have htri := abs_sub_le (k * d) a (m * d)
  rw [htie, abs_sub_comm a] at htri
  obtain ⟨hle, heven⟩ := h
  exact heven (by omega)

/-- Below an integer that is at most the quotient the distance grows. -/
theorem lt_abs_sub {f y a : Int} (hf : f ≤ a) (hy : y < f) : |f - a| < |y - a| := by
  rw [abs_of_nonpos (by omega), abs_of_neg (by omega)]
  omega

namespace Binary64

/-- The number that a finite double stands for. -/
def value (x : Binary64) : ℚ := x.ticks / unit

def coefficient : Binary64 → Nat
  | .finite _ m _ _ => m
  | _ => 0

/-- The least magnitude that is rounded to an infinity. -/
def overflowBound : Nat := 2 ^ 1024 - 2 ^ 970

theorem two_mul_overflowBound : 2 * (overflowBound * unit) = 18014398509481983 * 2 ^ 2045 := by
  decide +kernel

/-- The nearest finite double to a number, the one with the even coefficient where two are equally
near. -/
structure IsNearest (q : ℚ) (v : Binary64) : Prop where
  finite : v.isFinite
  nearest : ∀ u : Binary64, u.isFinite → |v.value - q| ≤ |u.value - q|
  even : ∀ u : Binary64, u.isFinite → u.value ≠ v.value → |u.value - q| = |v.value - q| →
    v.coefficient % 2 = 0

/-! ## Overflow -/

theorem isFinite_round_iff_lt_horizon (s : Bool) (a d : Nat) :
    (round s a d).isFinite ↔ coefficientOf a d * 2 ^ shiftOf (a / d) < horizon := by
  rw [isFinite_iff (round_ne_nan s a d), natAbs_ticks, magnitude_round]
  omega

/-- Below the last place every coefficient is finite and beyond it none is. On the last place itself a
half goes up, for the greatest coefficient is odd. -/
theorem mul_lt_iff_of_isHalfEven {a b d g m q : Nat} (hd : 0 < d) (hg : 0 < g)
    (hhalf : IsHalfEven m a (d * q)) (hlt : a < 9007199254740992 * q * d)
    (hmax : m ≤ 9007199254740992) (hbound : 2 * b = 18014398509481983 * (d * g))
    (hplace : q * 2 ≤ g ∨ q = g ∨
      g * 2 ≤ q ∧ 4503599627370496 * q * d ≤ a ∧ 4503599627370496 ≤ m) :
    m * q < 9007199254740992 * g ↔ a < b := by
  have hpos := Nat.mul_pos hd hg
  rcases hplace with hlast | rfl | ⟨hlast, hle, hmin⟩
  · have hm := Nat.mul_le_mul_right q hmax
    have ha := Nat.mul_le_mul_left d hlast
    exact iff_of_true (by linarith) (by linarith)
  · rw [isHalfEven_natCast_iff] at hhalf
    rw [Nat.mul_lt_mul_right hg]
    generalize d * q = e at hhalf hpos hbound
    obtain ⟨hlow, hhigh, htie⟩ := hhalf
    rcases Nat.lt_or_ge m 9007199254740991 with hm | hm
    · have hm' := Nat.mul_le_mul_right e (Nat.le_of_lt_succ hm)
      exact iff_of_true (by linarith) (by linarith)
    · rcases hm.eq_or_lt with rfl | hm
      · refine iff_of_true (by norm_num) (lt_of_le_of_ne (by linarith) ?_)
        rintro rfl
        exact absurd (htie (Or.inr (by linarith))) (by norm_num)
      · obtain rfl := le_antisymm hmax hm
        exact iff_of_false (by norm_num) (by linarith)
  · have hfar := Nat.mul_le_mul hmin hlast
    have ha := Nat.mul_le_mul_left d hlast
    exact iff_of_false (by linarith) (by linarith)

/-- A quotient is finite after rounding up to half a place beyond the greatest double. -/
theorem isFinite_round_iff (s : Bool) {a d : Nat} (hd : 0 < d) :
    (round s a d).isFinite ↔ a < overflowBound * unit * d := by
  have hpos := Nat.mul_pos hd (Nat.two_pow_pos (shiftOf (a / d)))
  have hbound : 2 * (overflowBound * unit * d) = 18014398509481983 * (d * 2 ^ 2045) := by
    rw [← mul_assoc, two_mul_overflowBound, mul_assoc, mul_comm d]
  rw [isFinite_round_iff_lt_horizon, horizon_eq]
  refine mul_lt_iff_of_isHalfEven hd (pow_pos two_pos 2045) (isHalfEven_roundHalfEven hpos a)
    ((Nat.div_lt_iff_lt_mul hd).mp (lt_two_pow_shiftOf _)) (coefficientOf_le a d) hbound ?_
  rcases lt_trichotomy (shiftOf (a / d)) 2045 with hp | hp | hp
  · left
    rw [← pow_succ]
    exact pow_le_pow_right₀ one_le_two hp
  · exact Or.inr (Or.inl (by rw [hp]))
  · right
    right
    refine ⟨?_, (Nat.le_div_iff_mul_le hd).mp (two_pow_shiftOf_le (by omega)),
      le_coefficientOf a (by omega)⟩
    rw [← pow_succ]
    exact pow_le_pow_right₀ one_le_two hp

/-! ## Ties -/

theorem coefficient_place_even {s : Bool} {m p : Nat} (h : m % 2 = 0) :
    (place s m p).coefficient % 2 = 0 := by
  have hcoefficient (n q : Nat) (hn : n % 2 = 0) :
      (if h : Canonical n q then finite s n q h else infinity s).coefficient % 2 = 0 := by
    split
    · exact hn
    · rfl
  unfold place
  by_cases h53 : m = 9007199254740992
  · rw [if_pos h53]
    exact hcoefficient 4503599627370496 (p + 1) (by norm_num)
  · rw [if_neg h53]
    exact hcoefficient m p h

/-- Where another magnitude is as near to the quotient as the rounded one, the coefficient is even. -/
theorem coefficient_round_even {s : Bool} {a d : Nat} (hd : 0 < d) (hfin : (round s a d).isFinite)
    {x : Binary64} (hne : x.magnitude ≠ (round s a d).magnitude)
    (htie : |(x.magnitude * d : Int) - a| = |((round s a d).magnitude * d : Int) - a|) :
    (round s a d).coefficient % 2 = 0 := by
  have hlt := (isFinite_round_iff_lt_horizon s a d).mp hfin
  have hpos := Nat.mul_pos hd (Nat.two_pow_pos (shiftOf (a / d)))
  have hhalf := isHalfEven_roundHalfEven hpos a
  have hgrid := roundHalfEven_nearest hpos a
  have hmin := le_coefficientOf (d := d) a
  have hfull : shiftOf (a / d) ≠ 0 → 4503599627370496 * 2 ^ shiftOf (a / d) * d ≤ a := fun h ↦
    (Nat.le_div_iff_mul_le hd).mp (two_pow_shiftOf_le h)
  rw [magnitude_round, min_eq_left hlt.le] at hne htie
  rw [round_eq_place]
  refine coefficient_place_even ?_
  unfold coefficientOf at *
  generalize shiftOf (a / d) = p at *
  generalize roundHalfEven a (d * 2 ^ p) = m at *
  have hp : p ≤ 2045 := by
    by_contra hp
    exact absurd (horizon_le_mul_two_pow (hmin (by omega)) (not_le.mp hp)) (not_le.mpr hlt)
  have hmul (k : Nat) : ((k * 2 ^ p : Nat) * d : Int) = k * (d * 2 ^ p : Nat) := by
    push_cast
    ring
  rw [hmul] at htie
  rcases magnitude_on_grid x (p := p) (by omega) with ⟨k, hk⟩ | ⟨h0, hbelow⟩
  · rw [hk, hmul] at htie
    have hkm : (k : Int) ≠ m := by
      intro h
      exact hne (by rw [hk, Int.ofNat_inj.mp h])
    exact_mod_cast hhalf.even_of_tie hkm htie
  · -- Below the full coefficients the least of them is nearer.
    have hfull := hfull h0
    have hbelow := Nat.mul_lt_mul_of_pos_right hbelow hd
    have hnearest := hgrid 4503599627370496
    have hleast : (4503599627370496 * (d * 2 ^ p : Nat) : Int) =
        (4503599627370496 * 2 ^ p * d : Nat) := by
      push_cast
      ring
    have hfar := hnearest.trans_lt <| lt_abs_sub (y := x.magnitude * d)
      (hleast ▸ Int.ofNat_le.mpr hfull) (hleast ▸ by exact_mod_cast hbelow)
    exact absurd htie hfar.ne'

/-! ## The nearest double -/

theorem abs_sign_mul (negative : Bool) (k : Int) : |sign negative * k| = |k| := by
  cases negative <;> simp [sign]

/-- A quotient on the other side of zero is not nearer. -/
theorem abs_magnitude_sub_le (x : Binary64) (s : Bool) (a d : Nat) :
    |(x.magnitude * d : Int) - a| ≤ |x.ticks * d - sign s * a| := by
  have hx : (x.magnitude * d : Int) = |x.ticks * d| := by
    rw [abs_mul, Int.abs_eq_natAbs, natAbs_ticks, Nat.abs_cast]
  have ha : (a : Int) = |sign s * a| := by rw [abs_sign_mul, Nat.abs_cast]
  rw [hx]
  nth_rewrite 1 [ha]
  exact abs_abs_sub_abs_le _ _

theorem abs_ticks_round_sub (s : Bool) (a d : Nat) :
    |(round s a d).ticks * d - sign s * a| = |((round s a d).magnitude * d : Int) - a| := by
  rw [ticks_eq_sign_mul, isNegative_round, mul_assoc, ← mul_sub, abs_sign_mul]

theorem abs_ticks_round_sub_le (s : Bool) {d : Nat} (hd : 0 < d) (a : Nat) (x : Binary64) :
    |(round s a d).ticks * d - sign s * a| ≤ |x.ticks * d - sign s * a| := by
  rw [abs_ticks_round_sub]
  exact (magnitude_round_nearest s hd a x).trans (abs_magnitude_sub_le x s a d)

theorem coefficient_even_of_tie {s : Bool} {a d : Nat} (hd : 0 < d) (hfin : (round s a d).isFinite)
    {x : Binary64} (hne : x.ticks ≠ (round s a d).ticks)
    (htie : |x.ticks * d - sign s * a| = |(round s a d).ticks * d - sign s * a|) :
    (round s a d).coefficient % 2 = 0 := by
  have hnearest := magnitude_round_nearest s hd a x
  have hside := abs_magnitude_sub_le x s a d
  rw [htie, abs_ticks_round_sub] at hside
  refine coefficient_round_even hd hfin (fun hmag ↦ hne ?_) (le_antisymm hside hnearest)
  by_cases hs : x.isNegative = s
  · rw [ticks_eq_sign_mul, ticks_eq_sign_mul, isNegative_round, hmag, hs]
  · -- On two sides of zero both are as far from the quotient as zero is, so both are zeros.
    have hsign : sign x.isNegative = -sign s := by
      revert hs
      cases x.isNegative <;> cases s <;> simp [sign]
    have hzero := magnitude_round_nearest s hd a 0
    have hsum : x.ticks * d - sign s * a = sign s * -((round s a d).magnitude * d + a) := by
      rw [ticks_eq_sign_mul, hsign, hmag]
      ring
    rw [abs_ticks_round_sub, hsum, abs_sign_mul, abs_neg, abs_of_nonneg (by positivity)] at htie
    rw [← htie, show magnitude 0 = 0 from rfl, Int.natCast_zero, zero_mul, zero_sub, abs_neg,
      Nat.abs_cast] at hzero
    have hmag0 : (round s a d).magnitude = 0 := by
      have hmul : (round s a d).magnitude * d = 0 := by
        zify
        exact le_antisymm (by linarith) (by positivity)
      exact (Nat.mul_eq_zero.mp hmul).resolve_right hd.ne'
    rw [ticks_eq_sign_mul, ticks_eq_sign_mul, hmag, hmag0]
    simp

/-- A finite rounding of a quotient of ticks is nearest to the number of the quotient. -/
theorem isNearest_round {s : Bool} {a d : Nat} (hd : 0 < d) (hfin : (round s a d).isFinite) :
    IsNearest ((sign s * a : Int) / (d * unit : Nat)) (round s a d) := by
  have hpos : (0 : ℚ) < (d * unit : Nat) := by exact_mod_cast Nat.mul_pos hd unit_pos
  have hunit : (unit : ℚ) ≠ 0 := by exact_mod_cast unit_pos.ne'
  have hdistance (x : Binary64) : |x.value - (sign s * a : Int) / (d * unit : Nat)| =
      (|x.ticks * d - sign s * a| : Int) / (d * unit : Nat) := by
    have hd : (d : ℚ) ≠ 0 := by exact_mod_cast hd.ne'
    have hsub : x.value - (sign s * a : Int) / (d * unit : Nat) =
        (x.ticks * d - sign s * a : Int) / (d * unit : Nat) := by
      unfold value
      push_cast
      field_simp
    rw [hsub, abs_div, abs_of_pos hpos, ← Int.cast_abs]
  refine ⟨hfin, fun u _ ↦ ?_, fun u _ hne htie ↦ ?_⟩
  · rw [hdistance, hdistance]
    exact div_le_div_of_nonneg_right (Int.cast_le.mpr (abs_ticks_round_sub_le s hd a u)) hpos.le
  · rw [hdistance, hdistance, div_left_inj' hpos.ne', Int.cast_inj] at htie
    refine coefficient_even_of_tie hd hfin (fun h ↦ hne ?_) htie
    rw [value, value, h]

theorem sign_mul_natAbs (a : Int) : sign (decide (a < 0)) * a.natAbs = a := by
  by_cases h : a < 0
  · rw [decide_eq_true h, sign, if_pos rfl]
    omega
  · rw [decide_eq_false h, sign, if_neg Bool.false_ne_true]
    omega

/-- The nearest double to a quotient of ticks is nearest to its number. -/
theorem isNearest_nearest {a : Int} {d : Nat} (hd : 0 < d) (hfin : (nearest a d).isFinite) :
    IsNearest (a / (d * unit : Nat)) (nearest a d) := by
  have h := isNearest_round hd hfin
  rwa [sign_mul_natAbs] at h

/-! ## One nearest double -/

@[simp] theorem coefficient_neg (x : Binary64) : x.neg.coefficient = x.coefficient := by
  cases x <;> rfl

theorem value_lt_value {x y : Binary64} : x.value < y.value ↔ x.ticks < y.ticks := by
  have hunit : (0 : ℚ) < unit := by exact_mod_cast unit_pos
  rw [value, value, div_lt_div_iff_of_pos_right hunit, Int.cast_lt]

/-- Beyond a double with an even coefficient lies one with an odd coefficient before the next even
one. -/
theorem exists_between_of_nonneg {x y : Binary64} (hx : x.isFinite) (hy : y.isFinite)
    (hxe : x.coefficient % 2 = 0) (hye : y.coefficient % 2 = 0) (h0 : 0 ≤ x.ticks)
    (hlt : x.ticks < y.ticks) : ∃ z : Binary64, z.isFinite ∧ x.ticks < z.ticks ∧ z.ticks < y.ticks := by
  obtain ⟨s, m, p, hc, rfl⟩ := exists_finite hx
  obtain ⟨t, n, q, hd, rfl⟩ := exists_finite hy
  have hm := hc.1
  have hfull := hc.2.2
  change m % 2 = 0 at hxe
  change n % 2 = 0 at hye
  have hnext : Canonical (m + 1) p := ⟨by omega, hc.2.1, hfull.imp_left (by omega)⟩
  have hz : (finite false (m + 1) p hnext).ticks = ((m + 1) * 2 ^ p : Nat) := by
    rw [ticks_of_not_isNegative rfl, magnitude_finite]
  have hxmag := Int.natAbs_of_nonneg h0
  have hymag := Int.natAbs_of_nonneg (h0.trans hlt.le)
  rw [natAbs_ticks] at hxmag hymag
  rw [← hxmag, ← hymag, Int.ofNat_lt] at hlt
  refine ⟨.finite false (m + 1) p hnext, rfl, ?_, ?_⟩
  · rw [hz, ← hxmag, magnitude_finite, Int.ofNat_lt]
    exact Nat.mul_lt_mul_of_pos_right (Nat.lt_succ_self m) (Nat.two_pow_pos p)
  · rw [hz, ← hymag, Int.ofNat_lt]
    by_contra hge
    rcases magnitude_on_grid (finite t n q hd) (p := p) (by have := hc.2.1; omega) with
      ⟨k, hk⟩ | ⟨hp, hbelow⟩
    · rw [hk, magnitude_finite, Nat.mul_lt_mul_right (Nat.two_pow_pos p)] at hlt
      rw [hk, Nat.mul_lt_mul_right (Nat.two_pow_pos p)] at hge
      obtain rfl : k = m + 1 := by omega
      rw [magnitude_finite] at hk
      have := (hd.unique hnext hk).1
      omega
    · have hle := Nat.mul_le_mul_right (2 ^ p) (hfull.resolve_right hp)
      rw [magnitude_finite] at hlt
      omega

theorem exists_between {x y : Binary64} (hx : x.isFinite) (hy : y.isFinite)
    (hxe : x.coefficient % 2 = 0) (hye : y.coefficient % 2 = 0) (hlt : x.ticks < y.ticks) :
    ∃ z : Binary64, z.isFinite ∧ x.ticks < z.ticks ∧ z.ticks < y.ticks := by
  rcases le_or_gt 0 x.ticks with hx0 | hx0
  · exact exists_between_of_nonneg hx hy hxe hye hx0 hlt
  · rcases le_or_gt y.ticks 0 with hy0 | hy0
    · obtain ⟨z, hz, hyz, hzx⟩ := exists_between_of_nonneg (x := y.neg) (y := x.neg) (by simpa)
        (by simpa) (by simpa) (by simpa) (by simpa) (by simpa)
      rw [ticks_neg] at hyz hzx
      exact ⟨z.neg, by simpa, by rw [ticks_neg]; omega, by rw [ticks_neg]; omega⟩
    · exact ⟨0, isFinite_zero, hx0, hy0⟩

/-- A number has one nearest double, up to the sign of a zero. -/
theorem IsNearest.ticks_eq {q : ℚ} {v u : Binary64} (hv : v.IsNearest q) (hu : u.IsNearest q) :
    v.ticks = u.ticks := by
  by_contra hne
  wlog hlt : v.ticks < u.ticks generalizing v u
  · exact this hu hv (Ne.symm hne) (by omega)
  have hvalue := value_lt_value.mpr hlt
  have hdist := le_antisymm (hv.nearest u hu.finite) (hu.nearest v hv.finite)
  have hve := hv.even u hu.finite hvalue.ne' hdist.symm
  have hue := hu.even v hv.finite hvalue.ne hdist
  obtain ⟨z, hz, hvz, hzu⟩ := exists_between hv.finite hu.finite hve hue hlt
  -- The number lies in the middle, so anything between the two is nearer.
  rw [← value_lt_value] at hvz hzu
  refine absurd (hu.nearest z hz) (not_le.mpr ?_)
  rcases abs_eq_abs.mp hdist with h | h
  · linarith
  · rw [abs_of_pos (show 0 < u.value - q by linarith), abs_lt]
    constructor <;> linarith

theorem coefficient_eq_of_ticks_eq {x y : Binary64} (hx : x.isFinite) (hy : y.isFinite)
    (h : x.ticks = y.ticks) : x.coefficient = y.coefficient := by
  have hmag : x.magnitude = y.magnitude := by rw [← natAbs_ticks, h, natAbs_ticks]
  obtain ⟨s, m, p, hc, rfl⟩ := exists_finite hx
  obtain ⟨t, n, q, hd, rfl⟩ := exists_finite hy
  rw [magnitude_finite, magnitude_finite] at hmag
  exact (hc.unique hd hmag).1

/-- A zero of the other sign is as near. -/
theorem IsNearest.congr {q : ℚ} {v u : Binary64} (h : v.IsNearest q) (hu : u.isFinite)
    (ht : u.ticks = v.ticks) : u.IsNearest q := by
  have hvalue : u.value = v.value := by rw [value, value, ht]
  refine ⟨hu, ?_, ?_⟩
  · rw [hvalue]
    exact h.nearest
  · rw [hvalue, coefficient_eq_of_ticks_eq hu h.finite ht]
    exact h.even

/-! ## Decimals -/

theorem round_eq_zero (s : Bool) {a d : Nat} (h : 2 * a < d) : round s a d = zero s := by
  have hdiv : a / d = 0 := Nat.div_eq_of_lt (by omega)
  have hcoefficient : coefficientOf a d = 0 := by
    rw [coefficientOf, hdiv, show shiftOf 0 = 0 from rfl, pow_zero, mul_one, roundHalfEven, hdiv,
      Nat.mod_eq_of_lt (by omega)]
    exact if_pos h
  rw [round_eq_place, hcoefficient, hdiv]
  rfl

theorem round_eq_infinity (s : Bool) {a d : Nat} (hd : 0 < d) (h : overflowBound * unit * d ≤ a) :
    round s a d = .infinity s := by
  have hfinite := (isFinite_round_iff s hd).not.mpr (not_lt.mpr h)
  rw [round_eq_place] at hfinite ⊢
  rcases place_eq s (coefficientOf a d) (shiftOf (a / d)) with ⟨n, q, hc, hplace⟩ | hplace
  · rw [hplace] at hfinite
    exact absurd rfl hfinite
  · exact hplace

end Binary64

namespace Decimal

open Binary64

theorem toBinary64_zero (s : Bool) (e : Int) : toBinary64 ⟨s, 0, e⟩ = .round s 0 1 := by
  rw [round_eq_zero s (by decide)]
  rfl

theorem toBinary64_ofNat_eq (s : Bool) (c k : Nat) :
    toBinary64 ⟨s, c, k⟩ = .round s (c * 10 ^ k * unit) 1 := by
  by_cases hc : c = 0
  · rw [hc, toBinary64_zero, zero_mul, zero_mul]
  · by_cases hk : k ≤ 400
    · exact toBinary64_ofNat hc hk
    · -- Such a power of ten is beyond the greatest double already.
      have hpower : overflowBound ≤ 10 ^ 401 := by decide +kernel
      have hle : overflowBound ≤ c * 10 ^ k := by
        calc
          overflowBound ≤ 1 * 10 ^ 401 := by rwa [one_mul]
          _ ≤ c * 10 ^ k := Nat.mul_le_mul (Nat.pos_of_ne_zero hc) (pow_le_pow_right₀ (by norm_num) (by omega))
      rw [round_eq_infinity s one_pos (by rw [mul_one]; exact Nat.mul_le_mul_right unit hle), toBinary64]
      dsimp only
      rw [if_neg hc, if_pos (by omega)]

theorem toBinary64_negSucc_eq (s : Bool) (c k : Nat) :
    toBinary64 ⟨s, c, .negSucc k⟩ = .round s (c * unit) (10 ^ (k + 1)) := by
  by_cases hc : c = 0
  · rw [hc, toBinary64_zero, zero_mul, round_eq_zero s (by decide), round_eq_zero s (by positivity)]
  · rw [toBinary64]
    dsimp only
    rw [if_neg hc, if_neg (by omega)]
    split
    next hsmall =>
      -- The coefficient is less than a power of ten which leaves less than half a tick.
      have hunit : 2 * unit ≤ 10 ^ 401 := by decide +kernel
      have hcoefficient : c < 10 ^ (c.log2 + 1) :=
        Nat.lt_log2_self.trans_le (Nat.pow_le_pow_left (by norm_num) _)
      rw [round_eq_zero]
      calc
        2 * (c * unit) = c * (2 * unit) := by ring
        _ < 10 ^ (c.log2 + 1) * 10 ^ 401 := Nat.mul_lt_mul_of_lt_of_le hcoefficient hunit (by positivity)
        _ = 10 ^ (c.log2 + 1 + 401) := (pow_add ..).symm
        _ ≤ 10 ^ (k + 1) := pow_le_pow_right₀ (by norm_num) (by omega)
    next => rfl

/-- The double of a decimal is rounded from a quotient of ticks for its number. -/
theorem exists_toBinary64_eq_round (x : Decimal) : ∃ a d : Nat, 0 < d ∧
    x.toBinary64 = .round x.negative a d ∧ x.value = (sign x.negative * a : Int) / (d * unit : Nat) := by
  obtain ⟨s, c, e⟩ := x
  have hunit : (unit : ℚ) ≠ 0 := by exact_mod_cast unit_pos.ne'
  have hsign : ((sign s : Int) : ℚ) = if s then -1 else 1 := by cases s <;> simp [sign]
  cases e with
  | ofNat k =>
      refine ⟨c * 10 ^ k * unit, 1, one_pos, toBinary64_ofNat_eq s c k, ?_⟩
      rw [value, ← hsign, Int.ofNat_eq_natCast, zpow_natCast]
      push_cast
      field_simp
  | negSucc k =>
      refine ⟨c * unit, 10 ^ (k + 1), by positivity, toBinary64_negSucc_eq s c k, ?_⟩
      rw [value, ← hsign, zpow_negSucc]
      push_cast
      field_simp

theorem isNegative_toBinary64 (x : Decimal) : x.toBinary64.isNegative = x.negative := by
  obtain ⟨a, d, -, hround, -⟩ := x.exists_toBinary64_eq_round
  rw [hround, isNegative_round]

theorem isFinite_toBinary64_iff (x : Decimal) :
    x.toBinary64.isFinite ↔ |x.value| < overflowBound := by
  obtain ⟨a, d, hd, hround, hvalue⟩ := x.exists_toBinary64_eq_round
  have hpos : (0 : ℚ) < (d * unit : Nat) := by exact_mod_cast Nat.mul_pos hd unit_pos
  have habs : |x.value| = (a : ℚ) / (d * unit : Nat) := by
    rw [hvalue, abs_div, abs_of_pos hpos, ← Int.cast_abs, abs_sign_mul, Nat.abs_cast, Int.cast_natCast]
  rw [hround, isFinite_round_iff _ hd, habs, div_lt_iff₀ hpos, ← Nat.cast_mul, Nat.cast_lt,
    mul_comm d, mul_assoc]

/-- The double of a decimal is the nearest one to its number. -/
theorem isNearest_toBinary64 {x : Decimal} (h : x.toBinary64.isFinite) :
    IsNearest x.value x.toBinary64 := by
  obtain ⟨a, d, hd, hround, hvalue⟩ := x.exists_toBinary64_eq_round
  rw [hround] at h ⊢
  rw [hvalue]
  exact isNearest_round hd h

end Decimal

end Toolpath
