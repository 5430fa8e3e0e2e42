import Toolpath.Proofs.Number.Nearest

/-!
# Rounding errors

Rounding changes a quotient by one part in `2 ^ 53`, or by half a tick where the grid cannot be finer.
The factors between rounded and exact quantities multiply along products and quotients, so that they
are counted, and one inequality at the end says how far off a result is.
-/

namespace Toolpath.Binary64

/-- A quotient is rounded by one part in `2 ^ 53` or by half a tick. -/
theorem magnitude_round_error (s : Bool) {a d : Nat} (hd : 0 < d) (ha : a ≤ horizon * d) :
    9007199254740992 * |((round s a d).magnitude * d : Int) - a| ≤ a ∨
      2 * |((round s a d).magnitude * d : Int) - a| ≤ d := by
  have hgrid := (isHalfEven_roundHalfEven (Nat.mul_pos hd (Nat.two_pow_pos (shiftOf (a / d)))) a).1
  have hfull : shiftOf (a / d) ≠ 0 → 4503599627370496 * 2 ^ shiftOf (a / d) * d ≤ a := fun h ↦
    (Nat.le_div_iff_mul_le hd).mp (two_pow_shiftOf_le h)
  rw [magnitude_round, coefficientOf]
  generalize shiftOf (a / d) = t at hgrid hfull ⊢
  generalize roundHalfEven a (d * 2 ^ t) = m at hgrid ⊢
  -- The horizon is nearer to the quotient than what lies beyond it.
  have hmin : |((Min.min (m * 2 ^ t) horizon : Nat) * d : Int) - a| ≤ |(m * (d * 2 ^ t : Nat) : Int) - a| := by
    have hm : (m * (d * 2 ^ t : Nat) : Int) = (m * 2 ^ t : Nat) * d := by
      push_cast
      ring
    rw [hm]
    rcases le_total (m * 2 ^ t) horizon with h | h
    · rw [min_eq_left h]
    · have hd := Nat.mul_le_mul_right d h
      rw [min_eq_right h]
      zify at ha hd ⊢
      rw [abs_of_nonneg (by omega), abs_of_nonneg (by omega)]
      omega
  have herror := (mul_le_mul_of_nonneg_left hmin (by decide : (0 : Int) ≤ 2)).trans hgrid
  rcases Nat.eq_zero_or_pos t with rfl | ht
  · simp only [pow_zero, mul_one] at herror ⊢
    exact Or.inr herror
  · have hfull := hfull ht.ne'
    rw [Nat.mul_assoc, Nat.mul_comm (2 ^ t)] at hfull
    exact Or.inl (by omega)

theorem le_horizon_of_isFinite_round {s : Bool} {a d : Nat} (hd : 0 < d)
    (h : (round s a d).isFinite) : a ≤ horizon * d := by
  by_contra hlt
  have hnearest := magnitude_round_nearest s hd a (.infinity s)
  have hbelow : (round s a d).magnitude * d < horizon * d :=
    Nat.mul_lt_mul_of_pos_right (magnitude_lt_horizon h) hd
  rw [magnitude_infinity] at hnearest
  zify at hlt hbelow
  rw [abs_of_nonpos (by omega), abs_of_nonpos (by omega)] at hnearest
  omega

theorem isFinite_round_of_le {s : Bool} {a d : Nat} (hd : 0 < d) {x : Binary64} (hx : x.isFinite)
    (h : a ≤ x.magnitude * d) : (round s a d).isFinite := by
  have hnearest := magnitude_round_nearest s hd a x
  have hle : (round s a d).magnitude * d ≤ x.magnitude * d := by
    have := le_abs_self (((round s a d).magnitude * d : Int) - a)
    zify at h ⊢
    rw [abs_of_nonneg (by omega : (0 : Int) ≤ x.magnitude * d - a)] at hnearest
    omega
  rw [isFinite_iff (round_ne_nan _ _ _), natAbs_ticks]
  exact (le_of_mul_le_mul_right hle hd).trans_lt (magnitude_lt_horizon hx)

/-! ## Factors -/

/-- The greatest factor between a quotient and its rounding. -/
def slack : ℚ := 9007199254740992 / 9007199254740991

theorem one_le_slack_pow (k : Nat) : 1 ≤ slack ^ k := one_le_pow₀ (by norm_num [slack])

theorem slack_pow_pos (k : Nat) : 0 < slack ^ k := one_pos.trans_le (one_le_slack_pow k)

/-- Two quantities are no farther apart than the given number of roundings can take them. -/
structure Close (k : Nat) (u v : ℚ) : Prop where
  le : u ≤ slack ^ k * v
  ge : v ≤ slack ^ k * u

theorem Close.refl (u : ℚ) : Close 0 u u := by
  constructor <;> rw [pow_zero, one_mul]

theorem Close.pos {k : Nat} {u v : ℚ} (h : Close k u v) (hv : 0 < v) : 0 < u :=
  pos_of_mul_pos_right (hv.trans_le h.ge) (slack_pow_pos k).le

theorem Close.mono {k l : Nat} (hkl : k ≤ l) {u v : ℚ} (hv : 0 < v) (h : Close k u v) : Close l u v := by
  have hle : slack ^ k ≤ slack ^ l := pow_le_pow_right₀ (by norm_num [slack]) hkl
  exact ⟨h.le.trans (mul_le_mul_of_nonneg_right hle hv.le),
    h.ge.trans (mul_le_mul_of_nonneg_right hle (h.pos hv).le)⟩

theorem Close.trans {j k : Nat} {u v w : ℚ} (h : Close j u v) (h' : Close k v w) : Close (j + k) u w := by
  constructor
  · calc
      u ≤ slack ^ j * v := h.le
      _ ≤ slack ^ j * (slack ^ k * w) := mul_le_mul_of_nonneg_left h'.le (slack_pow_pos j).le
      _ = slack ^ (j + k) * w := by rw [pow_add, mul_assoc]
  · calc
      w ≤ slack ^ k * v := h'.ge
      _ ≤ slack ^ k * (slack ^ j * u) := mul_le_mul_of_nonneg_left h.ge (slack_pow_pos k).le
      _ = slack ^ (j + k) * u := by
        rw [pow_add]
        ring

theorem Close.mul {j k : Nat} {u v w z : ℚ} (hu : 0 ≤ u) (hv : 0 ≤ v) (hw : 0 ≤ w) (hz : 0 ≤ z)
    (h : Close j u v) (h' : Close k w z) : Close (j + k) (u * w) (v * z) := by
  have hleft := mul_nonneg (slack_pow_pos j).le hv
  have hright := mul_nonneg (slack_pow_pos j).le hu
  constructor
  · calc
      u * w ≤ slack ^ j * v * (slack ^ k * z) := mul_le_mul h.le h'.le hw hleft
      _ = slack ^ (j + k) * (v * z) := by
        rw [pow_add]
        ring
  · calc
      v * z ≤ slack ^ j * u * (slack ^ k * w) := mul_le_mul h.ge h'.ge hz hright
      _ = slack ^ (j + k) * (u * w) := by
        rw [pow_add]
        ring

theorem Close.inv {k : Nat} {u v : ℚ} (hu : 0 < u) (hv : 0 < v) (h : Close k u v) :
    Close k u⁻¹ v⁻¹ := by
  have hle {x y : ℚ} (hx : 0 < x) (hy : 0 < y) (h : y ≤ slack ^ k * x) : x⁻¹ ≤ slack ^ k * y⁻¹ := by
    rw [← div_eq_mul_inv, le_div_iff₀ hy, ← div_eq_inv_mul, div_le_iff₀ hx]
    exact h
  exact ⟨hle hu hv h.ge, hle hv hu h.le⟩

theorem Close.div {j k : Nat} {u v w z : ℚ} (hu : 0 ≤ u) (hv : 0 ≤ v) (hw : 0 < w) (hz : 0 < z)
    (h : Close j u v) (h' : Close k w z) : Close (j + k) (u / w) (v / z) := by
  rw [div_eq_mul_inv, div_eq_mul_inv]
  exact h.mul hu hv (inv_pos.mpr hw).le (inv_pos.mpr hz).le (h'.inv hw hz)

theorem Close.mul_right {k : Nat} {u v w : ℚ} (hw : 0 ≤ w) (h : Close k u v) :
    Close k (u * w) (v * w) := by
  constructor
  · rw [← mul_assoc]
    exact mul_le_mul_of_nonneg_right h.le hw
  · rw [← mul_assoc]
    exact mul_le_mul_of_nonneg_right h.ge hw

theorem Close.div_right {k : Nat} {u v w : ℚ} (hw : 0 ≤ w) (h : Close k u v) :
    Close k (u / w) (v / w) := by
  rw [div_eq_mul_inv, div_eq_mul_inv]
  exact h.mul_right (inv_nonneg.mpr hw)

/-- Three roundings take less than one part in `2 ^ 51`. -/
theorem Close.abs_sub_le {u v : ℚ} (h : Close 3 u v) (hv : 0 < v) : |u - v| ≤ v / 2 ^ 51 := by
  obtain ⟨hle, hge⟩ := h
  rw [abs_le]
  norm_num [slack] at hle hge ⊢
  constructor <;> linarith

/-! ## Exact doubles -/

theorem roundHalfEven_mul_self (k : Nat) {d : Nat} (hd : 0 < d) : roundHalfEven (k * d) d = k := by
  rw [roundHalfEven, Nat.mul_mod_left, Nat.mul_div_cancel k hd]
  exact if_pos (by omega)

theorem shiftOf_mul_two_pow_le {k : Nat} (hk : k < 9007199254740992) (q : Nat) :
    shiftOf (k * 2 ^ q) ≤ q := by
  by_contra hlt
  have hle := two_pow_shiftOf_le (n := k * 2 ^ q) (by omega)
  have hstep : 2 ^ (q + 1) ≤ 2 ^ shiftOf (k * 2 ^ q) := Nat.pow_le_pow_right (by decide) (by omega)
  have hmul := Nat.mul_lt_mul_of_pos_right hk (Nat.two_pow_pos q)
  rw [pow_succ] at hstep
  omega

/-- A number that 53 binary digits and a shift hold is a double. -/
theorem magnitude_round_exact (s : Bool) {k q : Nat} (hk : k < 9007199254740992) (hq : q ≤ 2045) :
    (round s (k * 2 ^ q) 1).magnitude = k * 2 ^ q := by
  obtain ⟨r, hr⟩ := Nat.exists_eq_add_of_le (shiftOf_mul_two_pow_le hk q)
  have hlt : k * 2 ^ q < horizon := by
    rw [horizon_eq]
    exact mul_two_pow_lt hk hq
  rw [magnitude_round, coefficientOf, Nat.div_one, one_mul]
  generalize shiftOf (k * 2 ^ q) = t at hr
  have hgrid : k * 2 ^ q = k * 2 ^ r * 2 ^ t := by
    rw [hr, pow_add]
    ring
  rw [hgrid, roundHalfEven_mul_self _ (Nat.two_pow_pos t), ← hgrid, min_eq_left hlt.le]

theorem isFinite_round_exact (s : Bool) {k q : Nat} (hk : k < 9007199254740992) (hq : q ≤ 2045) :
    (round s (k * 2 ^ q) 1).isFinite := by
  rw [isFinite_iff (round_ne_nan _ _ _), natAbs_ticks, magnitude_round_exact s hk hq, horizon_eq]
  exact mul_two_pow_lt hk hq

/-! ## One rounding -/

section Round

variable (s : Bool) {a d : Nat} (hd : 0 < d)

include hd

theorem abs_magnitude_round_sub : |((round s a d).magnitude : ℚ) - a / d| =
    (|((round s a d).magnitude * d : Int) - a| : Int) / d := by
  have hpos : (0 : ℚ) < d := by exact_mod_cast hd
  have hsub : ((round s a d).magnitude : ℚ) - a / d = ((round s a d).magnitude * d - a) / d := by
    field_simp
  rw [hsub, abs_div, abs_of_pos hpos]
  push_cast
  rfl

/-- A bound of the error in proportion to the quotient. -/
theorem mul_abs_magnitude_round_sub_le {i j : Nat}
    (h : i * |((round s a d).magnitude * d : Int) - a| ≤ j * a) :
    i * |((round s a d).magnitude : ℚ) - a / d| ≤ j * (a / d) := by
  have hpos : (0 : ℚ) < d := by exact_mod_cast hd
  have h : i * (|((round s a d).magnitude * d : Int) - a| : Int) ≤ (j * a : ℚ) := by exact_mod_cast h
  have hquotient := div_le_div_of_nonneg_right h hpos.le
  rwa [mul_div_assoc, mul_div_assoc, ← abs_magnitude_round_sub s hd] at hquotient

theorem abs_magnitude_round_sub_le (ha : a ≤ horizon * d) :
    |((round s a d).magnitude : ℚ) - a / d| ≤ a / d / 9007199254740992 + 1 / 2 := by
  have hpos : (0 : ℚ) < d := by exact_mod_cast hd
  have hquotient : (0 : ℚ) ≤ a / d := by positivity
  rcases magnitude_round_error s hd ha with h | h
  · have := mul_abs_magnitude_round_sub_le s hd (a := a) (i := 9007199254740992) (j := 1)
      (by push_cast; omega)
    push_cast at this
    linarith
  · have h : 2 * (|((round s a d).magnitude * d : Int) - a| : Int) ≤ (d : ℚ) := by exact_mod_cast h
    have := div_le_div_of_nonneg_right h hpos.le
    rw [mul_div_assoc, div_self hpos.ne', ← abs_magnitude_round_sub s hd] at this
    linarith

theorem close_round_of_error
    (h : 9007199254740992 * |((round s a d).magnitude * d : Int) - a| ≤ a) :
    Close 1 (round s a d).magnitude (a / d) := by
  have hquotient := mul_abs_magnitude_round_sub_le s hd (a := a) (i := 9007199254740992) (j := 1)
    (by push_cast; omega)
  have hbounds := abs_le.mp (le_refl |((round s a d).magnitude : ℚ) - a / d|)
  norm_num at hquotient
  constructor <;> norm_num [slack] <;> linarith

/-- From a full coefficient on the error is relative to the quotient. -/
theorem close_round (ha : a ≤ horizon * d) (hlow : 4503599627370496 * d ≤ a) :
    Close 1 (round s a d).magnitude (a / d) := by
  refine close_round_of_error s hd ?_
  rcases magnitude_round_error s hd ha with h | h <;> omega

/-- The quotient may be half a tick short of a full coefficient if what it is rounded to is not. -/
theorem close_round_of_full (ha : a ≤ horizon * d)
    (hfull : 4503599627370496 ≤ (round s a d).magnitude) :
    Close 1 (round s a d).magnitude (a / d) := by
  rcases magnitude_round_error s hd ha with h | h
  · exact close_round_of_error s hd h
  · have hpos : (0 : ℚ) < d := by exact_mod_cast hd
    have hhalf : |((round s a d).magnitude : ℚ) - a / d| ≤ 1 / 2 := by
      rw [abs_magnitude_round_sub s hd, div_le_div_iff₀ hpos two_pos, one_mul, mul_comm]
      exact_mod_cast h
    have hfull : (4503599627370496 : ℚ) ≤ (round s a d).magnitude := by exact_mod_cast hfull
    obtain ⟨hbelow, habove⟩ := abs_le.mp hhalf
    constructor <;> norm_num [slack] <;> linarith

/-- A little below a full coefficient half a tick is worth less than three roundings. -/
theorem close_round_nearly_full (ha : a ≤ horizon * d) (hlow : 4 * 4503599627370496 * d ≤ 9 * a) :
    Close 3 (round s a d).magnitude (a / d) := by
  have herror : 36028797018963968 * |((round s a d).magnitude * d : Int) - a| ≤ 9 * a := by
    rcases magnitude_round_error s hd ha with h | h <;> omega
  have hquotient := mul_abs_magnitude_round_sub_le s hd (a := a) (i := 36028797018963968) (j := 9)
    (by push_cast; omega)
  have hbounds := abs_le.mp (le_refl |((round s a d).magnitude : ℚ) - a / d|)
  norm_num at hquotient
  constructor <;> norm_num [slack] <;> linarith

end Round

end Toolpath.Binary64
