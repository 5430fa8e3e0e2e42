import Toolpath.Proofs.Json.Reread
import Toolpath.Proofs.Number.Scaling

/-!
# The drift of reread doubles

At most six roundings lie between the digits of a double and the quotient that is rounded last. So a
positive double is always reread as a positive one, and it drifts by no more than one part in `2 ^ 49`
and two ticks. Only next to the two ends of the doubles this is too coarse, and there every double is
looked at by itself.
-/

namespace Toolpath.Json

open Binary64 (unit horizon Close slack)

/-! ## Rounded integers -/

theorem close_round_whole {a : Nat} (hlow : 4503599627370496 ≤ a)
    (hhigh : 9007199254740992 * a < 9007199254740991 * horizon) :
    Close 1 (Binary64.round false a 1).magnitude a ∧ (Binary64.round false a 1).isFinite := by
  have hclose := Binary64.close_round false one_pos (a := a) (by omega) (by omega)
  rw [Nat.cast_one, div_one] at hclose
  refine ⟨hclose, ?_⟩
  have hle : 9007199254740991 * ((Binary64.round false a 1).magnitude : ℚ) ≤ 9007199254740992 * a := by
    have hle := hclose.le
    rw [pow_one, slack, div_mul_eq_mul_div, le_div_iff₀ (by norm_num)] at hle
    linarith
  have hle : 9007199254740991 * (Binary64.round false a 1).magnitude ≤ 9007199254740992 * a := by
    exact_mod_cast hle
  rw [Binary64.isFinite_iff (Binary64.round_ne_nan _ _ _), Binary64.natAbs_ticks]
  omega

theorem ten_pow_mul_unit_lt {k : Nat} (hk : k ≤ 308) :
    9007199254740992 * (10 ^ k * unit) < 9007199254740991 * horizon := by
  have hgreatest : 9007199254740992 * (10 ^ 308 * unit) < 9007199254740991 * horizon := by
    decide +kernel
  refine lt_of_le_of_lt ?_ hgreatest
  gcongr
  decide

theorem full_le_mul_unit {n : Nat} (hn : n ≠ 0) : 4503599627370496 ≤ n * unit :=
  (by decide +kernel : 4503599627370496 ≤ unit).trans (Nat.le_mul_of_pos_left _ (Nat.pos_of_ne_zero hn))

theorem close_tenToThe {k : Nat} (hk : k ≤ 308) :
    Close 1 (tenToThe k).magnitude ((10 : ℚ) ^ k * unit) ∧ (tenToThe k).isFinite := by
  have h := close_round_whole (full_le_mul_unit (Nat.pow_pos (by decide) : 0 < 10 ^ k).ne')
    (ten_pow_mul_unit_lt hk)
  push_cast at h
  exact h

theorem close_ofNat {n : Nat} (hn : n ≠ 0) (hlt : n < 18446744073709551616) :
    Close 1 (Binary64.ofNat n).magnitude ((n : ℚ) * unit) ∧ (Binary64.ofNat n).isFinite := by
  have hbound : 9007199254740992 * (n * unit) < 9007199254740991 * horizon := by
    refine lt_of_le_of_lt ?_ (ten_pow_mul_unit_lt (le_refl 308))
    have : n ≤ 10 ^ 308 := hlt.le.trans (by decide +kernel)
    gcongr
  have h := close_round_whole (full_le_mul_unit hn) hbound
  push_cast at h
  exact h

/-! ## Powers of ten -/

section PowersOfTen

variable {g : Binary64} (hg : g.isFinite) (hsign : g.isNegative = false) {j k : Nat} {v : ℚ}
  (hv : 0 < v) (h : Close j g.magnitude v) (hk : k ≤ 308)

include hg hsign hv h hk

theorem mul_tenToThe :
    g * tenToThe k = .round false (g.magnitude * (tenToThe k).magnitude) unit ∧
    Close (j + 1) ((g.magnitude * (tenToThe k).magnitude : Nat) / unit) (v * 10 ^ k) := by
  obtain ⟨hten, hfinite⟩ := close_tenToThe hk
  have hunit : (0 : ℚ) < unit := Nat.cast_pos.mpr Binary64.unit_pos
  have hpower : (0 : ℚ) < 10 ^ k * unit := mul_pos (pow_pos (by norm_num) k) hunit
  refine ⟨?_, ?_⟩
  · rw [Binary64.mul_eq_round hg hfinite, hsign, tenToThe, Binary64.isNegative_round, Bool.bne_false]
  · have hproduct := h.mul (Nat.cast_nonneg _) hv.le (Nat.cast_nonneg _) hpower.le hten
    have hquotient := hproduct.div (mul_nonneg (Nat.cast_nonneg _) (Nat.cast_nonneg _))
      (mul_pos hv hpower).le hunit hunit (Close.refl _)
    rw [← mul_assoc, mul_div_cancel_right₀ _ hunit.ne', ← Nat.cast_mul] at hquotient
    exact hquotient

theorem div_tenToThe : 0 < (tenToThe k).magnitude ∧
    g / tenToThe k = .round false (g.magnitude * unit) (tenToThe k).magnitude ∧
    Close (j + 1) ((g.magnitude * unit : Nat) / (tenToThe k).magnitude) (v / 10 ^ k) := by
  obtain ⟨hten, hfinite⟩ := close_tenToThe hk
  have hunit : (0 : ℚ) < unit := Nat.cast_pos.mpr Binary64.unit_pos
  have hpower : (0 : ℚ) < 10 ^ k * unit := mul_pos (pow_pos (by norm_num) k) hunit
  have hpos := hten.pos hpower
  refine ⟨Nat.cast_pos.mp hpos, ?_, ?_⟩
  · rw [Binary64.div_eq_round hg hfinite (Nat.cast_pos.mp hpos).ne', hsign, tenToThe,
      Binary64.isNegative_round, Bool.bne_false]
  · have hproduct := h.mul (Nat.cast_nonneg _) hv.le hunit.le hunit.le (Close.refl _)
    have hquotient := hproduct.div (mul_nonneg (Nat.cast_nonneg _) hunit.le) (mul_pos hv hunit).le hpos
      hpower hten
    rw [mul_div_mul_right _ _ hunit.ne', ← Nat.cast_mul] at hquotient
    exact hquotient

end PowersOfTen

/-! ## The last quotient -/

/-- Where it is a finite double, the result is the rounding of a quotient that is at most six roundings
away from the decimal, in ticks. -/
def RoundsLast (n : Nat) (e : Int) : Prop :=
  ∃ a d : Nat, 0 < d ∧ Close 6 ((a : ℚ) / d) (n * unit * 10 ^ e) ∧
    ((Binary64.round false a d).isFinite →
      divideDown 4 (.ofNat n) e = some (Binary64.round false a d))

section RoundsLast

variable {n : Nat} (hn : n ≠ 0)

include hn

theorem natCast_mul_unit_pos : (0 : ℚ) < n * unit :=
  mul_pos (Nat.cast_pos.mpr (Nat.pos_of_ne_zero hn)) (Nat.cast_pos.mpr Binary64.unit_pos)

theorem unit_le_natCast_mul_unit : (unit : ℚ) ≤ n * unit :=
  le_mul_of_one_le_left (Nat.cast_nonneg _) (Nat.one_le_cast.mpr (Nat.pos_of_ne_zero hn))

/-- A quotient by `10 ^ 308` is not far below a full coefficient, if at all. -/
theorem nearly_full_of_close {q : ℚ} (h : Close 2 q (n * unit / 10 ^ 308)) :
    4 * 4503599627370496 ≤ 9 * q := by
  have hbound : 4 * 4503599627370496 * 9007199254740992 ^ 2 * 10 ^ 308 ≤
      9 * 9007199254740991 ^ 2 * unit := by
    decide +kernel
  have hbound : (4 * 4503599627370496 * 9007199254740992 ^ 2 * 10 ^ 308 : ℚ) ≤
      9 * 9007199254740991 ^ 2 * unit := by
    exact_mod_cast hbound
  have hpower : (0 : ℚ) < 10 ^ 308 := pow_pos (by norm_num) 308
  have hclose := (div_le_div_of_nonneg_right (unit_le_natCast_mul_unit hn) hpower.le).trans h.ge
  have hbound := (le_div_iff₀ hpower).mpr hbound
  rw [mul_div_assoc] at hbound
  generalize (unit : ℚ) / 10 ^ 308 = r at hbound hclose
  norm_num [slack] at hbound hclose ⊢
  linarith

variable (hlt : n < 18446744073709551616)

include hlt

theorem roundsLast_of_nonneg {k : Nat} (hk : k ≤ 308) : RoundsLast n k := by
  obtain ⟨hclose, hfinite⟩ := close_ofNat hn hlt
  have hpos := natCast_mul_unit_pos hn
  obtain ⟨hround, hquotient⟩ := mul_tenToThe hfinite (Binary64.isNegative_round _ _ _) hpos hclose hk
  refine ⟨(Binary64.ofNat n).magnitude * (tenToThe k).magnitude, unit, Binary64.unit_pos, ?_, fun hf ↦ ?_⟩
  · rw [zpow_natCast]
    exact hquotient.mono (by decide) (mul_pos hpos (pow_pos (by norm_num) k))
  · rw [← hround] at hf ⊢
    exact divideDown_of_nonneg 4 _ hk hf

theorem roundsLast_of_neg {k : Nat} (hk0 : k ≠ 0) (hk : k ≤ 308) : RoundsLast n (-k) := by
  obtain ⟨hclose, hfinite⟩ := close_ofNat hn hlt
  have hpos := natCast_mul_unit_pos hn
  obtain ⟨hten, hround, hquotient⟩ :=
    div_tenToThe hfinite (Binary64.isNegative_round _ _ _) hpos hclose hk
  refine ⟨(Binary64.ofNat n).magnitude * unit, (tenToThe k).magnitude, hten, ?_, fun _ ↦ ?_⟩
  · rw [zpow_neg, zpow_natCast, ← div_eq_mul_inv]
    exact hquotient.mono (by decide) (div_pos hpos (pow_pos (by norm_num) k))
  · rw [divideDown_of_neg 4 _ hk0 hk, hround]

/-- The first quotient may be subnormal, but then it has only lost half a tick. -/
theorem first_quotient : (Binary64.ofNat n / tenToThe 308).isFinite ∧
    (Binary64.ofNat n / tenToThe 308).isNegative = false ∧
    Close 5 (Binary64.ofNat n / tenToThe 308).magnitude (n * unit / 10 ^ 308) := by
  obtain ⟨hclose, hfinite⟩ := close_ofNat hn hlt
  obtain ⟨hten, hround, hquotient⟩ := div_tenToThe hfinite (Binary64.isNegative_round _ _ _)
    (natCast_mul_unit_pos hn) hclose (le_refl 308)
  have hunit : unit ≤ (tenToThe 308).magnitude := by decide +kernel
  have hfull := nearly_full_of_close hn hquotient
  rw [← mul_div_assoc, le_div_iff₀ (Nat.cast_pos.mpr hten)] at hfull
  rw [hround]
  refine ⟨?_, Binary64.isNegative_round _ _ _, ?_⟩
  · exact Binary64.isFinite_round_of_le hten hfinite (Nat.mul_le_mul_left _ hunit)
  · refine (Binary64.close_round_nearly_full false hten ?_ ?_).trans hquotient
    · exact Nat.mul_le_mul (Binary64.magnitude_le_horizon _) hunit
    · exact_mod_cast hfull

theorem roundsLast_of_far {k : Nat} (hk0 : k ≠ 0) (hk : k ≤ 308) : RoundsLast n (-(308 + k : Nat)) := by
  obtain ⟨hfinite, hsign, hclose⟩ := first_quotient hn hlt
  have hpower (k : Nat) : (0 : ℚ) < 10 ^ k := pow_pos (by norm_num) k
  have hpos := div_pos (natCast_mul_unit_pos hn) (hpower 308)
  obtain ⟨hten, hround, hquotient⟩ := div_tenToThe hfinite hsign hpos hclose hk
  have hnonzero : (Binary64.ofNat n).eq 0 = false := by
    have hmagnitude := Nat.cast_pos.mp ((close_ofNat hn hlt).1.pos (natCast_mul_unit_pos hn))
    refine Bool.eq_false_iff.mpr fun heq ↦ ?_
    rw [← Binary64.natAbs_ticks, (Binary64.eq_iff.mp heq).2.2] at hmagnitude
    exact absurd hmagnitude (by decide)
  refine ⟨(Binary64.ofNat n / tenToThe 308).magnitude * unit, (tenToThe k).magnitude, hten, ?_,
    fun _ ↦ ?_⟩
  · rw [zpow_neg, zpow_natCast, ← div_eq_mul_inv, pow_add, ← div_div]
    exact hquotient
  · have hleft : -((308 + k : Nat) : Int) + 308 = -(k : Int) := by push_cast; ring
    rw [divideDown_of_far 3 _ hnonzero (by omega), hleft, divideDown_of_neg 3 _ hk0 hk, hround]

end RoundsLast

theorem roundsLast {n : Nat} (hn : n ≠ 0) (hlt : n < 18446744073709551616) {e : Int} (hlow : -345 ≤ e)
    (hhigh : e ≤ 308) : RoundsLast n e := by
  rcases lt_or_ge e 0 with he | he
  · obtain ⟨k, rfl⟩ := Int.exists_eq_neg_ofNat he.le
    rcases Nat.lt_or_ge 308 k with hk | hk
    · obtain ⟨j, rfl⟩ := Nat.exists_eq_add_of_le hk.le
      exact roundsLast_of_far hn hlt (by omega) (by omega)
    · exact roundsLast_of_neg hn hlt (by omega) hk
  · obtain ⟨k, rfl⟩ := Int.eq_ofNat_of_zero_le he
    exact roundsLast_of_nonneg hn hlt (by omega)

/-! ## The drift -/

/-- One part in `2 ^ 49` and two ticks are all that two doubles differ by. -/
def Near (x y : Binary64) : Prop := 2 ^ 49 * |y.ticks - x.ticks| ≤ x.ticks + 2 ^ 50

instance (x y : Binary64) : Decidable (Near x y) := inferInstanceAs (Decidable (_ ≤ _))

section Drift

variable {v w : ℚ} (h : Close 6 v w) {x : Nat} (hx : |(x : ℚ) - w| ≤ w / 9007199254740992 + 1 / 2)

include h hx

/-- A double and the rounding of a quotient that is six roundings away from what it stands for. -/
theorem near_of_close (hw : 0 < w) {y : Nat} (hy : |(y : ℚ) - v| ≤ v / 9007199254740992 + 1 / 2) :
    2 ^ 49 * |(y : ℚ) - x| ≤ x + 2 ^ 50 := by
  have hx := abs_le.mp hx
  have hy := abs_le.mp hy
  obtain ⟨hle, hge⟩ := h
  norm_num [slack] at hle hge
  have habs : |(y : ℚ) - x| ≤ (x + 2 ^ 50) / 2 ^ 49 := by
    rw [abs_le]
    constructor <;> linarith
  linarith

theorem le_horizon_of_close (hfar : 2 ^ 49 * x + horizon ≤ 2 ^ 49 * horizon) : v ≤ horizon := by
  have hfar : (2 ^ 49 * x + horizon : ℚ) ≤ 2 ^ 49 * horizon := by exact_mod_cast hfar
  have hlarge : (9007199254740992 : ℚ) ≤ horizon := by
    have : 9007199254740992 ≤ horizon := by decide +kernel
    exact_mod_cast this
  have hx := abs_le.mp hx
  generalize (horizon : ℚ) = H at hfar hlarge ⊢
  have hle := h.le
  norm_num [slack] at hle
  linarith

end Drift

/-- A double away from both ends stays off them when it drifts. -/
theorem isFinite_of_near {x y : Binary64} (hx : x.isNegative = false) (hy : y.isNegative = false)
    (hne : y ≠ .nan) (h : 2 ^ 49 * |(y.magnitude : Int) - x.magnitude| ≤ x.magnitude + 2 ^ 50)
    (hends : 2 < x.magnitude) (hfar : 2 ^ 49 * x.magnitude + horizon ≤ 2 ^ 49 * horizon) :
    y.isFinite ∧ 0 < y.ticks ∧ Near x y := by
  have habove := le_abs_self ((y.magnitude : Int) - x.magnitude)
  have hbelow := neg_abs_le ((y.magnitude : Int) - x.magnitude)
  have hlarge : 2 ^ 100 ≤ horizon := by decide +kernel
  rw [Near, Binary64.ticks_of_not_isNegative hx, Binary64.ticks_of_not_isNegative hy]
  refine ⟨?_, by omega, h⟩
  rw [Binary64.isFinite_iff hne, Binary64.natAbs_ticks]
  omega

/-! ## The double of a decimal -/

section Decimal

variable {n : Nat} (hn : n ≠ 0) {e : Int}

include hn

theorem toBinary64_eq_round (hlow : -400 ≤ e) (hhigh : e ≤ 400) :
    ∃ a d : Nat, 0 < d ∧ Decimal.toBinary64 ⟨false, n, e⟩ = .round false a d ∧
      (a : ℚ) / d = n * unit * 10 ^ e := by
  cases e with
  | ofNat k =>
      rw [Int.ofNat_eq_natCast] at hhigh ⊢
      refine ⟨_, 1, one_pos, Decimal.toBinary64_ofNat hn (by omega), ?_⟩
      rw [zpow_natCast, Nat.cast_one, div_one, Nat.pow_eq]
      push_cast
      ring
  | negSucc k =>
      refine ⟨_, _, Nat.pow_pos (by decide), Decimal.toBinary64_negSucc hn (by omega), ?_⟩
      rw [zpow_negSucc, div_eq_mul_inv]
      push_cast
      rfl

/-- A decimal with a finite double is itself below the horizon, and is rounded once. -/
theorem toBinary64_error (hlow : -400 ≤ e) (hhigh : e ≤ 400) {x : Binary64}
    (hx : Decimal.toBinary64 ⟨false, n, e⟩ = x) (hfinite : x.isFinite) :
    x.isNegative = false ∧ (n * unit * 10 ^ e : ℚ) ≤ horizon ∧
      |(x.magnitude : ℚ) - n * unit * 10 ^ e| ≤ n * unit * 10 ^ e / 9007199254740992 + 1 / 2 := by
  obtain ⟨a, d, hd, hround, hvalue⟩ := toBinary64_eq_round hn hlow hhigh
  obtain rfl := hround.symm.trans hx
  have ha := Binary64.le_horizon_of_isFinite_round hd hfinite
  refine ⟨Binary64.isNegative_round _ _ _, ?_, ?_⟩
  · rw [← hvalue, div_le_iff₀ (Nat.cast_pos.mpr hd)]
    exact_mod_cast ha
  · rw [← hvalue]
    exact Binary64.abs_magnitude_round_sub_le false hd ha

theorem exponent_le_of_le_horizon (h : (n * unit * 10 ^ e : ℚ) ≤ horizon) : e ≤ 308 := by
  by_contra hlt
  have hbeyond : (horizon : ℚ) < unit * 10 ^ 309 := by
    have : horizon < unit * 10 ^ 309 := by decide +kernel
    exact_mod_cast this
  have hpower : (10 : ℚ) ^ 309 ≤ 10 ^ e := by
    rw [← zpow_natCast]
    exact zpow_le_zpow_right₀ (by norm_num) (by omega)
  have := mul_le_mul (unit_le_natCast_mul_unit hn) hpower (pow_pos (by norm_num) 309).le
    (natCast_mul_unit_pos hn).le
  exact absurd h (not_le.mpr (hbeyond.trans_le this))

theorem exists_divideDown_near (hlt : n < 18446744073709551616) (hlow : -345 ≤ e) (hhigh : e ≤ 310)
    {x : Binary64} (hx : Decimal.toBinary64 ⟨false, n, e⟩ = x) (hfinite : x.isFinite)
    (hends : 2 < x.magnitude) (hfar : 2 ^ 49 * x.magnitude + horizon ≤ 2 ^ 49 * horizon) :
    ∃ y, divideDown 4 (.ofNat n) e = some y ∧ y.isFinite ∧ 0 < y.ticks ∧ Near x y := by
  obtain ⟨hsign, hbelow, herror⟩ := toBinary64_error hn (by omega) (by omega) hx hfinite
  obtain ⟨a, d, hd, hclose, hdown⟩ := roundsLast hn hlt hlow (exponent_le_of_le_horizon hn hbelow)
  have hpos : (0 : ℚ) < n * unit * 10 ^ e :=
    mul_pos (natCast_mul_unit_pos hn) (zpow_pos (by norm_num) e)
  have ha : a ≤ horizon * d := by
    have := le_horizon_of_close hclose herror hfar
    rw [div_le_iff₀ (Nat.cast_pos.mpr hd)] at this
    exact_mod_cast this
  have hnear := near_of_close hclose herror hpos (Binary64.abs_magnitude_round_sub_le false hd ha)
  have hlast := isFinite_of_near hsign (Binary64.isNegative_round false a d)
    (Binary64.round_ne_nan false a d) (by exact_mod_cast hnear) hends hfar
  exact ⟨_, hdown hlast.1, hlast⟩

end Decimal

/-! ## Rereading any double -/

theorem spelled_inReach {c : Nat} {k : Int} (hc : c ≠ 0) (hlt : c < 10 ^ 18) (hlow : -345 ≤ k)
    (hhigh : k ≤ 310) : ∃ n e, spelled c k = ⟨false, n, e⟩ ∧ n ≠ 0 ∧ n < 18446744073709551616 ∧
      -345 ≤ e ∧ e ≤ 310 := by
  by_cases h : layout.positional (k + (digitsOfNat c).length - 1) ∧ 0 ≤ k
  · obtain ⟨j, rfl⟩ := Int.eq_ofNat_of_zero_le h.2
    exact ⟨_, _, spelled_natCast h.1, Nat.mul_ne_zero hc (Nat.pow_pos (by decide)).ne',
      (mul_ten_pow_lt_of_positional h.1).trans (by decide), by decide, by decide⟩
  · exact ⟨c, k, if_neg h, hc, hlt.trans (by decide), hlow, hhigh⟩

/-- What is reread for a positive double: a double as well that is positive and near. -/
def Drifts (x : Binary64) : Prop := ∃ y ∈ reread x, y.isFinite ∧ 0 < y.ticks ∧ Near x y

instance (x : Binary64) : Decidable (Drifts x) :=
  inferInstanceAs (Decidable (∃ y ∈ reread x, y.isFinite ∧ 0 < y.ticks ∧ Near x y))

theorem drifts_least : ∀ m : Fin 3, m.val ≠ 0 → ∀ h, Drifts (.finite false m.val 0 h) := by
  decide +kernel

theorem drifts_greatest : ∀ i : Fin 16, ∀ h, Drifts (.finite false (9007199254740991 - i.val) 2045 h) := by
  decide +kernel

/-- Only the last sixteen doubles are that close to the horizon. -/
theorem exists_of_far {m p : Nat} (h : Binary64.Canonical m p)
    (hfar : ¬2 ^ 49 * (m * 2 ^ p) + horizon ≤ 2 ^ 49 * horizon) :
    ∃ i < 16, m = 9007199254740991 - i ∧ p = 2045 := by
  obtain ⟨hm, hp, -⟩ := h
  have hhorizon : horizon = 18014398509481984 * 2 ^ 2044 := by decide +kernel
  have htwo : 2 ^ 2045 = 2 * 2 ^ 2044 := by decide +kernel
  have hpos := Nat.two_pow_pos 2044
  rw [hhorizon, not_le] at hfar
  rcases Nat.lt_or_ge 2044 p with h | h
  · obtain rfl : p = 2045 := by omega
    rw [htwo] at hfar
    generalize 2 ^ 2044 = g at hfar hpos
    have hcommon : 2 ^ 49 * 18014398509481984 * g < (2 ^ 49 * (m * 2) + 18014398509481984) * g := by
      calc
        _ = 2 ^ 49 * (18014398509481984 * g) := Nat.mul_assoc _ _ _
        _ < 2 ^ 49 * (m * (2 * g)) + 18014398509481984 * g := hfar
        _ = (2 ^ 49 * (m * 2) + 18014398509481984) * g := by ring
    have hlast := lt_of_mul_lt_mul_right hcommon hpos.le
    exact ⟨9007199254740991 - m, by omega, by omega, rfl⟩
  · have hmul : m * 2 ^ p ≤ 9007199254740992 * 2 ^ 2044 := Binary64.mul_two_pow_le hm.le h
    generalize m * 2 ^ p = k at hfar hmul
    generalize 2 ^ 2044 = g at hfar hmul
    omega

/-- Every positive double is reread as a positive one that is near. -/
theorem drifts {x : Binary64} (hfinite : x.isFinite) (hpos : 0 < x.ticks) : Drifts x := by
  have hmagnitude := Binary64.magnitude_ne_zero_of_pos hpos
  obtain ⟨m, p, hcanonical, rfl⟩ := Binary64.exists_finite_of_pos hfinite hpos
  rw [Binary64.magnitude_finite] at hmagnitude
  have hm := left_ne_zero_of_mul hmagnitude
  by_cases hleast : m * 2 ^ p ≤ 2
  · have hle := (Nat.le_mul_of_pos_right m (Nat.two_pow_pos p)).trans hleast
    obtain rfl : p = 0 := hcanonical.2.2.resolve_left (by omega)
    exact drifts_least ⟨m, by omega⟩ hm hcanonical
  by_cases hfar : 2 ^ 49 * (m * 2 ^ p) + horizon ≤ 2 ^ 49 * horizon
  · obtain ⟨c, k, -, hc, hlt, hlow, hhigh, hx, hread⟩ := reread_finite hcanonical hm
    obtain ⟨n, e, hspelled, hn, hfew, hlow, hhigh⟩ := spelled_inReach hc hlt hlow hhigh
    rw [hspelled] at hx hread
    obtain ⟨y, hdown, hy⟩ := exists_divideDown_near hn hfew hlow hhigh hx hfinite
      (by rw [Binary64.magnitude_finite]; omega) (by rw [Binary64.magnitude_finite]; exact hfar)
    exact ⟨y, hread.trans hdown, hy⟩
  · obtain ⟨i, hi, rfl, rfl⟩ := exists_of_far hcanonical hfar
    exact drifts_greatest ⟨i, hi⟩ hcanonical

end Toolpath.Json
