import Toolpath.Proofs.Number.Order

/-!
# Rounding to the nearest double

The nearest integer is nearest among all integers, and on a tie it is even. Carried over to the grid
that a quotient is rounded on, this makes the rounded quotient nearest among all doubles, the
infinities at the horizon included. Order is kept for this reason alone, so monotonicity is derived
from it and from the fact that the result depends on the value of the quotient only.
-/

namespace Toolpath

/-! ## The nearest integer -/

theorem roundHalfEven_cases (a d : Nat) :
    (roundHalfEven a d = a / d ∧ 2 * (a % d) ≤ d ∧ (2 * (a % d) = d → a / d % 2 = 0)) ∨
      (roundHalfEven a d = a / d + 1 ∧ d ≤ 2 * (a % d) ∧ (2 * (a % d) = d → a / d % 2 = 1)) := by
  unfold roundHalfEven
  dsimp only
  split
  · exact Or.inl ⟨rfl, by omega, by omega⟩
  · split
    · exact Or.inr ⟨rfl, by omega, by omega⟩
    · rcases Nat.mod_two_eq_zero_or_one (a / d) with h | h
      · exact Or.inl ⟨by omega, by omega, fun _ ↦ h⟩
      · exact Or.inr ⟨by omega, by omega, fun _ ↦ h⟩

/-- The integer is at most a half away from the quotient, and where it is a half away it is even. -/
def IsHalfEven (m a : Int) (d : Nat) : Prop :=
  2 * |m * d - a| ≤ d ∧ (2 * |m * d - a| = d → m % 2 = 0)

theorem isHalfEven_roundHalfEven {d : Nat} (hd : 0 < d) (a : Nat) :
    IsHalfEven (roundHalfEven a d) a d := by
  have hdm : (a : Int) = (a / d : Nat) * d + (a % d : Nat) := by
    exact_mod_cast (Nat.div_add_mod' a d).symm
  have hlt := Nat.mod_lt a hd
  rcases roundHalfEven_cases a d with ⟨he, hle, htie⟩ | ⟨he, hle, htie⟩
  · have habs : |((a / d : Nat) * d : Int) - a| = (a % d : Nat) := by
      rw [abs_sub_comm, abs_of_nonneg (by omega)]
      omega
    rw [he]
    refine ⟨by omega, fun h ↦ ?_⟩
    have := htie (by omega)
    omega
  · have habs : |((a / d + 1 : Nat) * d : Int) - a| = d - (a % d : Nat) := by
      have hexp : ((a / d + 1 : Nat) * d : Int) = (a / d : Nat) * d + d := by
        push_cast
        ring
      rw [hexp, abs_of_nonneg (by omega)]
      omega
    rw [he]
    refine ⟨by omega, fun h ↦ ?_⟩
    have := htie (by omega)
    omega

theorem le_abs_mul_sub_mul {d : Nat} {m n : Int} (h : m ≠ n) : (d : Int) ≤ |m * d - n * d| := by
  rw [← sub_mul, abs_mul, Nat.abs_cast]
  exact le_mul_of_one_le_left (by positivity) (Int.one_le_abs (sub_ne_zero.mpr h))

theorem IsHalfEven.unique {d : Nat} (hd : 0 < d) {a m n : Int} (hm : IsHalfEven m a d)
    (hn : IsHalfEven n a d) : m = n := by
  obtain ⟨hm, hmtie⟩ := hm
  obtain ⟨hn, hntie⟩ := hn
  by_contra hne
  have hgap := le_abs_mul_sub_mul (d := d) hne
  have htri := abs_sub_le (m * d) a (n * d)
  rw [abs_sub_comm a] at htri
  -- Both are a half away, on two sides, so that they are neighbours; but both are even.
  have hm2 := hmtie (by omega)
  have hn2 := hntie (by omega)
  have hgap2 := le_abs_mul_sub_mul (d := 2 * d) (m := m / 2) (n := n / 2) (by omega)
  have hhalf {k : Int} (hk : k % 2 = 0) : k / 2 * (2 * d : Nat) = k * d := by
    push_cast
    rw [← mul_assoc, Int.ediv_mul_cancel (Int.dvd_of_emod_eq_zero hk)]
  rw [hhalf hm2, hhalf hn2] at hgap2
  omega

theorem IsHalfEven.mono {d : Nat} (hd : 0 < d) {a b m n : Int} (hm : IsHalfEven m a d)
    (hn : IsHalfEven n b d) (hab : a ≤ b) : m ≤ n := by
  by_contra hlt
  have hstep : (n + 1) * d ≤ m * d := by
    gcongr
    omega
  rw [add_mul, one_mul] at hstep
  have hm1 := hm.1
  have hn1 := hn.1
  rw [Int.abs_eq_natAbs] at hm1 hn1
  -- One place apart and half a place away on the inside, both are nearest to the same number.
  obtain rfl : a = b := by omega
  exact hlt (hm.unique hd hn).le

theorem IsHalfEven.neg {m a : Int} {d : Nat} (h : IsHalfEven m a d) : IsHalfEven (-m) (-a) d := by
  obtain ⟨hle, htie⟩ := h
  have habs : |-m * d - -a| = |m * d - a| := by
    rw [← abs_neg]
    ring_nf
  rw [IsHalfEven, habs]
  exact ⟨hle, fun h ↦ by have := htie h; omega⟩

theorem IsHalfEven.abs_le {m a : Int} {d : Nat} (h : IsHalfEven m a d) (k : Int) :
    |m * d - a| ≤ |k * d - a| := by
  by_cases hk : k = m
  · rw [hk]
  · have hgap := le_abs_mul_sub_mul (d := d) hk
    have htri := abs_sub_le (k * d) a (m * d)
    rw [abs_sub_comm a] at htri
    have hhalf := h.1
    omega

theorem roundHalfEven_nearest {d : Nat} (hd : 0 < d) (a : Nat) (k : Int) :
    |(roundHalfEven a d * d : Int) - a| ≤ |k * d - a| :=
  (isHalfEven_roundHalfEven hd a).abs_le k

theorem roundHalfEven_mul_right {c : Nat} (hc : 0 < c) (a d : Nat) :
    roundHalfEven (a * c) (d * c) = roundHalfEven a d := by
  unfold roundHalfEven
  rw [Nat.mul_div_mul_right _ _ hc, Nat.mul_mod_mul_right]
  simp only [← Nat.mul_assoc, Nat.mul_lt_mul_right hc]

namespace Binary64

/-! ## The grid of a quotient -/

theorem lt_two_pow_shiftOf (n : Nat) : n < 9007199254740992 * 2 ^ shiftOf n := by
  have h : 2 ^ (n.log2 + 1) ≤ 2 ^ (53 + shiftOf n) :=
    Nat.pow_le_pow_right (by decide) (by unfold shiftOf; omega)
  rw [pow_add 2 53] at h
  exact Nat.lt_log2_self.trans_le h

theorem two_pow_shiftOf_le {n : Nat} (h : shiftOf n ≠ 0) :
    4503599627370496 * 2 ^ shiftOf n ≤ n := by
  unfold shiftOf at h ⊢
  have hn : n ≠ 0 := by
    rintro rfl
    simp at h
  have he : 52 + (n.log2 - 52) = n.log2 := by omega
  have hle := Nat.log2_self_le hn
  rwa [← he, pow_add 2 52] at hle

/-- The coefficient that a quotient is rounded to. -/
def coefficientOf (a d : Nat) : Nat := roundHalfEven a (d * 2 ^ shiftOf (a / d))

theorem coefficientOf_le (a d : Nat) :
    coefficientOf a d ≤ 9007199254740992 := by
  have hlt : a / (d * 2 ^ shiftOf (a / d)) < 9007199254740992 := by
    rw [← Nat.div_div_eq_div_mul]
    exact (Nat.div_lt_iff_lt_mul (Nat.two_pow_pos _)).mpr (lt_two_pow_shiftOf _)
  unfold coefficientOf
  rcases roundHalfEven_cases a (d * 2 ^ shiftOf (a / d)) with ⟨h, -⟩ | ⟨h, -⟩ <;> omega

theorem le_coefficientOf {d : Nat} (a : Nat) (h : shiftOf (a / d) ≠ 0) :
    4503599627370496 ≤ coefficientOf a d := by
  have hle : 4503599627370496 ≤ a / (d * 2 ^ shiftOf (a / d)) := by
    rw [← Nat.div_div_eq_div_mul]
    exact (Nat.le_div_iff_mul_le (Nat.two_pow_pos _)).mpr (two_pow_shiftOf_le h)
  unfold coefficientOf
  rcases roundHalfEven_cases a (d * 2 ^ shiftOf (a / d)) with ⟨h, -⟩ | ⟨h, -⟩ <;> omega

/-! ## The rounded quotient -/

theorem place_eq (s : Bool) (m p : Nat) :
    (∃ n q h, place s m p = finite s n q h) ∨ place s m p = infinity s := by
  unfold place
  dsimp only
  generalize (if m = 9007199254740992 then (4503599627370496, p + 1) else (m, p)) = c
  split
  next h => exact Or.inl ⟨_, _, h, rfl⟩
  next => exact Or.inr rfl

@[simp] theorem place_ne_nan (s : Bool) (m p : Nat) : place s m p ≠ .nan := by
  rcases place_eq s m p with ⟨n, q, h, he⟩ | he <;> simp [he]

@[simp] theorem isNegative_place (s : Bool) (m p : Nat) : (place s m p).isNegative = s := by
  rcases place_eq s m p with ⟨n, q, h, he⟩ | he <;> rw [he] <;> rfl

theorem horizon_le_mul_two_pow {m p : Nat} (hm : 4503599627370496 ≤ m) (hp : 2045 < p) :
    horizon ≤ m * 2 ^ p := by
  obtain ⟨k, rfl⟩ := Nat.exists_eq_add_of_lt hp
  rw [horizon_eq, show 2045 + k + 1 = 1 + k + 2045 by omega, pow_add, ← mul_assoc]
  refine Nat.mul_le_mul_right _ ?_
  calc
    9007199254740992 = 4503599627370496 * 2 := by norm_num
    _ ≤ m * 2 ^ (1 + k) := Nat.mul_le_mul hm (Nat.le_self_pow (by omega) 2)

/-- A full coefficient, or any coefficient that is not shifted, is placed exactly up to the
horizon. -/
theorem magnitude_place (s : Bool) {m p : Nat} (hm : m ≤ 9007199254740992)
    (hp : p ≠ 0 → 4503599627370496 ≤ m) :
    (place s m p).magnitude = Min.min (m * 2 ^ p) horizon := by
  by_cases h53 : m = 9007199254740992
  · subst h53
    have he : 9007199254740992 * 2 ^ p = 4503599627370496 * 2 ^ (p + 1) := by
      rw [pow_succ]
      ring
    unfold place
    simp only [↓reduceIte]
    split
    next hc =>
      rw [he, min_eq_left]
      · exact magnitude_finite ..
      · rw [← magnitude_finite s _ _ hc]
        exact magnitude_le_horizon _
    next hc =>
      have hlt : 2045 < p + 1 := by
        by_contra hle
        exact hc ⟨by norm_num, by omega, Or.inl le_rfl⟩
      rw [he, min_eq_right (horizon_le_mul_two_pow le_rfl hlt), magnitude_infinity]
  · unfold place
    simp only [h53, ↓reduceIte]
    split
    next hc =>
      rw [min_eq_left]
      · exact magnitude_finite ..
      · rw [← magnitude_finite s _ _ hc]
        exact magnitude_le_horizon _
    next hc =>
      have hlt : 2045 < p := by
        by_contra hle
        refine hc ⟨by omega, by omega, ?_⟩
        by_cases h0 : p = 0
        · exact Or.inr h0
        · exact Or.inl (hp h0)
      rw [min_eq_right (horizon_le_mul_two_pow (hp (by omega)) hlt), magnitude_infinity]

theorem round_eq_place (s : Bool) (a d : Nat) :
    round s a d = place s (coefficientOf a d) (shiftOf (a / d)) := by
  unfold round coefficientOf
  simp only [Nat.shiftLeft_eq]

@[simp] theorem round_ne_nan (s : Bool) (a d : Nat) : round s a d ≠ .nan := by
  rw [round_eq_place]
  exact place_ne_nan _ _ _

@[simp] theorem isNegative_round (s : Bool) (a d : Nat) : (round s a d).isNegative = s := by
  rw [round_eq_place]
  exact isNegative_place _ _ _

theorem magnitude_round (s : Bool) (a d : Nat) :
    (round s a d).magnitude = Min.min (coefficientOf a d * 2 ^ shiftOf (a / d)) horizon := by
  rw [round_eq_place]
  exact magnitude_place s (coefficientOf_le a d) (le_coefficientOf a)

/-- A magnitude lies on a grid, or below the coefficients that are full on it. -/
theorem magnitude_on_grid (x : Binary64) {p : Nat} (hp : p ≤ 2098) :
    (∃ k, x.magnitude = k * 2 ^ p) ∨
      (p ≠ 0 ∧ x.magnitude < 4503599627370496 * 2 ^ p) := by
  cases x with
  | nan => exact Or.inl ⟨0, by simp⟩
  | infinity s =>
      refine Or.inl ⟨2 ^ (2098 - p), ?_⟩
      rw [magnitude_infinity, ← pow_add, Nat.sub_add_cancel hp]
      rfl
  | finite s m q hc =>
      rw [magnitude_finite]
      rcases Nat.lt_or_ge q p with h | h
      · obtain ⟨k, rfl⟩ := Nat.exists_eq_add_of_lt h
        refine Or.inr ⟨by omega, ?_⟩
        calc
          m * 2 ^ q < 9007199254740992 * 2 ^ (q + k) := mul_two_pow_lt hc.1 (by omega)
          _ = 4503599627370496 * 2 ^ (q + k + 1) := by
            rw [pow_succ]
            ring
      · refine Or.inl ⟨m * 2 ^ (q - p), ?_⟩
        rw [mul_assoc, ← pow_add, Nat.sub_add_cancel h]

/-- No magnitude of a double is nearer to a quotient than the rounded one. -/
theorem magnitude_round_nearest (s : Bool) {d : Nat} (hd : 0 < d) (a : Nat) (x : Binary64) :
    |((round s a d).magnitude * d : Int) - a| ≤ |(x.magnitude * d : Int) - a| := by
  rw [magnitude_round]
  have hfull : shiftOf (a / d) ≠ 0 → 4503599627370496 * 2 ^ shiftOf (a / d) * d ≤ a := fun h ↦
    (Nat.le_div_iff_mul_le hd).mp (two_pow_shiftOf_le h)
  have hgrid := roundHalfEven_nearest (Nat.mul_pos hd (Nat.two_pow_pos (shiftOf (a / d)))) a
  have hle := coefficientOf_le a d
  have hge := le_coefficientOf (d := d) a
  unfold coefficientOf at hle hge ⊢
  generalize shiftOf (a / d) = p at hfull hgrid hle hge ⊢
  generalize roundHalfEven a (d * 2 ^ p) = m at hgrid hle hge ⊢
  rcases Nat.lt_or_ge 2045 p with hp | hp
  · have hhor : horizon * d ≤ a :=
      (Nat.mul_le_mul_right d (horizon_le_mul_two_pow le_rfl hp)).trans (hfull (by omega))
    have hx : x.magnitude * d ≤ horizon * d := Nat.mul_le_mul_right d (magnitude_le_horizon x)
    rw [min_eq_right (horizon_le_mul_two_pow (hge (by omega)) hp)]
    zify at hhor hx
    rw [abs_of_nonpos (by omega), abs_of_nonpos (by omega)]
    omega
  · have hm : m * 2 ^ p ≤ horizon := by
      rw [horizon_eq]
      exact mul_two_pow_le hle hp
    rw [min_eq_left hm]
    rcases magnitude_on_grid x (p := p) (by omega) with ⟨k, hk⟩ | ⟨h0, hlt⟩
    · have := hgrid k
      push_cast [hk] at this ⊢
      convert this using 3 <;> ring
    · have hfull := hfull h0
      have hlt : x.magnitude * d ≤ 4503599627370496 * 2 ^ p * d := Nat.mul_le_mul_right d hlt.le
      have h52 := hgrid 4503599627370496
      zify at hfull hlt
      push_cast at h52 ⊢
      calc
        |(m * 2 ^ p * d : Int) - a| = |(m * (d * 2 ^ p) : Int) - a| := by ring_nf
        _ ≤ |(4503599627370496 * (d * 2 ^ p) : Int) - a| := h52
        _ = a - 4503599627370496 * 2 ^ p * d := by
          rw [abs_of_nonpos (by linarith)]
          ring
        _ ≤ a - x.magnitude * d := by linarith
        _ = |(x.magnitude * d : Int) - a| := by
          rw [abs_of_nonpos (by linarith)]
          ring

/-! ## The nearest double -/

@[simp] theorem nearest_ne_nan (a : Int) (d : Nat) : nearest a d ≠ .nan :=
  round_ne_nan _ _ _

/-- A quotient and its rounding lie on the same side of zero. -/
theorem abs_ticks_nearest_sub (a : Int) (d : Nat) :
    |(nearest a d).ticks * d - a| = |((nearest a d).magnitude * d : Int) - a.natAbs| := by
  rw [← Int.abs_eq_natAbs a]
  rcases lt_or_ge a 0 with ha | ha
  · have hs : (nearest a d).isNegative = true := by simp [nearest, ha]
    rw [ticks_of_isNegative hs, abs_of_neg ha, ← abs_neg]
    ring_nf
  · have hs : (nearest a d).isNegative = false := by simp [nearest, ha]
    rw [ticks_of_not_isNegative hs, abs_of_nonneg ha]

/-- No double is nearer to a quotient than the one that it is rounded to. -/
theorem ticks_nearest_le {d : Nat} (hd : 0 < d) (a : Int) (x : Binary64) :
    |(nearest a d).ticks * d - a| ≤ |x.ticks * d - a| := by
  have hx : (x.magnitude * d : Int) = |x.ticks * d| := by
    rw [abs_mul, Int.abs_eq_natAbs, natAbs_ticks, Nat.abs_cast]
  calc
    |(nearest a d).ticks * d - a| = |((nearest a d).magnitude * d : Int) - a.natAbs| :=
      abs_ticks_nearest_sub a d
    _ ≤ |(x.magnitude * d : Int) - a.natAbs| := magnitude_round_nearest _ hd _ x
    _ ≤ |x.ticks * d - a| := by
      rw [hx, ← Int.abs_eq_natAbs]
      exact abs_abs_sub_abs_le_abs_sub _ _

/-- A finite rounding has a coefficient, full unless it is not shifted, and is at most half a place
away. -/
theorem exists_coefficient_nearest {d : Nat} (hd : 0 < d) {a : Int}
    (hfin : (nearest a d).isFinite) :
    ∃ m p, (nearest a d).magnitude = m * 2 ^ p ∧ p ≤ 2045 ∧ (p ≠ 0 → 4503599627370496 ≤ m) ∧
      2 * |(nearest a d).ticks * d - a| ≤ ((d * 2 ^ p : Nat) : Int) := by
  have hlt := magnitude_lt_horizon hfin
  have hmag : (nearest a d).magnitude =
      coefficientOf a.natAbs d * 2 ^ shiftOf (a.natAbs / d) := by
    have hmin := magnitude_round (decide (a < 0)) a.natAbs d
    change (nearest a d).magnitude = _ at hmin
    omega
  refine ⟨_, _, hmag, ?_, le_coefficientOf _, ?_⟩
  · by_contra hp
    have hfar := horizon_le_mul_two_pow (le_coefficientOf (d := d) a.natAbs (by omega)) (not_le.mp hp)
    omega
  · have hhalf := (isHalfEven_roundHalfEven
      (Nat.mul_pos hd (Nat.two_pow_pos (shiftOf (a.natAbs / d)))) a.natAbs).1
    rw [abs_ticks_nearest_sub, hmag]
    convert hhalf using 3
    unfold coefficientOf
    push_cast
    ring

theorem round_mul_right (s : Bool) (a d : Nat) {c : Nat} (hc : 0 < c) :
    round s (a * c) (d * c) = round s a d := by
  rw [round_eq_place, round_eq_place, Nat.mul_div_mul_right _ _ hc]
  unfold coefficientOf
  rw [Nat.mul_div_mul_right _ _ hc, Nat.mul_right_comm, roundHalfEven_mul_right hc]

/-- The result depends on the value of the quotient only. -/
theorem nearest_congr {a b : Int} {d e : Nat} (hd : 0 < d) (he : 0 < e) (h : a * e = b * d) :
    nearest a d = nearest b e := by
  have hneg : a < 0 ↔ b < 0 := by
    constructor <;> intro h0 <;> by_contra h1 <;> nlinarith
  have habs : a.natAbs * e = b.natAbs * d := by
    have := congrArg Int.natAbs h
    simpa [Int.natAbs_mul] using this
  calc
    nearest a d = round (decide (a < 0)) (a.natAbs * e) (d * e) :=
      (round_mul_right _ _ _ he).symm
    _ = round (decide (a < 0)) (b.natAbs * d) (e * d) := by rw [habs, Nat.mul_comm d e]
    _ = round (decide (a < 0)) b.natAbs e := round_mul_right _ _ _ hd
    _ = nearest b e := by
      unfold nearest
      rw [decide_eq_decide.mpr hneg]

/-- What is nearer to the right end of an interval lies in its right half. -/
theorem add_le_of_abs_sub_le {x y a : Int} (h : y < x) (ha : |x - a| ≤ |y - a|) :
    x + y ≤ 2 * a := by
  have hsq := sq_le_sq.mpr ha
  nlinarith

/-- What is nearer to the left end of an interval lies in its left half. -/
theorem le_add_of_abs_sub_le {x y a : Int} (h : x < y) (ha : |x - a| ≤ |y - a|) :
    2 * a ≤ x + y := by
  have hsq := sq_le_sq.mpr ha
  nlinarith

theorem nearest_mono {a b : Int} {d e : Nat} (hd : 0 < d) (he : 0 < e) (h : a * e ≤ b * d) :
    (nearest a d).ticks ≤ (nearest b e).ticks := by
  by_contra hlt
  have ha := ticks_nearest_le hd a (nearest b e)
  have hb := ticks_nearest_le he b (nearest a d)
  have hcongr : a * e = b * d → nearest a d = nearest b e := nearest_congr hd he
  generalize nearest a d = x at *
  generalize nearest b e = y at *
  have hxy : y.ticks < x.ticks := not_le.mp hlt
  zify at hd he
  -- Each quotient is at least as near to its own result, so the quotients lie the other way round.
  have hxa := add_le_of_abs_sub_le (mul_lt_mul_of_pos_right hxy hd) ha
  have hby := le_add_of_abs_sub_le (mul_lt_mul_of_pos_right hxy he) hb
  have heq : a * e = b * d := by
    apply le_antisymm h
    have h1 : (x.ticks * d + y.ticks * d) * e ≤ 2 * a * e := by gcongr
    have h2 : 2 * b * d ≤ (y.ticks * e + x.ticks * e) * d := by gcongr
    linarith
  rw [hcongr heq] at hxy
  exact lt_irrefl _ hxy

theorem ticks_nearest_of_eq {d : Nat} (hd : 0 < d) {a : Int} {x : Binary64}
    (h : a = x.ticks * d) : (nearest a d).ticks = x.ticks := by
  subst h
  have hle := ticks_nearest_le hd (x.ticks * d) x
  rw [sub_self, abs_zero, abs_nonpos_iff, ← sub_mul] at hle
  have hd' : (d : Int) ≠ 0 := by exact_mod_cast hd.ne'
  exact sub_eq_zero.mp ((mul_eq_zero.mp hle).resolve_right hd')

theorem ticks_nearest_ticks (x : Binary64) : (nearest x.ticks 1).ticks = x.ticks :=
  ticks_nearest_of_eq one_pos (by simp)

@[simp] theorem ticks_nearest_zero : (nearest 0 1).ticks = 0 := by
  have h := ticks_nearest_ticks 0
  rwa [ticks_zero] at h

theorem ticks_nearest_le_of_le {d : Nat} (hd : 0 < d) {a : Int} {x : Binary64}
    (h : a ≤ x.ticks * d) : (nearest a d).ticks ≤ x.ticks := by
  rw [← ticks_nearest_ticks x]
  exact nearest_mono hd one_pos (by simpa using h)

theorem le_ticks_nearest_of_le {d : Nat} (hd : 0 < d) {a : Int} {x : Binary64}
    (h : x.ticks * d ≤ a) : x.ticks ≤ (nearest a d).ticks := by
  rw [← ticks_nearest_ticks x]
  exact nearest_mono one_pos hd (by simpa using h)

end Binary64

end Toolpath
