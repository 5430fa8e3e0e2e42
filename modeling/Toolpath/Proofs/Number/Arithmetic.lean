import Toolpath.Proofs.Number.Nearest

/-!
# Sums, differences and hypotenuses

Sums and differences of finite doubles are the nearest doubles to the exact results, so that they
keep order and sign. Nothing but an absent number or two infinities leads to an absent number.
-/

namespace Toolpath

/-! ## The integer square root -/

theorem floorSqrt_go_spec {n : Nat} :
    ∀ i r, r * r ≤ n → n < (r + 2 ^ i) * (r + 2 ^ i) →
      floorSqrt.go n i r * floorSqrt.go n i r ≤ n ∧
        n < (floorSqrt.go n i r + 1) * (floorSqrt.go n i r + 1) := by
  intro i
  induction i with
  | zero =>
      intro r hle hlt
      exact ⟨hle, by simpa [floorSqrt.go] using hlt⟩
  | succ i ih =>
      intro r hle hlt
      have hpow : 2 ^ (i + 1) = 2 ^ i + 2 ^ i := by
        rw [pow_succ]
        omega
      unfold floorSqrt.go
      simp only [Nat.shiftLeft_eq, one_mul]
      split
      next h => exact ih _ h (by rwa [hpow, ← add_assoc] at hlt)
      next h => exact ih _ hle (not_le.mp h)

theorem floorSqrt_spec (n : Nat) :
    floorSqrt n * floorSqrt n ≤ n ∧ n < (floorSqrt n + 1) * (floorSqrt n + 1) := by
  refine floorSqrt_go_spec _ 0 (Nat.zero_le _) ?_
  have hpow : 2 ^ (n.log2 + 1) ≤ 2 ^ ((n.log2 / 2 + 1) + (n.log2 / 2 + 1)) :=
    Nat.pow_le_pow_right (by decide) (by omega)
  rw [pow_add 2 (n.log2 / 2 + 1)] at hpow
  simpa using Nat.lt_log2_self.trans_le hpow

theorem floorSqrt_mul_self (n : Nat) : floorSqrt (n * n) = n := by
  obtain ⟨hle, hlt⟩ := floorSqrt_spec (n * n)
  have hroot := Nat.mul_self_le_mul_self_iff.mp hle
  have hnext := Nat.mul_self_lt_mul_self_iff.mp hlt
  omega

namespace Binary64

/-! ## Sums -/

theorem ticks_add {a b : Binary64} (ha : a.isFinite) (hb : b.isFinite) :
    (a + b).ticks = (nearest (a.ticks + b.ticks) 1).ticks := by
  obtain ⟨s, m, p, hc, rfl⟩ := exists_finite ha
  obtain ⟨t, n, q, hd, rfl⟩ := exists_finite hb
  change (add _ _).ticks = _
  unfold add
  dsimp only
  split
  next h =>
    rw [h, ticks_nearest_zero]
    cases s <;> cases t <;> rfl
  next => rfl

theorem add_ne_nan {a b : Binary64} (ha : a ≠ .nan) (hb : b.isFinite) : a + b ≠ .nan := by
  obtain ⟨t, n, q, hd, rfl⟩ := exists_finite hb
  change add _ _ ≠ .nan
  cases a with
  | nan => exact absurd rfl ha
  | infinity s => simp [add]
  | finite s m p hc =>
      unfold add
      dsimp only
      split
      · simp [zero]
      · exact nearest_ne_nan _ _

theorem isFinite_of_add {a b : Binary64} (h : (a + b).isFinite) : a.isFinite ∧ b.isFinite := by
  change (add a b).isFinite at h
  cases a with
  | nan => simp [add, isFinite] at h
  | infinity s =>
      cases b with
      | nan => simp [add, isFinite] at h
      | infinity t => by_cases hst : s = t <;> simp [add, hst, isFinite] at h
      | finite t n q hd => simp [add, isFinite] at h
  | finite s m p hc =>
      cases b with
      | nan => simp [add, isFinite] at h
      | infinity t => simp [add, isFinite] at h
      | finite t n q hd => exact ⟨rfl, rfl⟩

/-! ## Differences -/

theorem sub_eq_add_neg (a b : Binary64) : a - b = a + b.neg := rfl

theorem ticks_sub {a b : Binary64} (ha : a.isFinite) (hb : b.isFinite) :
    (a - b).ticks = (nearest (a.ticks - b.ticks) 1).ticks := by
  rw [sub_eq_add_neg, ticks_add ha (by rwa [isFinite_neg]), ticks_neg, Int.sub_eq_add_neg]

theorem sub_ne_nan {a b : Binary64} (ha : a ≠ .nan) (hb : b.isFinite) : a - b ≠ .nan :=
  add_ne_nan ha (by rwa [isFinite_neg])

theorem isFinite_of_sub {a b : Binary64} (h : (a - b).isFinite) : a.isFinite ∧ b.isFinite := by
  rw [sub_eq_add_neg] at h
  simpa using isFinite_of_add h

def tick : Binary64 := .finite false 1 0 (by decide)

@[simp] theorem ticks_tick : tick.ticks = 1 := by
  decide +kernel

/-- A difference does not vanish unless its two sides are equal. -/
theorem ticks_sub_pos {a b : Binary64} (ha : a.isFinite) (hb : b.isFinite)
    (h : b.ticks < a.ticks) : 0 < (a - b).ticks := by
  have hle : tick.ticks ≤ (nearest (a.ticks - b.ticks) 1).ticks :=
    le_ticks_nearest_of_le one_pos (by simp; omega)
  rw [ticks_sub ha hb]
  simp at hle
  omega

theorem ticks_sub_neg {a b : Binary64} (ha : a.isFinite) (hb : b.isFinite)
    (h : a.ticks < b.ticks) : (a - b).ticks < 0 := by
  have hle : (nearest (a.ticks - b.ticks) 1).ticks ≤ tick.neg.ticks :=
    ticks_nearest_le_of_le one_pos (by simp; omega)
  rw [ticks_sub ha hb]
  simp at hle
  omega

theorem ticks_sub_eq_zero {a b : Binary64} (ha : a.isFinite) (hb : b.isFinite)
    (h : a.ticks = b.ticks) : (a - b).ticks = 0 := by
  rw [ticks_sub ha hb, h, sub_self, ticks_nearest_zero]

/-- The sign of a difference is the sign of the exact one. -/
theorem compare_sub {a b : Binary64} (ha : a.isFinite) (hb : b.isFinite) :
    compare (a - b).ticks 0 = compare a.ticks b.ticks := by
  cases h : compare a.ticks b.ticks <;>
    simp only [compare_lt_iff_lt, compare_eq_iff_eq, compare_gt_iff_gt] at h ⊢
  · exact ticks_sub_neg ha hb h
  · exact ticks_sub_eq_zero ha hb h
  · exact ticks_sub_pos ha hb h

/-! ## Products and quotients -/

theorem mul_eq_round {a b : Binary64} (ha : a.isFinite) (hb : b.isFinite) :
    a * b = round (a.isNegative != b.isNegative) (a.magnitude * b.magnitude) unit := by
  obtain ⟨s, m, p, hc, rfl⟩ := exists_finite ha
  obtain ⟨t, n, q, hd, rfl⟩ := exists_finite hb
  rfl

theorem div_eq_round {a b : Binary64} (ha : a.isFinite) (hb : b.isFinite) (hb0 : b.magnitude ≠ 0) :
    a / b = round (a.isNegative != b.isNegative) (a.magnitude * unit) b.magnitude := by
  obtain ⟨s, m, p, hc, rfl⟩ := exists_finite ha
  obtain ⟨t, n, q, hd, rfl⟩ := exists_finite hb
  exact if_neg hb0

/-! ## Hypotenuses

What arcs use of a hypotenuse is that it is infinite next to an infinite side, finite only between finite
ones, zero between zeros and positive otherwise. How its root is rounded is not used.
-/

theorem hypot_infinity_left (s : Bool) (b : Binary64) : hypot (.infinity s) b = .infinity false := by
  cases b <;> rfl

theorem hypot_infinity_right (a : Binary64) (s : Bool) : hypot a (.infinity s) = .infinity false := by
  cases a <;> rfl

theorem isFinite_of_hypot {a b : Binary64} (h : (hypot a b).isFinite) :
    a.isFinite ∧ b.isFinite := by
  cases a with
  | infinity s =>
      rw [hypot_infinity_left] at h
      exact absurd h (by decide)
  | nan =>
      cases b with
      | infinity t =>
          rw [hypot_infinity_right] at h
          exact absurd h (by decide)
      | nan => exact absurd h Bool.false_ne_true
      | finite t n q hd => exact absurd h Bool.false_ne_true
  | finite s m p hc =>
      cases b with
      | infinity t =>
          rw [hypot_infinity_right] at h
          exact absurd h (by decide)
      | nan => exact absurd h Bool.false_ne_true
      | finite t n q hd => exact ⟨rfl, rfl⟩

theorem hypot_finite {a b : Binary64} (ha : a.isFinite) (hb : b.isFinite) {n : Nat}
    (hn : n = 4 * (a.magnitude * a.magnitude + b.magnitude * b.magnitude)) :
    hypot a b = nearest (if floorSqrt n * floorSqrt n = n then 2 * floorSqrt n
      else 2 * floorSqrt n + 1 : Nat) 4 := by
  subst hn
  obtain ⟨s, m, p, hc, rfl⟩ := exists_finite ha
  obtain ⟨t, n, q, hd, rfl⟩ := exists_finite hb
  unfold nearest
  rw [Int.natAbs_natCast, decide_eq_false (by omega)]
  rfl

theorem ticks_hypot_pos {a b : Binary64} (ha : a.isFinite) (hb : b.isFinite)
    (h : a.ticks ≠ 0 ∨ b.ticks ≠ 0) : 0 < (hypot a b).ticks := by
  have hab : 0 < a.magnitude ∨ 0 < b.magnitude := by
    rw [← natAbs_ticks, ← natAbs_ticks]
    omega
  obtain ⟨n, hn⟩ : ∃ n, n = 4 * (a.magnitude * a.magnitude + b.magnitude * b.magnitude) :=
    ⟨_, rfl⟩
  have hroot : 2 ≤ floorSqrt n := by
    by_contra hlt
    have hs := (floorSqrt_spec n).2
    have h4 : (floorSqrt n + 1) * (floorSqrt n + 1) ≤ 2 * 2 := by
      gcongr <;> omega
    rcases hab with h | h <;> nlinarith
  have hle : tick.ticks ≤ (hypot a b).ticks := by
    rw [hypot_finite ha hb hn]
    refine le_ticks_nearest_of_le (by norm_num) ?_
    rw [ticks_tick]
    split <;> omega
  rw [ticks_tick] at hle
  omega

end Binary64

end Toolpath
