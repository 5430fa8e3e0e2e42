import Toolpath.Proofs.Number.Arithmetic
import Toolpath.Proofs.Number.Error

/-!
# Remainders

The remainder of two doubles is a double, for it lies on the finer one of their two grids and is no
longer than the number that stands on it. The remainder that is moved up by the modulus where it is
negative is therefore rounded once, and it is the exact one, rounded.
-/

namespace Toolpath.Binary64

/-! ## The sign taken away -/

@[simp] theorem isFinite_abs (x : Binary64) : x.abs.isFinite = x.isFinite := by
  cases x <;> rfl

@[simp] theorem ticks_abs (x : Binary64) : x.abs.ticks = x.ticks.natAbs := by
  rw [natAbs_ticks]
  cases x <;> rfl

/-! ## The exact remainder -/

/-- The remainder of two numbers of at most 53 binary digits has no more, on one of their grids. -/
theorem exists_mod_eq {m p n q : Nat} (hm : m < 9007199254740992) (hn : n < 9007199254740992)
    (hn0 : 0 < n) (hp : p ≤ 2045) (hq : q ≤ 2045) :
    ∃ k r, k < 9007199254740992 ∧ r ≤ 2045 ∧ m * 2 ^ p % (n * 2 ^ q) = k * 2 ^ r := by
  rcases le_total q p with h | h
  · obtain ⟨j, rfl⟩ := Nat.exists_eq_add_of_le h
    refine ⟨m * 2 ^ j % n, q, (Nat.mod_lt _ hn0).trans hn, hq, ?_⟩
    rw [Nat.add_comm, pow_add, ← Nat.mul_assoc, Nat.mul_mod_mul_right]
  · obtain ⟨j, rfl⟩ := Nat.exists_eq_add_of_le h
    refine ⟨m % (n * 2 ^ j), p, (Nat.mod_le _ _).trans_lt hm, hp, ?_⟩
    rw [Nat.add_comm, pow_add, ← Nat.mul_assoc, Nat.mul_mod_mul_right]

/-- A negative remainder is moved up by the modulus. -/
theorem emod_of_tmod_neg {a b : Int} (h : a.tmod b < 0) : a % b = a.tmod b + b.natAbs := by
  rw [Int.emod_eq_tmod, if_neg]
  rintro (hpos | hdvd)
  · exact absurd (Int.tmod_nonneg b hpos) (not_le.mpr h)
  · exact absurd (Int.tmod_eq_zero_of_dvd hdvd) h.ne

theorem emod_of_tmod_nonneg {a b : Int} (hb : b ≠ 0) (h : 0 ≤ a.tmod b) : a % b = a.tmod b := by
  have hemod := Int.emod_eq_tmod (a := a) (b := b)
  have hlt := Int.emod_lt_abs a hb
  rw [Int.abs_eq_natAbs] at hlt
  split at hemod <;> omega

/-- The modulus is a double, so that a remainder does not round past it. -/
theorem nearest_emod_bounds (a : Binary64) {b : Binary64} (hb0 : b.ticks ≠ 0) :
    0 ≤ (nearest (a.ticks % b.ticks) 1).ticks ∧
      (nearest (a.ticks % b.ticks) 1).ticks ≤ b.ticks.natAbs := by
  have hnonneg := Int.emod_nonneg a.ticks hb0
  have hlt := Int.emod_lt_abs a.ticks hb0
  rw [Int.abs_eq_natAbs] at hlt
  constructor
  · rw [← ticks_zero]
    exact le_ticks_nearest_of_le one_pos (by rw [ticks_zero]; omega)
  · rw [← ticks_abs]
    exact ticks_nearest_le_of_le one_pos (by rw [ticks_abs]; omega)

section Remainder

variable {a b : Binary64} (ha : a.isFinite) (hb : b.isFinite) (hb0 : b.ticks ≠ 0)
include ha hb hb0

/-- Rounding does not change the remainder. -/
theorem rem_spec : (rem a b).isFinite ∧ (rem a b).isNegative = a.isNegative ∧
    (rem a b).magnitude = a.magnitude % b.magnitude := by
  have hb0 : b.magnitude ≠ 0 := by rwa [← natAbs_ticks, ne_eq, Int.natAbs_eq_zero]
  obtain ⟨s, m, p, hc, rfl⟩ := exists_finite ha
  obtain ⟨t, n, q, hd, rfl⟩ := exists_finite hb
  have hrem : rem (finite s m p hc) (finite t n q hd) =
      round s ((finite s m p hc).magnitude % (finite t n q hd).magnitude) 1 := if_neg hb0
  rw [magnitude_finite] at hb0
  obtain ⟨k, r, hk, hr, hmod⟩ := exists_mod_eq hc.1 hd.1
    (Nat.pos_of_ne_zero (left_ne_zero_of_mul hb0)) hc.2.1 hd.2.1
  rw [hrem, magnitude_finite, magnitude_finite, hmod]
  exact ⟨isFinite_round_exact s hk hr, isNegative_round _ _ _, magnitude_round_exact s hk hr⟩

/-- The remainder goes with a quotient that is cut off towards zero. -/
theorem ticks_rem : (rem a b).ticks = a.ticks.tmod b.ticks := by
  obtain ⟨-, hsign, hmag⟩ := rem_spec ha hb hb0
  rw [ticks_eq_sign_mul (rem a b), hsign, hmag, ticks_eq_sign_mul a, ticks_eq_sign_mul b,
    Int.ofNat_tmod]
  cases a.isNegative <;> cases b.isNegative <;> simp [sign]

/-- The remainder that is not negative is the exact one, rounded. -/
theorem remEuclid_spec : (remEuclid a b).isFinite ∧
    (remEuclid a b).ticks = (nearest (a.ticks % b.ticks) 1).ticks := by
  obtain ⟨hfin, -⟩ := rem_spec ha hb hb0
  have hrem := ticks_rem ha hb hb0
  have hneg : (rem a b).lt 0 = true ↔ a.ticks.tmod b.ticks < 0 := by
    rw [lt_iff, hrem, ticks_zero]
    exact ⟨fun h ↦ h.2.2, fun h ↦ ⟨ne_nan_of_isFinite hfin, zero_ne_nan, h⟩⟩
  unfold remEuclid
  dsimp only
  by_cases h : a.ticks.tmod b.ticks < 0
  · have hfinb : b.abs.isFinite := by rwa [isFinite_abs]
    have hsum : (rem a b + b.abs).ticks = (nearest (a.ticks % b.ticks) 1).ticks := by
      rw [ticks_add hfin hfinb, hrem, ticks_abs, emod_of_tmod_neg h]
    obtain ⟨hlow, hhigh⟩ := nearest_emod_bounds a hb0
    have hbound := (isFinite_iff (ne_nan_of_isFinite hb)).mp hb
    rw [if_pos (hneg.mpr h), isFinite_iff (add_ne_nan (ne_nan_of_isFinite hfin) hfinb)]
    exact ⟨by omega, hsum⟩
  · -- Nothing is added, and the remainder is a double already.
    rw [if_neg (mt hneg.mp h), emod_of_tmod_nonneg hb0 (not_lt.mp h), ← hrem, ticks_nearest_ticks]
    exact ⟨hfin, rfl⟩

end Remainder

end Toolpath.Binary64
