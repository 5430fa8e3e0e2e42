import Toolpath.Proofs.Number.Angle
import Toolpath.Proofs.Number.Remainder
import Toolpath.Geometry.Arc

/-!
# Sweeps in ticks

The angle of a point within one turn and the test of a sweep, told by ticks. A clockwise sweep is the
counter-clockwise one with its ends exchanged.
-/

namespace Toolpath.Arc

open Binary64

/-! ## Angles within one turn -/

/-- What is left of whole turns is the angle within one turn. What rounds up to a full turn is none. -/
theorem normalize_cases {t : Binary64} (ht : t.isFinite) :
    ((t.remEuclid tau).ticks = tau.ticks ∧ normalize t = 0) ∨
      ((t.remEuclid tau).ticks < tau.ticks ∧ normalize t = t.remEuclid tau) := by
  have hpos := ticks_tau_pos
  obtain ⟨hfin, hticks⟩ := remEuclid_spec ht isFinite_tau hpos.ne'
  have hbound := (nearest_emod_bounds t hpos.ne').2
  have hle : tau.le (t.remEuclid tau) = true ↔ tau.ticks ≤ (t.remEuclid tau).ticks := by
    rw [le_iff]
    exact ⟨fun h ↦ h.2.2, fun h ↦ ⟨ne_nan_of_isFinite isFinite_tau, ne_nan_of_isFinite hfin, h⟩⟩
  unfold normalize
  dsimp only
  by_cases h : tau.ticks ≤ (t.remEuclid tau).ticks
  · exact Or.inl ⟨by omega, if_pos (hle.mpr h)⟩
  · exact Or.inr ⟨by omega, if_neg (mt hle.mp h)⟩

theorem isFinite_normalize {t : Binary64} (ht : t.isFinite) : (normalize t).isFinite := by
  rcases normalize_cases ht with ⟨-, h⟩ | ⟨-, h⟩
  · rw [h]
    exact isFinite_zero
  · rw [h]
    exact (remEuclid_spec ht isFinite_tau ticks_tau_pos.ne').1

theorem normalize_bounds {t : Binary64} (ht : t.isFinite) :
    0 ≤ (normalize t).ticks ∧ (normalize t).ticks < tau.ticks := by
  rcases normalize_cases ht with ⟨-, h⟩ | ⟨hlt, h⟩
  · rw [h]
    exact ⟨le_rfl, ticks_tau_pos⟩
  · rw [h]
    refine ⟨?_, hlt⟩
    rw [(remEuclid_spec ht isFinite_tau ticks_tau_pos.ne').2]
    exact (nearest_emod_bounds t ticks_tau_pos.ne').1

/-- An angle of at most half a turn is moved up by a turn where it is negative. -/
theorem normalize_spec {t : Binary64} (ht : t ≠ .nan) (hl : -(2 * quarter) ≤ t.ticks)
    (hh : t.ticks ≤ 2 * quarter) :
    (normalize t).isFinite = true ∧ (normalize t).ticks =
      if t.ticks < 0 then
        if 4 * quarter ≤ (nearest (t.ticks + 4 * quarter) 1).ticks then 0
        else (nearest (t.ticks + 4 * quarter) 1).ticks
      else t.ticks := by
  have hq := quarter_pos
  have hfin := isFinite_of_half_turn ht hl hh
  have hticks := (remEuclid_spec hfin isFinite_tau ticks_tau_pos.ne').2
  have hcases := normalize_cases hfin
  rw [ticks_tau] at hticks hcases
  refine ⟨isFinite_normalize hfin, ?_⟩
  by_cases h0 : t.ticks < 0
  · rw [← Int.add_emod_right, Int.emod_eq_of_lt (by omega) (by omega)] at hticks
    rw [if_pos h0]
    rcases hcases with ⟨hturn, h⟩ | ⟨hlt, h⟩
    · rw [h, if_pos (by omega), ticks_zero]
    · rw [h, if_neg (by omega), hticks]
  · rw [Int.emod_eq_of_lt (by omega) (by omega), ticks_nearest_ticks] at hticks
    rw [if_neg h0]
    rcases hcases with ⟨hturn, -⟩ | ⟨-, h⟩
    · omega
    · rw [h, hticks]

theorem abs_ticks_atan2_le {y x : Binary64} (hy : y ≠ .nan) (hx : x ≠ .nan) :
    -(2 * quarter) ≤ (atan2 y x).ticks ∧ (atan2 y x).ticks ≤ 2 * quarter := by
  obtain ⟨-, hl, hh, -⟩ := elevation_spec y x
  rcases ticks_atan2 hy hx with ⟨h, -⟩ | ⟨h, -⟩ <;> omega

theorem isFinite_atan2 {y x : Binary64} (hy : y ≠ .nan) (hx : x ≠ .nan) : (atan2 y x).isFinite := by
  obtain ⟨hl, hh⟩ := abs_ticks_atan2_le hy hx
  exact isFinite_of_half_turn (atan2_ne_nan hy hx) hl hh

/-- The angle of a vector lies within one turn. -/
theorem normalize_atan2_spec {y x : Binary64} (hy : y ≠ .nan) (hx : x ≠ .nan) :
    (normalize (atan2 y x)).isFinite ∧ 0 ≤ (normalize (atan2 y x)).ticks ∧
      (normalize (atan2 y x)).ticks < 4 * quarter :=
  ⟨isFinite_normalize (isFinite_atan2 hy hx), ticks_tau ▸ normalize_bounds (isFinite_atan2 hy hx)⟩

/-- A vector above the axis, or along it, is seen at its elevation. -/
theorem normalize_atan2_of_nonneg {y x : Binary64} (hy : y ≠ .nan) (hx : x ≠ .nan)
    (h : 0 < y.ticks ∨ y.ticks = 0 ∧ x.ticks ≠ 0) :
    (normalize (atan2 y x)).ticks = (elevation y x).ticks := by
  have hq := quarter_pos
  have hflat (h : y.ticks = 0) := ticks_elevation_of_fst_eq_zero (x := x) hy h
  have hhalf := ticks_nearest_quarters (k := 2) (by norm_num)
  push_cast at hhalf
  obtain ⟨hl, hh⟩ := abs_ticks_atan2_le hy hx
  obtain ⟨-, he, -⟩ := elevation_spec y x
  rw [(normalize_spec (atan2_ne_nan hy hx) hl hh).2]
  rcases ticks_atan2 hy hx with ⟨ht, -⟩ | ⟨ht, hy0⟩
  · rw [ht, if_neg (by omega)]
  · -- The sign of a zero turns the angle over, which matters for half a turn only.
    obtain ⟨hright, hleft⟩ := hflat (by omega)
    rcases lt_or_gt_of_ne (show x.ticks ≠ 0 by omega) with hx0 | hx0
    · rw [ht, hleft hx0, show -(2 * quarter) + 4 * quarter = 2 * quarter by ring, hhalf,
        if_pos (by omega), if_neg (by omega)]
    · rw [ht, hright hx0, neg_zero, if_neg (by omega)]

/-- A vector below the axis is seen as far before a full turn as it is elevated. Rounding keeps it
in its quadrant, up to the seam. -/
theorem normalize_atan2_of_neg {y x : Binary64} (hy : y ≠ .nan) (hx : x ≠ .nan)
    (h : y.ticks < 0) :
    ((elevation y x).ticks ≤ quarter →
      3 * quarter ≤ (normalize (atan2 y x)).ticks ∨ (normalize (atan2 y x)).ticks = 0) ∧
    (quarter ≤ (elevation y x).ticks → 2 * quarter ≤ (normalize (atan2 y x)).ticks ∧
      (normalize (atan2 y x)).ticks ≤ 3 * quarter) := by
  have hq := quarter_pos
  obtain ⟨hl, hh⟩ := abs_ticks_atan2_le hy hx
  obtain ⟨-, he, he2, -⟩ := elevation_spec y x
  have ht : (atan2 y x).ticks = -(elevation y x).ticks := by
    rcases ticks_atan2 hy hx with ⟨-, hy0⟩ | ⟨ht, -⟩
    · omega
    · exact ht
  rw [(normalize_spec (atan2_ne_nan hy hx) hl hh).2, ht]
  generalize (elevation y x).ticks = e at he he2
  have hge (k : Nat) (hk : k < 8) := quarters_le_ticks_nearest hk (a := -e + 4 * quarter)
  have hle (k : Nat) (hk : k < 8) := ticks_nearest_le_quarters hk (a := -e + 4 * quarter)
  have h2 := hge 2 (by norm_num)
  have h3 := hge 3 (by norm_num)
  have h3' := hle 3 (by norm_num)
  push_cast at h2 h3 h3'
  generalize (nearest (-e + 4 * quarter) 1).ticks = n at h2 h3 h3' ⊢
  clear hge hle
  constructor
  · intro heq
    split
    · split
      · exact Or.inr rfl
      · exact Or.inl (by omega)
    · exact Or.inr (by omega)
  · intro heq
    rw [if_pos (by omega), if_neg (by omega)]
    omega

/-! ## The test of a sweep -/

theorem sweepContains_true (start finish theta : Binary64) :
    sweepContains start finish theta true = sweepContains finish start theta false := rfl

/-- Where a counter-clockwise sweep ends, in ticks beyond the turn that it starts in. -/
def sweepEnd (a b : Int) : Int := if b ≤ a then (nearest (b + 4 * quarter) 1).ticks else b

theorem sweepContains_false_iff {a b theta : Binary64} (ha : a.isFinite) (hb : b.isFinite)
    (ht : theta.isFinite) :
    sweepContains a b theta false = true ↔
      (a.ticks ≤ theta.ticks ∧ theta.ticks ≤ sweepEnd a.ticks b.ticks) ∨
        (a.ticks ≤ (nearest (theta.ticks + 4 * quarter) 1).ticks ∧
          (nearest (theta.ticks + 4 * quarter) 1).ticks ≤ sweepEnd a.ticks b.ticks) := by
  have ha' := ne_nan_of_isFinite ha
  have hb' := ne_nan_of_isFinite hb
  have ht' := ne_nan_of_isFinite ht
  have hle : b.le a = true ↔ b.ticks ≤ a.ticks := by simp [le_iff, ha', hb']
  have hend : (if b.le a then b + tau else b).ticks = sweepEnd a.ticks b.ticks := by
    unfold sweepEnd
    by_cases h : b.ticks ≤ a.ticks
    · rw [if_pos (hle.mpr h), if_pos h, ticks_add hb isFinite_tau, ticks_tau]
    · rw [if_neg (mt hle.mp h), if_neg h]
  have hendn : (if b.le a then b + tau else b) ≠ .nan := by
    split
    · exact add_ne_nan hb' isFinite_tau
    · exact hb'
  have htn : theta + tau ≠ .nan := add_ne_nan ht' isFinite_tau
  unfold sweepContains
  simp only [Bool.false_eq_true, ↓reduceIte]
  generalize (if b.le a = true then b + tau else b) = high at hend hendn ⊢
  simp only [Bool.or_eq_true, Bool.and_eq_true, le_iff, ticks_add ht isFinite_tau, ticks_tau, hend,
    ne_eq, ha', ht', htn, hendn, not_false_eq_true, true_and]

end Toolpath.Arc
