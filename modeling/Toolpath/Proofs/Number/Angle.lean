import Toolpath.Proofs.Number.Arithmetic
import Toolpath.Number.Angle

/-!
# Angles of vectors

On the axes the angle of a vector is a whole number of quarter turns, and elsewhere it stays between
the two that border its quadrant. Whole numbers of quarter turns up to seven are doubles, so a sum
with a turn does not round past them.
-/

namespace Toolpath.Binary64

/-- The ticks of a quarter turn. -/
def quarter : Int := halfPi.ticks

theorem quarter_pos : 0 < quarter := by
  decide +kernel

@[simp] theorem ticks_halfPi : halfPi.ticks = quarter := rfl

@[simp] theorem ticks_pi : pi.ticks = 2 * quarter := by
  decide +kernel

@[simp] theorem ticks_tau : tau.ticks = 4 * quarter := by
  decide +kernel

theorem halfPi_ne_nan : halfPi ≠ .nan := by
  decide

theorem pi_ne_nan : pi ≠ .nan := by
  decide

theorem isFinite_tau : tau.isFinite = true := rfl

theorem ticks_tau_pos : 0 < tau.ticks := by
  have := quarter_pos
  rw [ticks_tau]
  omega

/-- What lies within half a turn on either side of zero is no infinity. -/
theorem isFinite_of_half_turn {t : Binary64} (ht : t ≠ .nan) (hl : -(2 * quarter) ≤ t.ticks)
    (hh : t.ticks ≤ 2 * quarter) : t.isFinite := by
  have hbound := (isFinite_iff (ne_nan_of_isFinite isFinite_tau)).mp isFinite_tau
  rw [ticks_tau] at hbound
  exact (isFinite_iff ht).mpr (by omega)

/-- Up to seven quarter turns there is a double for each number of them. -/
theorem ticks_nearest_quarters {k : Nat} (hk : k < 8) :
    (nearest (k * quarter) 1).ticks = k * quarter := by
  have h : ∀ k : Fin 8, (nearest (k.val * quarter) 1).ticks = k.val * quarter := by
    decide +kernel
  exact h ⟨k, hk⟩

theorem quarters_le_ticks_nearest {k : Nat} (hk : k < 8) {a : Int} (h : k * quarter ≤ a) :
    k * quarter ≤ (nearest a 1).ticks := by
  rw [← ticks_nearest_quarters hk]
  exact nearest_mono one_pos one_pos (by omega)

theorem ticks_nearest_le_quarters {k : Nat} (hk : k < 8) {a : Int} (h : a ≤ k * quarter) :
    (nearest a 1).ticks ≤ k * quarter := by
  rw [← ticks_nearest_quarters hk]
  exact nearest_mono one_pos one_pos (by omega)

/-! ## The angle above the axis -/

/-- A value that is held between two bounds lies between them, even an absent one. -/
theorem clamp_spec {low high : Binary64} (hl : low ≠ .nan) (hh : high ≠ .nan)
    (h : low.ticks ≤ high.ticks) (v : Binary64) :
    low.max (high.min v) ≠ .nan ∧ low.ticks ≤ (low.max (high.min v)).ticks ∧
      (low.max (high.min v)).ticks ≤ high.ticks := by
  have hmin : high.min v ≠ .nan ∧ (high.min v).ticks ≤ high.ticks := by
    by_cases hv : v = .nan
    · have he : high.min v = high := by
        simp [Binary64.min, isNaN_eq_false.mpr hh, hv]
      rw [he]
      exact ⟨hh, le_rfl⟩
    · rw [ticks_min hh hv]
      exact ⟨min_ne_nan hh hv, min_le_left _ _⟩
  refine ⟨max_ne_nan hl hmin.1, ?_⟩
  rw [ticks_max hl hmin.1]
  exact ⟨le_max_left _ _, max_le h hmin.2⟩

theorem quadrantAngle_false_spec (y x : Nat) :
    quadrantAngle false y x ≠ .nan ∧ 0 ≤ (quadrantAngle false y x).ticks ∧
      (quadrantAngle false y x).ticks ≤ quarter := by
  have h := clamp_spec zero_ne_nan halfPi_ne_nan quarter_pos.le
  rw [ticks_zero, ticks_halfPi] at h
  unfold quadrantAngle
  rw [if_neg Bool.false_ne_true]
  exact h _

theorem quadrantAngle_true_spec (y x : Nat) :
    quadrantAngle true y x ≠ .nan ∧ quarter ≤ (quadrantAngle true y x).ticks ∧
      (quadrantAngle true y x).ticks ≤ 2 * quarter := by
  have hq := quarter_pos
  have h := clamp_spec halfPi_ne_nan pi_ne_nan (by rw [ticks_halfPi, ticks_pi]; omega)
  rw [ticks_halfPi, ticks_pi] at h
  unfold quadrantAngle
  rw [if_pos rfl]
  exact h _

theorem angleOf_false_spec (y x : Nat) :
    angleOf false y x ≠ .nan ∧ 0 ≤ (angleOf false y x).ticks ∧
      (angleOf false y x).ticks ≤ quarter := by
  have hq := quarter_pos
  unfold angleOf
  split
  · exact ⟨zero_ne_nan, le_rfl, hq.le⟩
  · split
    · exact ⟨halfPi_ne_nan, hq.le, le_rfl⟩
    · exact quadrantAngle_false_spec y x

theorem angleOf_true_spec (y x : Nat) :
    angleOf true y x ≠ .nan ∧ quarter ≤ (angleOf true y x).ticks ∧
      (angleOf true y x).ticks ≤ 2 * quarter := by
  have hq := quarter_pos
  unfold angleOf
  split
  · rw [if_pos rfl, ticks_pi]
    exact ⟨pi_ne_nan, by omega, le_rfl⟩
  · split
    · rw [ticks_halfPi]
      exact ⟨halfPi_ne_nan, le_rfl, by omega⟩
    · exact quadrantAngle_true_spec y x

/-! ## The angle of a vector -/

theorem magnitude_eq_zero_iff {x : Binary64} : x.magnitude = 0 ↔ x.ticks = 0 := by
  rw [← natAbs_ticks, Int.natAbs_eq_zero]

theorem isFinite_of_ticks_eq_zero {x : Binary64} (hx : x ≠ .nan) (h : x.ticks = 0) :
    x.isFinite := by
  rw [isFinite_iff hx, h]
  exact horizon_pos

theorem direction_fst_eq_zero {y x : Binary64} (hy : y ≠ .nan) (h : y.ticks = 0) :
    (direction y x).1 = 0 := by
  have hmag := magnitude_eq_zero_iff.mpr h
  obtain ⟨s, m, p, hc, rfl⟩ := exists_finite (isFinite_of_ticks_eq_zero hy h)
  cases x <;> first | rfl | exact hmag

theorem direction_of_snd_eq_zero {y x : Binary64} (hx : x ≠ .nan) (hy : y.ticks ≠ 0)
    (h : x.ticks = 0) : (direction y x).1 ≠ 0 ∧ (direction y x).2 = 0 := by
  have hmag := magnitude_eq_zero_iff.mpr h
  have hpos : y.magnitude ≠ 0 := fun h0 ↦ hy (magnitude_eq_zero_iff.mp h0)
  obtain ⟨s, m, p, hc, rfl⟩ := exists_finite (isFinite_of_ticks_eq_zero hx h)
  cases y with
  | nan => exact absurd rfl hpos
  | infinity t => exact ⟨one_ne_zero, rfl⟩
  | finite t n q hd => exact ⟨hpos, hmag⟩

/-- The angle above the axis that the two parts of a vector give. -/
def elevation (y x : Binary64) : Binary64 :=
  angleOf x.isNegative (direction y x).1 (direction y x).2

theorem elevation_spec (y x : Binary64) :
    elevation y x ≠ .nan ∧ 0 ≤ (elevation y x).ticks ∧ (elevation y x).ticks ≤ 2 * quarter ∧
      (0 < x.ticks → (elevation y x).ticks ≤ quarter) ∧
      (x.ticks < 0 → quarter ≤ (elevation y x).ticks) := by
  have hq := quarter_pos
  unfold elevation
  cases hs : x.isNegative with
  | false =>
      obtain ⟨hn, hl, hh⟩ := angleOf_false_spec (direction y x).1 (direction y x).2
      refine ⟨hn, hl, by omega, fun _ ↦ hh, fun h ↦ ?_⟩
      rw [isNegative_of_ticks_neg h] at hs
      cases hs
  | true =>
      obtain ⟨hn, hl, hh⟩ := angleOf_true_spec (direction y x).1 (direction y x).2
      refine ⟨hn, by omega, hh, fun h ↦ ?_, fun _ ↦ hl⟩
      rw [not_isNegative_of_ticks_pos h] at hs
      cases hs

theorem ticks_elevation_of_snd_eq_zero {y x : Binary64} (hx : x ≠ .nan) (hy : y.ticks ≠ 0)
    (h : x.ticks = 0) : (elevation y x).ticks = quarter := by
  obtain ⟨hfst, hsnd⟩ := direction_of_snd_eq_zero hx hy h
  unfold elevation angleOf
  rw [if_neg hfst, if_pos hsnd, ticks_halfPi]

theorem ticks_elevation_of_fst_eq_zero {y x : Binary64} (hy : y ≠ .nan) (h : y.ticks = 0) :
    (0 < x.ticks → (elevation y x).ticks = 0) ∧
      (x.ticks < 0 → (elevation y x).ticks = 2 * quarter) := by
  have hfst := direction_fst_eq_zero (x := x) hy h
  unfold elevation angleOf
  rw [if_pos hfst]
  constructor
  · intro hx
    rw [not_isNegative_of_ticks_pos hx, if_neg Bool.false_ne_true, ticks_zero]
  · intro hx
    rw [isNegative_of_ticks_neg hx, if_pos rfl, ticks_pi]

theorem atan2_eq {y x : Binary64} (hy : y ≠ .nan) (hx : x ≠ .nan) :
    atan2 y x = if y.isNegative then (elevation y x).neg else elevation y x := by
  unfold atan2 elevation
  simp [isNaN_eq_false.mpr hy, isNaN_eq_false.mpr hx]

theorem atan2_ne_nan {y x : Binary64} (hy : y ≠ .nan) (hx : x ≠ .nan) : atan2 y x ≠ .nan := by
  have hn := (elevation_spec y x).1
  rw [atan2_eq hy hx]
  split
  · rwa [ne_eq, neg_eq_nan]
  · exact hn

/-- The angle has the sign of the second part, and for a vector along the first axis either one. -/
theorem ticks_atan2 {y x : Binary64} (hy : y ≠ .nan) (hx : x ≠ .nan) :
    ((atan2 y x).ticks = (elevation y x).ticks ∧ 0 ≤ y.ticks) ∨
      ((atan2 y x).ticks = -(elevation y x).ticks ∧ y.ticks ≤ 0) := by
  rw [atan2_eq hy hx]
  cases hs : y.isNegative with
  | false =>
      refine Or.inl ⟨by rw [if_neg Bool.false_ne_true], ?_⟩
      rw [ticks_of_not_isNegative hs]
      exact Int.natCast_nonneg _
  | true =>
      refine Or.inr ⟨by rw [if_pos rfl, ticks_neg], ?_⟩
      rw [ticks_of_isNegative hs]
      omega

end Toolpath.Binary64
