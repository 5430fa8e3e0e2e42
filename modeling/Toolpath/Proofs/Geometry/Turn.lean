import Mathlib.Algebra.Order.ToIntervalMod
import Toolpath.Proofs.Geometry.Circle
import Toolpath.Proofs.Number.Exact

/-!
# One turn

An angle differs from its residue by whole turns of the double that stands for a turn. The residue need
not be a double. Where it rounds to less than a turn the nearest double is the angle within one turn, and
where it rounds up to the turn that angle is zero. So the test of a sweep is only given angles of the turn
that begins at zero, whatever vectors they belong to.
-/

namespace Toolpath.Arc

open Binary64

theorem value_tau_pos : 0 < tau.value := by
  have hunit : (0 : ℚ) < unit := by exact_mod_cast unit_pos
  exact div_pos (by exact_mod_cast ticks_tau_pos) hunit

/-- The number from zero up to a turn that an angle differs from by whole turns. -/
noncomputable def residue (angle : Binary64) : ℚ := toIcoMod value_tau_pos 0 angle.value

/-- In ticks the residue is a remainder of integers. -/
theorem residue_eq (angle : Binary64) :
    residue angle = (angle.ticks % tau.ticks : Int) / (1 * unit : Nat) := by
  have hunit : (0 : ℚ) < unit := by exact_mod_cast unit_pos
  rw [one_mul]
  refine (toIcoMod_eq_iff _).mpr ⟨⟨?_, ?_⟩, angle.ticks / tau.ticks, ?_⟩
  · have hnonneg := Int.emod_nonneg angle.ticks ticks_tau_pos.ne'
    exact div_nonneg (by exact_mod_cast hnonneg) hunit.le
  · have hlt := Int.emod_lt_of_pos angle.ticks ticks_tau_pos
    rw [zero_add, value]
    exact div_lt_div_of_pos_right (by exact_mod_cast hlt) hunit
  · have hdivision : (angle.ticks : ℚ) =
        (angle.ticks % tau.ticks : Int) + (angle.ticks / tau.ticks : Int) * tau.ticks := by
      exact_mod_cast (Int.emod_add_ediv_mul angle.ticks tau.ticks).symm
    rw [value, value, zsmul_eq_mul, hdivision]
    ring

/-- The angle within one turn is the double nearest to the residue, unless that is the full turn. -/
theorem normalize_isNearest_or {angle : Binary64} (h : angle.isFinite) :
    (normalize angle).IsNearest (residue angle) ∨
      tau.IsNearest (residue angle) ∧ normalize angle = 0 := by
  obtain ⟨hfin, hticks⟩ := remEuclid_spec h isFinite_tau ticks_tau_pos.ne'
  have hnearest : (angle.remEuclid tau).IsNearest (residue angle) := by
    rw [residue_eq]
    refine (isNearest_nearest one_pos ?_).congr hfin hticks
    rw [isFinite_iff (nearest_ne_nan _ _), ← hticks]
    exact (isFinite_iff (ne_nan_of_isFinite hfin)).mp hfin
  rcases normalize_cases h with ⟨hturn, hzero⟩ | ⟨-, hkept⟩
  · exact Or.inr ⟨hnearest.congr isFinite_tau hturn.symm, hzero⟩
  · rw [hkept]
    exact Or.inl hnearest

/-- An angle within one turn is at least zero and less than a turn, and it is the residue of the angle,
rounded once, where what rounds up to a turn is zero. Hence the test of the sweep of an arc is given
angles within one turn, also where the way from the center to a point overflows. -/
theorem normalize_isNearest_residue :
    (∀ angle : Binary64, angle.isFinite →
      WithinTurn (normalize angle) ∧
        ((normalize angle).IsNearest (residue angle) ∨
          tau.IsNearest (residue angle) ∧ normalize angle = 0)) ∧
    ∀ start finish center : Point, start.Finite → finish.Finite → center.Finite →
      WithinTurn (angleAround center start) ∧ WithinTurn (angleAround center finish) ∧
        ∀ c ∈ cardinals center (start.distance center), WithinTurn c.2 := by
  refine ⟨fun angle h ↦ ⟨withinTurn_normalize h, normalize_isNearest_or h⟩, ?_⟩
  intro start finish center hs hf hc
  refine ⟨withinTurn_angleAround hc hs, withinTurn_angleAround hc hf, ?_⟩
  rw [cardinals_eq]
  intro c hmem
  obtain ⟨k, -, rfl⟩ := List.mem_map.mp hmem
  exact withinTurn_bearing k

/-- The least negative double is seen at zero, since its residue rounds up to the turn. At the edge of
the plane the way to a point overflows, and the point is seen half a turn away. -/
theorem normalize_isNearest_residue_seam :
    let edge : Binary64 := .finite false 9007199254740991 2045 (by decide)
    let center : Point := ⟨edge, 0⟩
    let start : Point := ⟨edge, 1⟩
    let finish : Point := ⟨-edge, 5⟩
    (tick.neg.isFinite ∧ WithinTurn (normalize tick.neg) ∧ tau.IsNearest (residue tick.neg) ∧
      normalize tick.neg = 0) ∧
    start.Finite ∧ finish.Finite ∧ center.Finite ∧ start.distance center = 1 ∧
      WithinTurn (angleAround center start) ∧ angleAround center start = halfPi ∧
      WithinTurn (angleAround center finish) ∧ angleAround center finish = pi ∧
      ∀ c ∈ cardinals center (start.distance center), WithinTurn c.2 := by
  intro edge center start finish
  have htick : tick.neg.isFinite := by decide
  have hs : start.Finite := by decide +kernel
  have hf : finish.Finite := by decide +kernel
  have hc : center.Finite := by decide +kernel
  obtain ⟨hwithin, hnearest⟩ := normalize_isNearest_residue.1 tick.neg htick
  obtain ⟨ha, hb, hcardinals⟩ := normalize_isNearest_residue.2 start finish center hs hf hc
  have hfar : ¬(normalize tick.neg).IsNearest (residue tick.neg) := by
    intro h
    have hle := h.nearest tau isFinite_tau
    rw [residue_eq] at hle
    exact absurd hle (by decide +kernel)
  obtain ⟨hturn, hzero⟩ := hnearest.resolve_left hfar
  exact ⟨⟨htick, hwithin, hturn, hzero⟩, hs, hf, hc, by decide +kernel, ha, by decide +kernel, hb,
    by decide +kernel, hcardinals⟩

end Toolpath.Arc
