import Toolpath.Proofs.Geometry.Sector

/-!
# Crossings

The extremes of an arc are selected among the cardinal points by the test of the sweep. They contain
every cardinal point whose ray the arc meets on the way between its two sectors.
-/

namespace Toolpath

open Binary64

namespace Arc

/-! ## Cardinal points -/

/-- The point where a circle meets a ray. -/
def cardinal (center : Point) (radius : Binary64) : Fin 4 → Point
  | 0 => ⟨center.x + radius, center.y⟩
  | 1 => ⟨center.x, center.y + radius⟩
  | 2 => ⟨center.x - radius, center.y⟩
  | 3 => ⟨center.x, center.y - radius⟩

def bearing : Fin 4 → Binary64
  | 0 => 0
  | 1 => .halfPi
  | 2 => .pi
  | 3 => 3 * .halfPi

theorem cardinals_eq (center : Point) (radius : Binary64) :
    cardinals center radius =
      (List.finRange 4).map fun k ↦ (cardinal center radius k, bearing k) := rfl

theorem isFinite_bearing (k : Fin 4) : (bearing k).isFinite := by
  revert k
  decide +kernel

theorem ticks_bearing (k : Fin 4) : (bearing k).ticks = k * quarter := by
  revert k
  decide +kernel

/-! ## Extremes -/

theorem extremes_eq {start center : Point} (finish : Point) (clockwise : Bool)
    (hpos : 0 < (start.distance center).ticks) (hr : (start.distance center).isFinite) :
    extremes start finish center clockwise =
      ((List.finRange 4).filter fun k ↦ sweepContains (angleAround center start)
        (angleAround center finish) (bearing k) clockwise).map
          (cardinal center (start.distance center)) := by
  have hle : ¬(start.distance center).le 0 = true := by
    rw [le_iff, ticks_zero]
    omega
  unfold extremes
  dsimp only
  rw [if_neg (by simp [hle, hr]), cardinals_eq, List.filter_map, List.map_map]
  rfl

/-- A point with a sector is apart from the center. -/
theorem distance_pos {start center : Point} {i : Sector} (hr : (start.distance center).isFinite)
    (hi : Sector.of? center start = some i) : 0 < (start.distance center).ticks := by
  obtain ⟨hdx, hdy⟩ := isFinite_of_hypot hr
  obtain ⟨hsx, hcx⟩ := isFinite_of_sub hdx
  obtain ⟨hsy, hcy⟩ := isFinite_of_sub hdy
  refine ticks_hypot_pos hdx hdy ?_
  by_contra h
  push Not at h
  unfold Sector.of? at hi
  rw [← compare_sub hsx hcx, ← compare_sub hsy hcy, h.1, h.2] at hi
  cases hi

/-- In both directions the test selects the rays on the way between two sectors, and between two rays
it selects no others. -/
theorem sweepContains_bearing {start finish center : Point} {i j : Sector} (clockwise : Bool)
    (hs : start.Finite) (hf : finish.Finite) (hc : center.Finite)
    (hi : Sector.of? center start = some i) (hj : Sector.of? center finish = some j) (hij : i ≠ j)
    (k : Fin 4) :
    (.ray k ∈ Sector.walk clockwise i j → sweepContains (angleAround center start)
      (angleAround center finish) (bearing k) clockwise = true) ∧
    (∀ p r, i = .ray p → j = .ray r → sweepContains (angleAround center start)
      (angleAround center finish) (bearing k) clockwise = true →
        .ray k ∈ Sector.walk clockwise i j) := by
  obtain ⟨ha, hai⟩ := Sector.hasAngle_angleAround hc hs hi
  obtain ⟨hb, hbj⟩ := Sector.hasAngle_angleAround hc hf hj
  have ht := isFinite_bearing k
  have hk := ticks_bearing k
  cases clockwise with
  | false =>
      refine ⟨Sector.sweepContains_of_mem_walk hij ha hb ht hai hbj hk, ?_⟩
      rintro p r rfl rfl
      exact Sector.mem_walk_of_sweepContains (by simpa using hij) ha hb ht hai.ticks_ray
        hbj.ticks_ray hk
  | true =>
      rw [Sector.ray_mem_walk_true, sweepContains_true]
      refine ⟨Sector.sweepContains_of_mem_walk hij.symm hb ha ht hbj hai hk, ?_⟩
      rintro p r rfl rfl
      exact Sector.mem_walk_of_sweepContains (by simpa using hij.symm) hb ha ht hbj.ticks_ray
        hai.ticks_ray hk

/-- An arc between two sectors loses no crossing: the cardinal point of each ray on the way is one of
its extremes. Between two rays there are no other extremes. -/
theorem extremes_of_walk {start finish center : Point} {i j : Sector} (clockwise : Bool)
    (hf : finish.Finite) (hr : (start.distance center).isFinite)
    (hi : Sector.of? center start = some i) (hj : Sector.of? center finish = some j)
    (hij : i ≠ j) :
    (∀ k, .ray k ∈ Sector.walk clockwise i j →
      cardinal center (start.distance center) k ∈ extremes start finish center clockwise) ∧
    (∀ p r, i = .ray p → j = .ray r → extremes start finish center clockwise =
      ((List.finRange 4).filter (.ray · ∈ Sector.walk clockwise i j)).map
        (cardinal center (start.distance center))) := by
  obtain ⟨hdx, hdy⟩ := isFinite_of_hypot hr
  obtain ⟨hsx, hcx⟩ := isFinite_of_sub hdx
  obtain ⟨hsy, hcy⟩ := isFinite_of_sub hdy
  have hs : start.Finite := ⟨hsx, hsy⟩
  have hc : center.Finite := ⟨hcx, hcy⟩
  have htest := sweepContains_bearing clockwise hs hf hc hi hj hij
  rw [extremes_eq finish clockwise (distance_pos hr hi) hr]
  constructor
  · intro k hk
    refine List.mem_map_of_mem (List.mem_filter.mpr ⟨List.mem_finRange k, ?_⟩)
    exact (htest k).1 hk
  · intro p r hp hr
    congr 1
    refine List.filter_congr fun k _ ↦ ?_
    rw [Bool.eq_iff_iff, decide_eq_true_iff]
    exact ⟨(htest k).2 p r hp hr, (htest k).1⟩

theorem extremes_of_walk_east_south :
    let start : Point := ⟨5, 0⟩
    let finish : Point := ⟨0, -5⟩
    finish.Finite ∧ (start.distance .origin).isFinite ∧
      Sector.of? .origin start = some (.ray 0) ∧ Sector.of? .origin finish = some (.ray 3) ∧
      extremes start finish .origin true = [start, finish] := by
  intro start finish
  have hf : finish.Finite := by decide +kernel
  have hr : (start.distance .origin).isFinite := by decide +kernel
  have hi : Sector.of? .origin start = some (.ray 0) := by decide +kernel
  have hj : Sector.of? .origin finish = some (.ray 3) := by decide +kernel
  have hall := (extremes_of_walk true hf hr hi hj (by decide)).2 0 3 rfl rfl
  refine ⟨hf, hr, hi, hj, ?_⟩
  rw [hall]
  decide +kernel

end Arc

end Toolpath
