import Toolpath.Proofs.Geometry.Extent
import Toolpath.Proofs.Geometry.Sweep

/-!
# Sectors around a center

The four rays and the four quadrants around a center are eight sectors in a ring. Rounding may carry
an angle to the edge of its sector but not across, the seam between a full turn and none being such
an edge. Therefore an arc finds every cardinal point whose ray it meets, and between two rays it
finds no other.
-/

namespace Toolpath

open Binary64

/-- A part of the plane around a center. Rays and the quadrants after them are counted in quarter
turns, counter-clockwise from the ray to the east. -/
inductive Sector where
  | ray (turns : Fin 4)
  | quadrant (turns : Fin 4)
  deriving DecidableEq, Fintype

namespace Sector

def index : Sector → Nat
  | ray k => 2 * k
  | quadrant k => 2 * k + 1

def turn (clockwise : Bool) : Sector → Sector
  | ray k => quadrant (if clockwise then k - 1 else k)
  | quadrant k => ray (if clockwise then k else k + 1)

/-- The sectors that are met on the way from one sector to another, both ends included. -/
def walk (clockwise : Bool) (i j : Sector) : List Sector :=
  (List.iterate (turn clockwise) i 8).takeWhile (· ≠ j) ++ [j]

/-- The sector of a vector, by the signs of its two parts. -/
def ofSigns? : Ordering → Ordering → Option Sector
  | .gt, .eq => some (ray 0)
  | .gt, .gt => some (quadrant 0)
  | .eq, .gt => some (ray 1)
  | .lt, .gt => some (quadrant 1)
  | .lt, .eq => some (ray 2)
  | .lt, .lt => some (quadrant 2)
  | .eq, .lt => some (ray 3)
  | .gt, .lt => some (quadrant 3)
  | .eq, .eq => none

/-- The sector of a point, by the signs of its exact distances from the center. The center itself has
none. -/
def of? (center p : Point) : Option Sector :=
  ofSigns? (compare p.x.ticks center.x.ticks) (compare p.y.ticks center.y.ticks)

/-! ## Walks -/

/-- A counter-clockwise walk meets the rays between its ends, across the seam where it starts
behind its end. -/
theorem ray_mem_walk_false {i j : Sector} (hij : i ≠ j) (k : Fin 4)
    (h : ray k ∈ walk false i j) :
    (i.index ≤ 2 * k ∧ (2 * k ≤ j.index ∨ j.index < i.index)) ∨
      (2 * k ≤ j.index ∧ j.index < i.index) := by
  revert i j k
  decide +kernel

/-- The way back meets the same rays. -/
theorem ray_mem_walk_true (i j : Sector) (k : Fin 4) :
    ray k ∈ walk true i j ↔ ray k ∈ walk false j i := by
  revert i j k
  decide +kernel

/-! ## Angles of a sector -/

/-- An angle within one turn that lies in the closed sector. The last quadrant ends at the seam, so
that an angle of its upper edge is none. -/
structure HasAngle (s : Sector) (t : Int) : Prop where
  nonneg : 0 ≤ t
  lt_turn : t < 4 * quarter
  edges : (((s.index / 2 : Nat) : Int) * quarter ≤ t ∧
    t ≤ (((s.index + 1) / 2 : Nat) : Int) * quarter) ∨ (s.index = 7 ∧ t = 0)

theorem HasAngle.ticks_ray {k : Fin 4} {t : Int} (h : (ray k).HasAngle t) : t = k * quarter := by
  have hi : (ray k).index = 2 * k := rfl
  have hedges := h.edges
  rw [hi, Nat.mul_div_cancel_left _ two_pos, show (2 * k.val + 1) / 2 = k by omega] at hedges
  omega

/-- The angle of a vector is seen between the edges of its sector. -/
theorem hasAngle_normalize {y x : Binary64} {s : Sector} (hy : y ≠ .nan) (hx : x ≠ .nan)
    (hs : ofSigns? (compare x.ticks 0) (compare y.ticks 0) = some s) :
    (Arc.normalize (atan2 y x)).isFinite ∧ s.HasAngle (Arc.normalize (atan2 y x)).ticks := by
  have hq := quarter_pos
  obtain ⟨hfin, h0, h4⟩ := Arc.normalize_atan2_spec hy hx
  obtain ⟨-, hl, hh, hright, hleft⟩ := elevation_spec y x
  have hup (h : x.ticks = 0) (h' : y.ticks ≠ 0) := ticks_elevation_of_snd_eq_zero hx h' h
  have hflat (h : y.ticks = 0) := ticks_elevation_of_fst_eq_zero (x := x) hy h
  have hnonneg := Arc.normalize_atan2_of_nonneg hy hx
  have hneg := Arc.normalize_atan2_of_neg hy hx
  refine ⟨hfin, h0, h4, ?_⟩
  generalize (elevation y x).ticks = e at hl hh hright hleft hup hflat hnonneg hneg
  generalize (Arc.normalize (atan2 y x)).ticks = t at h0 h4 hnonneg hneg ⊢
  cases hcx : compare x.ticks 0 <;> cases hcy : compare y.ticks 0 <;>
    simp only [hcx, hcy, ofSigns?, Option.some.injEq, reduceCtorEq] at hs <;> subst hs <;>
    simp only [compare_lt_iff_lt, compare_eq_iff_eq, compare_gt_iff_gt] at hcx hcy <;>
    simp [index] <;> omega

/-- The angle at which a point is seen lies in its sector, also where a distance overflows. -/
theorem hasAngle_angleAround {center p : Point} {s : Sector} (hc : center.Finite) (hp : p.Finite)
    (hs : of? center p = some s) :
    (Arc.angleAround center p).isFinite ∧ s.HasAngle (Arc.angleAround center p).ticks := by
  have hx := sub_ne_nan (ne_nan_of_isFinite hp.1) hc.1
  have hy := sub_ne_nan (ne_nan_of_isFinite hp.2) hc.2
  refine hasAngle_normalize hy hx ?_
  rw [compare_sub hp.1 hc.1, compare_sub hp.2 hc.2]
  exact hs

/-! ## Sweeps between sectors -/

theorem index_le (s : Sector) : s.index ≤ 7 := by
  cases s <;> simp only [index] <;> omega

theorem mul_quarter_le {m n : Nat} (h : m ≤ n) : (m : Int) * quarter ≤ n * quarter := by
  have hq := quarter_pos
  gcongr

theorem sweepContains_of_mem_walk {i j : Sector} (hij : i ≠ j) {a b theta : Binary64}
    (ha : a.isFinite) (hb : b.isFinite) (ht : theta.isFinite) (hai : i.HasAngle a.ticks)
    (hbj : j.HasAngle b.ticks) {k : Fin 4} (hk : theta.ticks = k * quarter)
    (h : ray k ∈ walk false i j) : Arc.sweepContains a b theta false = true := by
  have hq := quarter_pos
  have hnext : (nearest (theta.ticks + 4 * quarter) 1).ticks = k * quarter + 4 * quarter := by
    have := ticks_nearest_quarters (k := k + 4) (by omega)
    rw [hk, ← add_mul]
    exact_mod_cast this
  rw [Arc.sweepContains_false_iff ha hb ht, hnext, hk]
  obtain ⟨ha0, ha4, hae⟩ := hai
  obtain ⟨hb0, hb4, hbe⟩ := hbj
  have hfar := quarters_le_ticks_nearest (k := 4) (by norm_num) (a := b.ticks + 4 * quarter)
    (by push_cast; omega)
  have hfark := quarters_le_ticks_nearest (k := k + 4) (by omega) (a := b.ticks + 4 * quarter)
  have hk3 := mul_quarter_le (m := k) (n := 3) (by omega)
  have hk0 := mul_quarter_le (m := 0) (n := k) (by omega)
  have hi := i.index_le
  have hj := j.index_le
  push_cast [add_mul] at hfar hfark hk3 hk0
  unfold Arc.sweepEnd
  rcases ray_mem_walk_false hij k h with ⟨hik, hkj | hji⟩ | ⟨hkj, hji⟩
  · -- Both ends lie in this turn, unless the far one was rounded onto the seam.
    have hak := mul_quarter_le (m := (i.index + 1) / 2) (n := k) (by omega)
    have hkb := mul_quarter_le (m := k) (n := j.index / 2) (by omega)
    refine Or.inl ⟨by omega, ?_⟩
    split <;> omega
  · -- The sweep crosses the seam, and the ray lies before it.
    have hak := mul_quarter_le (m := (i.index + 1) / 2) (n := k) (by omega)
    have hba := mul_quarter_le (m := (j.index + 1) / 2) (n := i.index / 2) (by omega)
    rw [if_pos (by omega)]
    exact Or.inl ⟨by omega, by omega⟩
  · -- The sweep crosses the seam, and the ray lies behind it.
    have hkb := mul_quarter_le (m := k) (n := j.index / 2) (by omega)
    have hba := mul_quarter_le (m := (j.index + 1) / 2) (n := i.index / 2) (by omega)
    by_cases hle : b.ticks ≤ a.ticks
    · rw [if_pos hle]
      exact Or.inr ⟨by omega, by omega⟩
    · rw [if_neg hle]
      exact Or.inl ⟨by omega, by omega⟩

/-- Counted in quarter turns, the rays between the ends of a sweep are those on the walk. -/
theorem ray_mem_walk_of_le {p r : Fin 4} (hpr : p ≠ r) (k : Fin 4)
    (h : let e : Nat := if r ≤ p then r + 4 else r
      (p.val ≤ k ∧ k.val ≤ e) ∨ (p.val ≤ k + 4 ∧ k.val + 4 ≤ e)) :
    ray k ∈ walk false (ray p) (ray r) := by
  revert p r k
  decide +kernel

/-- Between two rays the sweep contains the directions of the rays on the way and of no other. -/
theorem mem_walk_of_sweepContains {p r k : Fin 4} {a b theta : Binary64} (hpr : p ≠ r)
    (ha : a.isFinite) (hb : b.isFinite) (ht : theta.isFinite) (hap : a.ticks = p * quarter)
    (hbr : b.ticks = r * quarter) (hk : theta.ticks = k * quarter)
    (h : Arc.sweepContains a b theta false = true) : ray k ∈ walk false (ray p) (ray r) := by
  have hle {m n : Nat} : (m : Int) * quarter ≤ n * quarter ↔ m ≤ n := by
    rw [mul_le_mul_iff_left₀ quarter_pos, Int.ofNat_le]
  have hnext (l : Fin 4) :
      (nearest (l * quarter + 4 * quarter) 1).ticks = ((l + 4 : Nat) : Int) * quarter := by
    have := ticks_nearest_quarters (k := l + 4) (by omega)
    rw [← add_mul]
    exact_mod_cast this
  have hend : Arc.sweepEnd a.ticks b.ticks =
      ((if r ≤ p then r + 4 else r : Nat) : Int) * quarter := by
    unfold Arc.sweepEnd
    rw [hap, hbr, hnext]
    by_cases hrp : r ≤ p
    · rw [if_pos (hle.mpr hrp), if_pos hrp]
    · rw [if_neg (mt hle.mp hrp), if_neg hrp]
  rw [Arc.sweepContains_false_iff ha hb ht, hend, hk, hap, hnext] at h
  simp only [hle] at h
  exact ray_mem_walk_of_le hpr k h

end Sector

end Toolpath
