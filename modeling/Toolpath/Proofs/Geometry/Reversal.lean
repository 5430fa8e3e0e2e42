import Toolpath.Proofs.Geometry.Cover
import Toolpath.Proofs.Geometry.Sweep

/-!
# Moves in any order and direction

The box around moves depends on the set of the points that they touch. A move and its reverse touch
the same points, for a clockwise sweep is the counter-clockwise one with its ends exchanged. An arc
has its radius from its start, so its reverse needs a start that is as far from the center.
-/

namespace Toolpath

open Binary64

/-! ## Radii -/

namespace Binary64

theorem isNegative_hypot (a b : Binary64) : (hypot a b).isNegative = false := by
  cases a <;> cases b <;> first | rfl | exact isNegative_round _ _ _

/-- Lengths that are equal as numbers are the same double. -/
theorem hypot_eq_of_eq {a b c d : Binary64} (h : (hypot a b).eq (hypot c d)) :
    hypot a b = hypot c d := by
  obtain ⟨hab, hcd, ht⟩ := eq_iff.mp h
  exact eq_of_ticks_eq hab hcd ht (by rw [isNegative_hypot, isNegative_hypot])

end Binary64

/-! ## Reverses -/

namespace Path

def reverse : Path → Path
  | straight => straight
  | arc center clockwise => arc center (!clockwise)

end Path

namespace Move

def reverse (m : Move) : Move := ⟨m.finish, m.start, m.path.reverse⟩

/-- The two ends of an arc are computed to be equally far from its center. -/
def Equidistant (m : Move) : Prop :=
  match m.path with
  | .straight => True
  | .arc center _ => (m.start.distance center).eq (m.finish.distance center)

instance (m : Move) : Decidable m.Equidistant := by
  unfold Equidistant
  split <;> infer_instance

end Move

theorem Arc.sweepContains_not (start finish theta : Binary64) (clockwise : Bool) :
    sweepContains finish start theta (!clockwise) = sweepContains start finish theta clockwise := by
  cases clockwise <;> rfl

theorem Arc.extremes_reverse {start finish center : Point}
    (h : start.distance center = finish.distance center) (clockwise : Bool) :
    extremes finish start center (!clockwise) = extremes start finish center clockwise := by
  simp only [extremes, h, sweepContains_not]

namespace Move

theorem extremes_reverse {m : Move} (h : m.Equidistant) : m.reverse.extremes = m.extremes := by
  obtain ⟨start, finish, path⟩ := m
  cases path with
  | straight => rfl
  | arc center clockwise => exact Arc.extremes_reverse (hypot_eq_of_eq h) clockwise

theorem mem_points_reverse {m : Move} (h : m.Equidistant) (p : Point) :
    p ∈ m.reverse.points ↔ p ∈ m.points := by
  rw [points, points, extremes_reverse h]
  simp only [reverse, List.mem_cons]
  exact or_left_comm

/-- The second move is the first one, or the first one taken back. -/
inductive Turned : Move → Move → Prop
  | same (m : Move) : Turned m m
  | back {m : Move} (h : m.Equidistant) : Turned m m.reverse

theorem Turned.mem_points {m k : Move} (h : m.Turned k) (p : Point) :
    p ∈ m.points ↔ p ∈ k.points := by
  cases h with
  | same => exact Iff.rfl
  | back h => exact (mem_points_reverse h p).symm

theorem mem_flatMap_points_of_turned {ms ks : List Move} (h : List.Forall₂ Turned ms ks)
    (p : Point) : p ∈ ms.flatMap points ↔ p ∈ ks.flatMap points := by
  induction h with
  | nil => exact Iff.rfl
  | cons hm _ ih => rw [List.flatMap_cons, List.flatMap_cons, List.mem_append, List.mem_append,
      hm.mem_points, ih]

end Move

namespace Box

theorem foldl_coverMove (b : Box) (ms : List Move) :
    ms.foldl coverMove b = (ms.flatMap Move.points).foldl cover b :=
  List.foldl_flatMap.symm

/-- Neither the order nor the direction of moves matters to the box around them. A sweep does not
tell its directions apart, whatever its angles are. -/
theorem same_foldl_coverMove {b : Box} (hb : b.Defined) {ms ks ns : List Move}
    (hturned : List.Forall₂ Move.Turned ms ks) (hperm : ks.Perm ns) :
    (ms.foldl coverMove b).Same (ns.foldl coverMove b) ∧
      ∀ start finish theta, Arc.sweepContains start finish theta true =
        Arc.sweepContains finish start theta false := by
  constructor
  · rw [foldl_coverMove, foldl_coverMove]
    apply same_foldl_cover hb
    intro p
    rw [Move.mem_flatMap_points_of_turned hturned]
    exact (hperm.flatMap_right Move.points).mem_iff
  · exact Arc.sweepContains_true

theorem same_foldl_coverMove_half_circle :
    let line : Move := ⟨.origin, ⟨5, 0⟩, .straight⟩
    let arc : Move := ⟨⟨5, 0⟩, ⟨-5, 0⟩, .arc .origin false⟩
    let back : Move := ⟨⟨-5, 0⟩, ⟨5, 0⟩, .arc .origin true⟩
    empty.Defined ∧ arc.Equidistant ∧
      ([line, arc].foldl coverMove empty).Same ([back, line].foldl coverMove empty) := by
  intro line arc back
  have harc : arc.Equidistant := by decide +kernel
  have hturned : List.Forall₂ Move.Turned [line, arc] [line, back] :=
    .cons (.same line) (.cons (.back harc) .nil)
  exact ⟨defined_empty, harc,
    (same_foldl_coverMove defined_empty hturned (.swap back line [])).1⟩

end Box

end Toolpath
