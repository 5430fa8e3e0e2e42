import Toolpath.Proofs.Geometry.Extent

/-!
# Covering in any order

A box that covers points passes over absent coordinates and keeps the least and the greatest of the
others, so only the set of the points counts. Covering more points is joining with their own box, and
no box shrinks by it.
-/

namespace Toolpath

namespace Box

open Binary64

/-- No coordinate of the box is absent. -/
def Defined (b : Box) : Prop := b.min.Defined ∧ b.max.Defined

instance (b : Box) : Decidable b.Defined := inferInstanceAs (Decidable (_ ∧ _))

theorem defined_empty : empty.Defined := by
  decide

theorem Defined.foldl_cover {b : Box} (hb : b.Defined) (ps : List Point) :
    (ps.foldl cover b).Defined := by
  obtain ⟨⟨hl, hd⟩, hr, hu⟩ := hb
  rw [Box.foldl_cover]
  exact ⟨⟨selects_min.foldl_ne_nan hl _, selects_min.foldl_ne_nan hd _⟩,
    selects_max.foldl_ne_nan hr _, selects_max.foldl_ne_nan hu _⟩

theorem Defined.same_of_ticks {b c : Box} (hb : b.Defined) (hc : c.Defined)
    (hmin : b.min.x.ticks = c.min.x.ticks ∧ b.min.y.ticks = c.min.y.ticks)
    (hmax : b.max.x.ticks = c.max.x.ticks ∧ b.max.y.ticks = c.max.y.ticks) : b.Same c := by
  rw [same_iff]
  exact ⟨⟨eq_iff.mpr ⟨hb.1.1, hc.1.1, hmin.1⟩, eq_iff.mpr ⟨hb.1.2, hc.1.2, hmin.2⟩⟩,
    eq_iff.mpr ⟨hb.2.1, hc.2.1, hmax.1⟩, eq_iff.mpr ⟨hb.2.2, hc.2.2, hmax.2⟩⟩

theorem same_foldl_cover {b : Box} (hb : b.Defined) {ps qs : List Point}
    (h : ∀ p, p ∈ ps ↔ p ∈ qs) : (ps.foldl cover b).Same (qs.foldl cover b) := by
  have hmem (c : Point → Binary64) (x : Binary64) : x ∈ ps.map c ↔ x ∈ qs.map c := by
    simp only [List.mem_map, h]
  apply (hb.foldl_cover ps).same_of_ticks (hb.foldl_cover qs)
  · rw [Box.foldl_cover, Box.foldl_cover]
    exact ⟨selects_min.ticks_foldl_congr hb.1.1 (hmem _),
      selects_min.ticks_foldl_congr hb.1.2 (hmem _)⟩
  · rw [Box.foldl_cover, Box.foldl_cover]
    exact ⟨selects_max.ticks_foldl_congr hb.2.1 (hmem _),
      selects_max.ticks_foldl_congr hb.2.2 (hmem _)⟩

/-! ## Joins -/

theorem Defined.join {b c : Box} (hb : b.Defined) (hc : c.Defined) : (b.join c).Defined :=
  ⟨⟨min_ne_nan hb.1.1 hc.1.1, min_ne_nan hb.1.2 hc.1.2⟩,
    max_ne_nan hb.2.1 hc.2.1, max_ne_nan hb.2.2 hc.2.2⟩

/-- Covering points is joining with their own box. -/
theorem same_foldl_cover_join {b : Box} (hb : b.Defined) (ps : List Point) :
    (ps.foldl cover b).Same (b.join (ps.foldl cover empty)) := by
  apply (hb.foldl_cover ps).same_of_ticks (hb.join (defined_empty.foldl_cover ps))
  · rw [Box.foldl_cover, Box.foldl_cover]
    exact ⟨selects_min.ticks_foldl hb.1.1 _, selects_min.ticks_foldl hb.1.2 _⟩
  · rw [Box.foldl_cover, Box.foldl_cover]
    exact ⟨selects_max.ticks_foldl hb.2.1 _, selects_max.ticks_foldl hb.2.2 _⟩

/-- No side of the first box lies outside the second. -/
def Within (b c : Box) : Prop :=
  (c.min.x.le b.min.x ∧ b.max.x.le c.max.x) ∧ c.min.y.le b.min.y ∧ b.max.y.le c.max.y

instance (b c : Box) : Decidable (b.Within c) := inferInstanceAs (Decidable (_ ∧ _))

theorem within_foldl_cover {b : Box} (hb : b.Defined) (ps : List Point) :
    b.Within (ps.foldl cover b) := by
  have hp := hb.foldl_cover ps
  rw [Box.foldl_cover] at hp ⊢
  exact ⟨⟨le_iff.mpr ⟨hp.1.1, hb.1.1, selects_min.key_foldl_le_self hb.1.1 _⟩,
    le_iff.mpr ⟨hb.2.1, hp.2.1, neg_le_neg_iff.mp (selects_max.key_foldl_le_self hb.2.1 _)⟩⟩,
    le_iff.mpr ⟨hp.1.2, hb.1.2, selects_min.key_foldl_le_self hb.1.2 _⟩,
    le_iff.mpr ⟨hb.2.2, hp.2.2, neg_le_neg_iff.mp (selects_max.key_foldl_le_self hb.2.2 _)⟩⟩

end Box

end Toolpath
