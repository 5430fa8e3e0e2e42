import Toolpath.Proofs.Number.Selection
import Toolpath.Geometry.Box

/-!
# Extents

A box is the extent of some points when it contains all of them and each of its four sides touches
one. Growing the empty box by points gives their extent, and the extent is unique up to the signs of
zeros.
-/

namespace Toolpath

/-- Both coordinates are numbers, though they may be infinite. -/
def Point.Defined (p : Point) : Prop := p.x ≠ .nan ∧ p.y ≠ .nan

instance (p : Point) : Decidable p.Defined := inferInstanceAs (Decidable (_ ∧ _))

def Point.Finite (p : Point) : Prop := p.x.isFinite ∧ p.y.isFinite

instance (p : Point) : Decidable p.Finite := inferInstanceAs (Decidable (_ ∧ _))

theorem Point.Finite.defined {p : Point} (h : p.Finite) : p.Defined :=
  ⟨Binary64.ne_nan_of_isFinite h.1, Binary64.ne_nan_of_isFinite h.2⟩

theorem Point.defined_origin : Point.origin.Defined := by
  decide

namespace Box

/-- The box has a point: on both axes the least coordinate does not exceed the greatest. -/
def Ordered (b : Box) : Prop := b.min.x.le b.max.x ∧ b.min.y.le b.max.y

instance (b : Box) : Decidable b.Ordered := inferInstanceAs (Decidable (_ ∧ _))

def Contains (b : Box) (p : Point) : Prop :=
  (b.min.x.le p.x ∧ p.x.le b.max.x) ∧ b.min.y.le p.y ∧ p.y.le b.max.y

instance (b : Box) (p : Point) : Decidable (b.Contains p) := inferInstanceAs (Decidable (_ ∧ _))

/-- Equality of the corners as numbers: a zero may have another sign. -/
def Same (a b : Box) : Prop := a.min.eq b.min ∧ a.max.eq b.max

instance (a b : Box) : Decidable (a.Same b) := inferInstanceAs (Decidable (_ ∧ _))

theorem same_iff {b c : Box} : b.Same c ↔ ((b.min.x.eq c.min.x ∧ b.min.y.eq c.min.y) ∧
    b.max.x.eq c.max.x ∧ b.max.y.eq c.max.y) := by
  simp [Same, Point.eq]

/-- Some of the points touches the side of the box with this coordinate. -/
def Touched (coordinate : Point → Binary64) (side : Binary64) (ps : List Point) : Prop :=
  ∃ p ∈ ps, (coordinate p).eq side

structure IsExtent (b : Box) (ps : List Point) : Prop where
  contains : ∀ p ∈ ps, b.Contains p
  left : Touched Point.x b.min.x ps
  right : Touched Point.x b.max.x ps
  bottom : Touched Point.y b.min.y ps
  top : Touched Point.y b.max.y ps

/-! ## Covering points -/

theorem foldl_cover (b : Box) (ps : List Point) :
    ps.foldl cover b =
      ⟨⟨(ps.map Point.x).foldl Binary64.min b.min.x, (ps.map Point.y).foldl Binary64.min b.min.y⟩,
        ⟨(ps.map Point.x).foldl Binary64.max b.max.x,
          (ps.map Point.y).foldl Binary64.max b.max.y⟩⟩ := by
  induction ps generalizing b with
  | nil => rfl
  | cons p ps ih =>
      rw [List.foldl_cons, ih]
      rfl

open Binary64 in
theorem isExtent_foldl_cover {ps : List Point} (hne : ps ≠ []) (hps : ∀ p ∈ ps, p.Defined) :
    (ps.foldl cover empty).IsExtent ps := by
  have hxs : ∀ x ∈ ps.map Point.x, x ≠ .nan := by
    intro x hx
    obtain ⟨p, hp, rfl⟩ := List.mem_map.mp hx
    exact (hps p hp).1
  have hys : ∀ y ∈ ps.map Point.y, y ≠ .nan := by
    intro y hy
    obtain ⟨p, hp, rfl⟩ := List.mem_map.mp hy
    exact (hps p hp).2
  have htouch {coordinate : Point → Binary64} {side : Binary64}
      (h : ∃ v ∈ ps.map coordinate, v.eq side) : Touched coordinate side ps := by
    obtain ⟨v, hv, he⟩ := h
    obtain ⟨p, hp, rfl⟩ := List.mem_map.mp hv
    exact ⟨p, hp, he⟩
  have hne' (f : Point → Binary64) : ps.map f ≠ [] := by simpa using hne
  have hstart (negative : Bool) : infinity negative ≠ .nan := by simp
  rw [foldl_cover]
  refine ⟨?_, htouch (selects_min.exists_eq_foldl (hne' _) hxs),
    htouch (selects_max.exists_eq_foldl (hne' _) hxs),
    htouch (selects_min.exists_eq_foldl (hne' _) hys),
    htouch (selects_max.exists_eq_foldl (hne' _) hys)⟩
  intro p hp
  obtain ⟨hx, hy⟩ := hps p hp
  have hpx := List.mem_map_of_mem (f := Point.x) hp
  have hpy := List.mem_map_of_mem (f := Point.y) hp
  exact ⟨⟨le_iff.mpr ⟨selects_min.foldl_ne_nan (hstart _) _, hx,
      selects_min.key_foldl_le (hstart _) hpx hx⟩,
    le_iff.mpr ⟨hx, selects_max.foldl_ne_nan (hstart _) _,
      neg_le_neg_iff.mp (selects_max.key_foldl_le (hstart _) hpx hx)⟩⟩,
    le_iff.mpr ⟨selects_min.foldl_ne_nan (hstart _) _, hy,
      selects_min.key_foldl_le (hstart _) hpy hy⟩,
    le_iff.mpr ⟨hy, selects_max.foldl_ne_nan (hstart _) _,
      neg_le_neg_iff.mp (selects_max.key_foldl_le (hstart _) hpy hy)⟩⟩

theorem isEmpty_eq_false {b : Box} (h : b.Ordered) : b.isEmpty = false := by
  obtain ⟨hx, hy⟩ := h
  rw [Binary64.le_iff] at hx hy
  rw [← Bool.not_eq_true, isEmpty, Bool.or_eq_true, Binary64.lt_iff, Binary64.lt_iff]
  omega

theorem isEmpty_empty : empty.isEmpty = true := by
  decide +kernel

theorem IsExtent.ordered {b : Box} {ps : List Point} (h : b.IsExtent ps) : b.Ordered := by
  obtain ⟨p, hp, -⟩ := h.left
  obtain ⟨⟨hl, hr⟩, hb, ht⟩ := h.contains p hp
  exact ⟨Binary64.le_trans hl hr, Binary64.le_trans hb ht⟩

theorem Ordered.defined {b : Box} (h : b.Ordered) : b.min.Defined ∧ b.max.Defined := by
  obtain ⟨hx, hy⟩ := h
  rw [Binary64.le_iff] at hx hy
  exact ⟨⟨hx.1, hy.1⟩, hx.2.1, hy.2.1⟩

theorem Touched.eq_of_le {c : Point → Binary64} {v w : Binary64} {ps : List Point}
    (hv : Touched c v ps) (hw : Touched c w ps) (hlv : ∀ p ∈ ps, v.le (c p))
    (hlw : ∀ p ∈ ps, w.le (c p)) : v.eq w := by
  obtain ⟨p, hp, hpv⟩ := hv
  obtain ⟨q, hq, hqw⟩ := hw
  have hvq := hlv q hq
  have hwp := hlw p hp
  rw [Binary64.eq_iff] at hpv hqw ⊢
  rw [Binary64.le_iff] at hvq hwp
  exact ⟨hvq.1, hwp.1, by omega⟩

theorem Touched.eq_of_ge {c : Point → Binary64} {v w : Binary64} {ps : List Point}
    (hv : Touched c v ps) (hw : Touched c w ps) (hgv : ∀ p ∈ ps, (c p).le v)
    (hgw : ∀ p ∈ ps, (c p).le w) : v.eq w := by
  obtain ⟨p, hp, hpv⟩ := hv
  obtain ⟨q, hq, hqw⟩ := hw
  have hqv := hgv q hq
  have hpw := hgw p hp
  rw [Binary64.eq_iff] at hpv hqw ⊢
  rw [Binary64.le_iff] at hqv hpw
  exact ⟨hqv.2.1, hpw.2.1, by omega⟩

/-- The extent of points is unique up to the signs of zeros. -/
theorem IsExtent.same {a b : Box} {ps : List Point} (ha : a.IsExtent ps) (hb : b.IsExtent ps) :
    a.Same b := by
  have hleft := ha.left.eq_of_le hb.left (fun p hp ↦ (ha.contains p hp).1.1)
    fun p hp ↦ (hb.contains p hp).1.1
  have hright := ha.right.eq_of_ge hb.right (fun p hp ↦ (ha.contains p hp).1.2)
    fun p hp ↦ (hb.contains p hp).1.2
  have hbottom := ha.bottom.eq_of_le hb.bottom (fun p hp ↦ (ha.contains p hp).2.1)
    fun p hp ↦ (hb.contains p hp).2.1
  have htop := ha.top.eq_of_ge hb.top (fun p hp ↦ (ha.contains p hp).2.2)
    fun p hp ↦ (hb.contains p hp).2.2
  simp [Same, Point.eq, hleft, hright, hbottom, htop]

theorem IsExtent.congr {b : Box} {ps qs : List Point} (h : b.IsExtent ps)
    (hmem : ∀ p, p ∈ ps ↔ p ∈ qs) : b.IsExtent qs := by
  have htouch {c : Point → Binary64} {side : Binary64} (ht : Touched c side ps) :
      Touched c side qs := by
    obtain ⟨p, hp, heq⟩ := ht
    exact ⟨p, (hmem p).mp hp, heq⟩
  exact ⟨fun p hp ↦ h.contains p ((hmem p).mpr hp), htouch h.left, htouch h.right,
    htouch h.bottom, htouch h.top⟩

theorem Touched.select {c : Point → Binary64} {v w : Binary64} {ps : List Point} {q : Point}
    (hv : Touched c v ps) (hq : c q ≠ .nan) (hw : w = v ∨ w = c q) : Touched c w (q :: ps) := by
  rcases hw with rfl | rfl
  · obtain ⟨p, hp, heq⟩ := hv
    exact ⟨p, List.mem_cons_of_mem q hp, heq⟩
  · exact ⟨q, List.mem_cons_self, Binary64.eq_refl hq⟩

/-- The extent of one more point covers that point. -/
theorem IsExtent.cover {b : Box} {ps : List Point} (h : b.IsExtent ps) {q : Point}
    (hq : q.Defined) : (b.cover q).IsExtent (q :: ps) := by
  obtain ⟨hmin, hmax⟩ := h.ordered.defined
  refine ⟨?_, h.left.select hq.1 (Binary64.min_eq_or _ _),
    h.right.select hq.1 (Binary64.max_eq_or _ _), h.bottom.select hq.2 (Binary64.min_eq_or _ _),
    h.top.select hq.2 (Binary64.max_eq_or _ _)⟩
  intro p hp
  rcases List.mem_cons.mp hp with rfl | hp
  · exact ⟨⟨Binary64.min_le_right hmin.1 hq.1, Binary64.le_max_right hmax.1 hq.1⟩,
      Binary64.min_le_right hmin.2 hq.2, Binary64.le_max_right hmax.2 hq.2⟩
  · obtain ⟨⟨hleft, hright⟩, hbottom, htop⟩ := h.contains p hp
    refine ⟨⟨Binary64.le_trans ?_ hleft, Binary64.le_trans hright ?_⟩,
      Binary64.le_trans ?_ hbottom, Binary64.le_trans htop ?_⟩
    · exact Binary64.min_le_left hmin.1 hq.1
    · exact Binary64.le_max_left hmax.1 hq.1
    · exact Binary64.min_le_left hmin.2 hq.2
    · exact Binary64.le_max_left hmax.2 hq.2

/-! ## Finite boxes -/

def Finite (b : Box) : Prop := b.min.Finite ∧ b.max.Finite

instance (b : Box) : Decidable b.Finite := inferInstanceAs (Decidable (_ ∧ _))

theorem Touched.isFinite {c : Point → Binary64} {side : Binary64} {ps : List Point}
    (h : Touched c side ps) (hps : ∀ p ∈ ps, (c p).isFinite) : side.isFinite := by
  obtain ⟨p, hp, heq⟩ := h
  exact Binary64.isFinite_of_eq heq (hps p hp)

theorem IsExtent.finite_iff {b : Box} {ps : List Point} (h : b.IsExtent ps) :
    b.Finite ↔ ∀ p ∈ ps, p.Finite := by
  constructor
  · rintro ⟨⟨hl, hd⟩, hr, hu⟩ p hp
    obtain ⟨⟨hleft, hright⟩, hbottom, htop⟩ := h.contains p hp
    exact ⟨Binary64.isFinite_of_le hleft hright hl hr,
      Binary64.isFinite_of_le hbottom htop hd hu⟩
  · intro hps
    exact ⟨⟨h.left.isFinite fun p hp ↦ (hps p hp).1, h.bottom.isFinite fun p hp ↦ (hps p hp).2⟩,
      h.right.isFinite fun p hp ↦ (hps p hp).1, h.top.isFinite fun p hp ↦ (hps p hp).2⟩

/-! ## Corners -/

theorem Ordered.contains_corner {b : Box} (h : b.Ordered) {q : Point} (hq : q ∈ b.corners) :
    b.Contains q := by
  obtain ⟨hmin, hmax⟩ := h.defined
  obtain ⟨hx, hy⟩ := h
  have hrefl {v : Binary64} (hv : v ≠ .nan) : v.le v := Binary64.le_iff.mpr ⟨hv, hv, le_rfl⟩
  simp only [corners, List.mem_cons, List.not_mem_nil, or_false] at hq
  rcases hq with rfl | rfl | rfl | rfl | rfl
  · exact ⟨⟨hrefl hmin.1, hx⟩, hrefl hmin.2, hy⟩
  · exact ⟨⟨hx, hrefl hmax.1⟩, hrefl hmin.2, hy⟩
  · exact ⟨⟨hx, hrefl hmax.1⟩, hy, hrefl hmax.2⟩
  · exact ⟨⟨hrefl hmin.1, hx⟩, hy, hrefl hmax.2⟩
  · exact ⟨⟨hrefl hmin.1, hx⟩, hrefl hmin.2, hy⟩

/-- A box is the extent of points inside it that include its least and its greatest corner. -/
theorem isExtent_of_corners {b : Box} {ps : List Point} (h : ∀ p ∈ ps, b.Contains p)
    (hmin : b.min ∈ ps) (hmax : b.max ∈ ps) : b.IsExtent ps := by
  have hrefl {v w : Binary64} (hv : v.le w) : v.eq v ∧ w.eq w := by
    rw [Binary64.le_iff] at hv
    exact ⟨Binary64.eq_refl hv.1, Binary64.eq_refl hv.2.1⟩
  obtain ⟨⟨hx, -⟩, hy, -⟩ := h _ hmin
  obtain ⟨⟨-, hx'⟩, -, hy'⟩ := h _ hmax
  exact ⟨h, ⟨_, hmin, (hrefl hx).1⟩, ⟨_, hmax, (hrefl hx').1⟩, ⟨_, hmin, (hrefl hy).1⟩,
    ⟨_, hmax, (hrefl hy').1⟩⟩

end Box

end Toolpath
