import Toolpath.Proofs.Geometry.Crossing
import Toolpath.Proofs.Geometry.Travel
import Toolpath.Proofs.Program.Contiguous

/-!
# Full circles

An arc that ends where it starts is a full circle. Both ends are seen at one angle, even where zeros
differ in sign, and then the sweep has a full turn and meets every direction. So the box around the arc
reaches as far on each side of the center as its radius.
-/

namespace Toolpath

open Binary64

namespace Binary64

/-! ## Equal numbers -/

/-- Apart from zero, equal numbers are the same double. -/
theorem eq_of_ticks_eq_of_ne_zero {x y : Binary64} (hx : x ≠ .nan) (hy : y ≠ .nan)
    (h : x.ticks = y.ticks) (h0 : x.ticks ≠ 0) : x = y := by
  refine eq_of_ticks_eq hx hy h ?_
  rcases lt_or_gt_of_ne h0 with hneg | hpos
  · rw [isNegative_of_ticks_neg hneg, isNegative_of_ticks_neg (h ▸ hneg)]
  · rw [not_isNegative_of_ticks_pos hpos, not_isNegative_of_ticks_pos (h ▸ hpos)]

/-- A radius moves a coordinate up, or it is absorbed. -/
theorem add_eq_or_lt {c r : Binary64} (hc : c.isFinite) (hr : r.isFinite) (h : 0 < r.ticks) :
    c + r = c ∨ c.ticks < (c + r).ticks := by
  have hn := ne_nan_of_isFinite hc
  have hsum := add_ne_nan hn hr
  have hle : c.ticks ≤ (c + r).ticks := by
    rw [ticks_add hc hr]
    exact le_ticks_nearest_of_le one_pos (by push_cast; omega)
  rcases hle.eq_or_lt with heq | hlt
  · refine Or.inl (eq_of_ticks_eq_of_ne_zero hsum hn heq.symm fun h0 ↦ ?_)
    have hle : r.ticks ≤ (c + r).ticks := by
      rw [ticks_add hc hr]
      exact le_ticks_nearest_of_le one_pos (by push_cast; omega)
    omega
  · exact Or.inr hlt

theorem sub_eq_or_lt {c r : Binary64} (hc : c.isFinite) (hr : r.isFinite) (h : 0 < r.ticks) :
    c - r = c ∨ (c - r).ticks < c.ticks := by
  have hn := ne_nan_of_isFinite hc
  have hdiff := sub_ne_nan hn hr
  have hle : (c - r).ticks ≤ c.ticks := by
    rw [ticks_sub hc hr]
    exact ticks_nearest_le_of_le one_pos (by push_cast; omega)
  rcases hle.eq_or_lt with heq | hlt
  · refine Or.inl (eq_of_ticks_eq_of_ne_zero hdiff hn heq fun h0 ↦ ?_)
    have hle : (c - r).ticks ≤ r.neg.ticks := by
      rw [ticks_sub hc hr]
      refine ticks_nearest_le_of_le one_pos ?_
      rw [ticks_neg]
      push_cast
      omega
    rw [ticks_neg] at hle
    omega
  · exact Or.inr hlt

theorem ticks_ne_zero_of_hypot {a b : Binary64} (ha : a.isFinite) (hb : b.isFinite)
    (h : 0 < (hypot a b).ticks) : a.ticks ≠ 0 ∨ b.ticks ≠ 0 := by
  by_contra hzero
  push Not at hzero
  rw [← magnitude_eq_zero_iff, ← magnitude_eq_zero_iff] at hzero
  rw [hypot_finite ha hb (n := 0) (by rw [hzero.1, hzero.2])] at h
  revert h
  decide +kernel

/-! ## Equal angles -/

theorem ticks_elevation_congr {y x v u : Binary64} (hy : y ≠ .nan) (hx : x ≠ .nan) (hv : v ≠ .nan)
    (hu : u ≠ .nan) (hyv : y.ticks = v.ticks) (hxu : x.ticks = u.ticks)
    (h : y.ticks ≠ 0 ∨ x.ticks ≠ 0) : (elevation y x).ticks = (elevation v u).ticks := by
  by_cases hy0 : y.ticks = 0
  · obtain ⟨hright, hleft⟩ := ticks_elevation_of_fst_eq_zero (x := x) hy hy0
    obtain ⟨hright', hleft'⟩ := ticks_elevation_of_fst_eq_zero (x := u) hv (hyv ▸ hy0)
    rcases lt_or_gt_of_ne (h.resolve_left (not_not_intro hy0)) with hneg | hpos
    · rw [hleft hneg, hleft' (hxu ▸ hneg)]
    · rw [hright hpos, hright' (hxu ▸ hpos)]
  · obtain rfl := eq_of_ticks_eq_of_ne_zero hy hv hyv hy0
    by_cases hx0 : x.ticks = 0
    · rw [ticks_elevation_of_snd_eq_zero hx hy0 hx0,
        ticks_elevation_of_snd_eq_zero hu hy0 (hxu ▸ hx0)]
    · rw [eq_of_ticks_eq_of_ne_zero hx hu hxu hx0]

/-- The angle of a vector other than zero does not depend on the sign of a zero. -/
theorem ticks_normalize_atan2_congr {y x v u : Binary64} (hy : y ≠ .nan) (hx : x ≠ .nan)
    (hv : v ≠ .nan) (hu : u ≠ .nan) (hyv : y.ticks = v.ticks) (hxu : x.ticks = u.ticks)
    (h : y.ticks ≠ 0 ∨ x.ticks ≠ 0) :
    (Arc.normalize (atan2 y x)).ticks = (Arc.normalize (atan2 v u)).ticks := by
  have helevation := ticks_elevation_congr hy hx hv hu hyv hxu h
  by_cases hy0 : y.ticks < 0
  · have ht : (atan2 y x).ticks = (atan2 v u).ticks := by
      rcases ticks_atan2 hy hx with ⟨-, habove⟩ | ⟨ht, -⟩
      · omega
      · rcases ticks_atan2 hv hu with ⟨-, habove⟩ | ⟨ht', -⟩
        · omega
        · rw [ht, ht', helevation]
    obtain ⟨hl, hh⟩ := Arc.abs_ticks_atan2_le hy hx
    obtain ⟨hl', hh'⟩ := Arc.abs_ticks_atan2_le hv hu
    rw [(Arc.normalize_spec (atan2_ne_nan hy hx) hl hh).2,
      (Arc.normalize_spec (atan2_ne_nan hv hu) hl' hh').2, ht]
  · rw [Arc.normalize_atan2_of_nonneg hy hx (by omega),
      Arc.normalize_atan2_of_nonneg hv hu (by omega), helevation]

end Binary64

namespace Arc

theorem withinTurn_angleAround {center p : Point} (hc : center.Finite) (hp : p.Finite) :
    WithinTurn (angleAround center p) := by
  have hx := sub_ne_nan (ne_nan_of_isFinite hp.1) hc.1
  have hy := sub_ne_nan (ne_nan_of_isFinite hp.2) hc.2
  exact withinTurn_normalize (isFinite_atan2 hy hx)

theorem withinTurn_bearing (k : Fin 4) : WithinTurn (bearing k) := by
  revert k
  decide +kernel

/-- Between equal angles the sweep meets every direction, either way round. -/
theorem sweepContains_of_ticks_eq {a b theta : Binary64} (clockwise : Bool) (ha : WithinTurn a)
    (hb : WithinTurn b) (ht : WithinTurn theta) (h : a.ticks = b.ticks) :
    sweepContains a b theta clockwise = true := by
  have hends : (farEnd clockwise a b).ticks = (nearEnd clockwise a b).ticks := by
    cases clockwise with
    | false => exact h.symm
    | true => exact h
  rw [sweepContains_iff clockwise ha hb ht]
  rcases le_total (nearEnd clockwise a b).ticks theta.ticks with hle | hle
  · exact Or.inl ⟨hle, Or.inr hends.le⟩
  · exact Or.inr ⟨hends.le, ticks_nearest_add_turn_mono (hle.trans hends.ge)⟩

end Arc

/-! ## Boxes -/

namespace Binary64

theorem min_eq_ite {a b : Binary64} (ha : a ≠ .nan) (hb : b ≠ .nan) :
    a.min b = if a.ticks ≤ b.ticks then a else b := by
  simp [Binary64.min, isNaN_eq_false.mpr ha, isNaN_eq_false.mpr hb]

theorem max_eq_ite {a b : Binary64} (ha : a ≠ .nan) (hb : b ≠ .nan) :
    a.max b = if -a.ticks ≤ -b.ticks then a else b := by
  simp [Binary64.max, isNaN_eq_false.mpr ha, isNaN_eq_false.mpr hb]

section Best

variable {f : Binary64 → Binary64 → Binary64} {key : Binary64 → Int}
  (hf : ∀ {a b}, a ≠ .nan → b ≠ .nan → f a b = if key a ≤ key b then a else b)
include hf

theorem foldl_of_key_le {a : Binary64} (ha : a ≠ .nan) {xs : List Binary64}
    (hxs : ∀ x ∈ xs, x ≠ .nan ∧ key a ≤ key x) : xs.foldl f a = a := by
  induction xs with
  | nil => rfl
  | cons x xs ih =>
      obtain ⟨hx, hle⟩ := hxs x List.mem_cons_self
      rw [List.foldl_cons, hf ha hx, if_pos hle]
      exact ih fun y hy ↦ hxs y (List.mem_cons_of_mem x hy)

/-- A selection among numbers of which one precedes every other only has to look at that one. -/
theorem foldl_of_best {a v : Binary64} (ha : a ≠ .nan) {xs : List Binary64} (hv : v ∈ xs)
    (hxs : ∀ x ∈ xs, x ≠ .nan ∧ (x = v ∨ key v < key x)) : xs.foldl f a = f a v := by
  have hvn := (hxs v hv).1
  have hle : ∀ x ∈ xs, x ≠ .nan ∧ key v ≤ key x := by
    intro x hx
    obtain ⟨hn, rfl | hlt⟩ := hxs x hx
    · exact ⟨hn, le_rfl⟩
    · exact ⟨hn, hlt.le⟩
  rw [hf ha hvn]
  split
  next hav => exact foldl_of_key_le hf ha fun x hx ↦ ⟨(hle x hx).1, hav.trans (hle x hx).2⟩
  next hva =>
    -- The value stays behind the best one until that one comes.
    induction xs generalizing a with
    | nil => simp at hv
    | cons x xs ih =>
        rw [List.foldl_cons]
        have hrest (y : Binary64) (hy : y ∈ xs) := hxs y (List.mem_cons_of_mem x hy)
        obtain ⟨hx, rfl | hlt⟩ := hxs x List.mem_cons_self
        · rw [hf ha hx, if_neg hva]
          exact foldl_of_key_le hf hx fun y hy ↦ hle y (List.mem_cons_of_mem _ hy)
        · have hmem : v ∈ xs := by
            refine (List.mem_cons.mp hv).resolve_left fun h ↦ ?_
            exact absurd (h ▸ hlt) (lt_irrefl _)
          rw [hf ha hx]
          split
          · exact ih ha hmem hrest (fun y hy ↦ hle y (List.mem_cons_of_mem x hy)) hva
          · exact ih hx hmem hrest (fun y hy ↦ hle y (List.mem_cons_of_mem x hy)) hlt.not_ge

end Best

section Radius

variable {a c r : Binary64} (ha : a ≠ .nan) (hc : c.isFinite) (hr : r.isFinite) (h : 0 < r.ticks)
  {xs : List Binary64} (hxs : ∀ x ∈ xs, x = c + r ∨ x = c ∨ x = c - r)
include ha hc hr h hxs

theorem foldl_min_radius (hv : c - r ∈ xs) : xs.foldl Binary64.min a = a.min (c - r) := by
  have hn := ne_nan_of_isFinite hc
  have hup := add_eq_or_lt hc hr h
  have hdown := sub_eq_or_lt hc hr h
  refine foldl_of_best min_eq_ite ha hv fun x hx ↦ ?_
  rcases hxs x hx with rfl | rfl | rfl
  · exact ⟨add_ne_nan hn hr, by grind⟩
  · exact ⟨hn, by grind⟩
  · exact ⟨sub_ne_nan hn hr, Or.inl rfl⟩

theorem foldl_max_radius (hv : c + r ∈ xs) : xs.foldl Binary64.max a = a.max (c + r) := by
  have hn := ne_nan_of_isFinite hc
  have hup := add_eq_or_lt hc hr h
  have hdown := sub_eq_or_lt hc hr h
  refine foldl_of_best max_eq_ite ha hv fun x hx ↦ ?_
  rcases hxs x hx with rfl | rfl | rfl
  · exact ⟨add_ne_nan hn hr, Or.inl rfl⟩
  · exact ⟨hn, by grind⟩
  · exact ⟨sub_ne_nan hn hr, by grind⟩

end Radius

end Binary64

namespace Box

/-- The upright square around a circle. -/
def square (center : Point) (radius : Binary64) : Box :=
  ⟨⟨center.x - radius, center.y - radius⟩, ⟨center.x + radius, center.y + radius⟩⟩

theorem cover_empty {p : Point} (hp : p.Finite) : empty.cover p = ⟨p, p⟩ := by
  have hleast {c : Binary64} (hc : c.isFinite) : (infinity false).min c = c := by
    have hlt := (isFinite_iff (ne_nan_of_isFinite hc)).mp hc
    rw [min_eq_ite (by simp) (ne_nan_of_isFinite hc), if_neg]
    rw [ticks_infinity_false]
    omega
  have hgreatest {c : Binary64} (hc : c.isFinite) : (infinity true).max c = c := by
    have hlt := (isFinite_iff (ne_nan_of_isFinite hc)).mp hc
    rw [max_eq_ite (by simp) (ne_nan_of_isFinite hc), if_neg]
    rw [ticks_infinity_true]
    omega
  unfold cover empty
  dsimp only
  rw [hleast hp.1, hleast hp.2, hgreatest hp.1, hgreatest hp.2]

theorem cover_of_eq {p q : Point} (h : p.eq q) : (Box.mk p p).cover q = ⟨p, p⟩ := by
  obtain ⟨hx, hy⟩ := Bool.and_eq_true_iff.mp h
  obtain ⟨hpx, hqx, hx⟩ := eq_iff.mp hx
  obtain ⟨hpy, hqy, hy⟩ := eq_iff.mp hy
  unfold cover
  dsimp only
  rw [min_eq_ite hpx hqx, min_eq_ite hpy hqy, max_eq_ite hpx hqx, max_eq_ite hpy hqy,
    if_pos hx.le, if_pos hy.le, if_pos (neg_le_neg hx.ge), if_pos (neg_le_neg hy.ge)]

/-- The four cardinal points of a circle reach all sides of its square. -/
theorem foldl_cover_cardinals {p center : Point} {radius : Binary64} (hp : p.Finite)
    (hc : center.Finite) (hr : radius.isFinite) (hpos : 0 < radius.ticks) :
    ((Arc.cardinals center radius).map (·.1)).foldl cover ⟨p, p⟩ =
      (Box.mk p p).join (square center radius) := by
  have hpx := ne_nan_of_isFinite hp.1
  have hpy := ne_nan_of_isFinite hp.2
  rw [foldl_cover]
  dsimp only [Arc.cardinals, List.map_cons, List.map_nil]
  rw [foldl_min_radius hpx hc.1 hr hpos (by simp) (by simp),
    foldl_min_radius hpy hc.2 hr hpos (by simp) (by simp),
    foldl_max_radius hpx hc.1 hr hpos (by simp) (by simp),
    foldl_max_radius hpy hc.2 hr hpos (by simp) (by simp)]
  rfl

end Box

/-! ## Full circles -/

theorem Arc.extremes_of_eq {start finish center : Point} (clockwise : Bool)
    (hclosed : start.eq finish) (hr : (start.distance center).isFinite)
    (hpos : 0 < (start.distance center).ticks) :
    extremes start finish center clockwise =
      (cardinals center (start.distance center)).map (·.1) := by
  obtain ⟨hdx, hdy⟩ := isFinite_of_hypot hr
  obtain ⟨hsx, hcx⟩ := isFinite_of_sub hdx
  obtain ⟨hsy, hcy⟩ := isFinite_of_sub hdy
  obtain ⟨hx, hy⟩ := Bool.and_eq_true_iff.mp hclosed
  have hfx := isFinite_of_eq hx hsx
  have hfy := isFinite_of_eq hy hsy
  obtain ⟨-, -, hx⟩ := eq_iff.mp hx
  obtain ⟨-, -, hy⟩ := eq_iff.mp hy
  have hangle : (angleAround center start).ticks = (angleAround center finish).ticks := by
    refine ticks_normalize_atan2_congr (sub_ne_nan (ne_nan_of_isFinite hsy) hcy)
      (sub_ne_nan (ne_nan_of_isFinite hsx) hcx) (sub_ne_nan (ne_nan_of_isFinite hfy) hcy)
      (sub_ne_nan (ne_nan_of_isFinite hfx) hcx) ?_ ?_ (ticks_ne_zero_of_hypot hdx hdy hpos).symm
    · rw [ticks_sub hsy hcy, ticks_sub hfy hcy, hy]
    · rw [ticks_sub hsx hcx, ticks_sub hfx hcx, hx]
  have hs := withinTurn_angleAround ⟨hcx, hcy⟩ ⟨hsx, hsy⟩
  have hf := withinTurn_angleAround ⟨hcx, hcy⟩ ⟨hfx, hfy⟩
  rw [extremes_eq finish clockwise hpos hr, List.filter_eq_self.mpr, cardinals_eq, List.map_map]
  · rfl
  · intro k _
    exact sweepContains_of_ticks_eq clockwise hs hf (withinTurn_bearing k) hangle

namespace Move

/-- A move around a full circle touches the four cardinal points, so that its box is the square of the
circle, grown by the start where rounding leaves that outside. Such are the moves of all lines with a
target at the position and both offsets, whatever coordinates are measured from. -/
theorem full_circle {start finish center : Point} (clockwise : Bool) (hclosed : start.eq finish)
    (hr : (start.distance center).isFinite) (hpos : (0 : Binary64).lt (start.distance center)) :
    let m : Move := ⟨start, finish, .arc center clockwise⟩
    let radius := start.distance center
    m.extremes = [⟨center.x + radius, center.y⟩, ⟨center.x, center.y + radius⟩,
        ⟨center.x - radius, center.y⟩, ⟨center.x, center.y - radius⟩] ∧
      Box.empty.coverMove m = (Box.mk start start).join (.square center radius) ∧
      ∀ (s : Modal) (line : List Char) (b : Block) (i j : Binary64),
        Block.read? line = some b → b.hasTarget → b.i = some i → b.j = some j →
        (s.applyCodes b.codes).motion = .arc clockwise → s.position = start →
        (s.applyCodes b.codes).target b = finish → start.offset i j = center →
          (s.step line).2 = .moved m b.dropped := by
  intro m radius
  obtain ⟨-, -, hpos⟩ := lt_iff.mp hpos
  have hextremes := Arc.extremes_of_eq clockwise hclosed hr hpos
  refine ⟨hextremes, ?_, ?_⟩
  · obtain ⟨hdx, hdy⟩ := isFinite_of_hypot hr
    obtain ⟨hsx, hcx⟩ := isFinite_of_sub hdx
    obtain ⟨hsy, hcy⟩ := isFinite_of_sub hdy
    have hs : start.Finite := ⟨hsx, hsy⟩
    change (start :: finish :: m.extremes).foldl Box.cover Box.empty = _
    rw [List.foldl_cons, List.foldl_cons, Box.cover_empty hs, Box.cover_of_eq hclosed]
    change (Arc.extremes start finish center clockwise).foldl Box.cover _ = _
    rw [hextremes]
    exact Box.foldl_cover_cardinals hs ⟨hcx, hcy⟩ hr hpos
  · intro s line b i j hread htarget hi hj hmotion hstart hfinish hcenter
    have hpath : (s.applyCodes b.codes).path? b = some (.arc center clockwise) := by
      rw [Modal.path?_eq_arc_iff, Modal.applyCodes_position, hstart]
      exact ⟨hmotion, i, j, hi, hj, hcenter.symm⟩
    unfold Modal.step
    rw [hread]
    unfold Modal.apply
    dsimp only
    rw [if_pos htarget, hpath, hfinish, Modal.applyCodes_position, hstart]

theorem full_circle_signed_zero :
    let start : Point := ⟨5, 0⟩
    let finish : Point := ⟨5, -0⟩
    let m : Move := ⟨start, finish, .arc .origin false⟩
    start.eq finish ∧ (start.distance .origin).isFinite ∧
      (0 : Binary64).lt (start.distance .origin) ∧
      m.extremes = [⟨5, 0⟩, ⟨0, 5⟩, ⟨-5, 0⟩, ⟨0, -5⟩] ∧
      Box.empty.coverMove m = ⟨⟨-5, -5⟩, ⟨5, 5⟩⟩ ∧
      (({ position := start } : Modal).step "G3 Y-0 I-5 J0".toList).2 = .moved m 0 := by
  intro start finish m
  have hclosed : start.eq finish := by decide +kernel
  have hr : (start.distance .origin).isFinite := by decide +kernel
  have hpos : (0 : Binary64).lt (start.distance .origin) := by decide +kernel
  obtain ⟨hextremes, hbox, hlines⟩ := full_circle false hclosed hr hpos
  refine ⟨hclosed, hr, hpos, hextremes.trans (by decide +kernel), hbox.trans (by decide +kernel), ?_⟩
  exact hlines { position := start } _ ⟨[3], none, some (-0), some (-5), some 0, 0⟩ (-5) 0
    (by decide +kernel) rfl rfl rfl (by decide +kernel) rfl (by decide +kernel) (by decide +kernel)

end Move

end Toolpath
