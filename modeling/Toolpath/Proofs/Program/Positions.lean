import Toolpath.Proofs.Geometry.Extent
import Toolpath.Proofs.Number.Arithmetic
import Toolpath.Program.Modal

/-!
# The positions of a run

Words carry finite numbers only. Sums with finite numbers may reach an infinity but never lose it,
so no position of a run is absent. The radius of an arc is checked before its extremes are formed,
which leaves finite terms for every one of them.
-/

namespace Toolpath

/-! ## Values of a block -/

theorem Numeral.isFinite_of_value? {n : Numeral} {v : Binary64} (h : n.value? = some v) :
    v.isFinite :=
  (Option.filter_eq_some_iff.mp h).2

/-- Every coordinate and offset of the block is finite. -/
structure Block.Finite (b : Block) : Prop where
  x : ∀ v ∈ b.x, v.isFinite
  y : ∀ v ∈ b.y, v.isFinite
  i : ∀ v ∈ b.i, v.isFinite
  j : ∀ v ∈ b.j, v.isFinite

namespace Block

theorem finite_empty : Finite {} := by
  constructor <;> simp

theorem Finite.add {b : Block} (hb : b.Finite) (w : Word) : (b.add w).Finite := by
  unfold Block.add
  split
  next => exact ⟨hb.x, hb.y, hb.i, hb.j⟩
  next v hv =>
    have hfin : ∀ u ∈ some v, u.isFinite := by
      intro u hu
      obtain rfl := Option.mem_some.mp hu
      exact Numeral.isFinite_of_value? hv
    split
    · exact ⟨hb.x, hb.y, hb.i, hb.j⟩
    · exact ⟨hfin, hb.y, hb.i, hb.j⟩
    · exact ⟨hb.x, hfin, hb.i, hb.j⟩
    · exact ⟨hb.x, hb.y, hfin, hb.j⟩
    · exact ⟨hb.x, hb.y, hb.i, hfin⟩
    · exact hb

theorem finite_ofWords (ws : List Word) : (ofWords ws).Finite := by
  unfold ofWords
  induction ws using List.reverseRecOn with
  | nil => exact finite_empty
  | append_singleton ws w ih =>
      rw [List.foldl_append]
      exact ih.add w

theorem finite_of_read? {line : List Char} {b : Block} (h : read? line = some b) : b.Finite := by
  unfold read? at h
  dsimp only at h
  split at h
  · cases h
  · obtain rfl := Option.some.inj h
    exact finite_ofWords _

end Block

/-! ## What a line does -/

namespace Modal

@[simp] theorem applyCode_position (s : Modal) (code : Nat) :
    (s.applyCode code).position = s.position := by
  unfold applyCode
  split <;> rfl

@[simp] theorem applyValue_position (s : Modal) (v : Binary64) :
    (s.applyValue v).position = s.position := by
  unfold applyValue
  split
  · exact applyCode_position s _
  · rfl

@[simp] theorem applyCodes_position (s : Modal) (vs : List Binary64) :
    (s.applyCodes vs).position = s.position := by
  unfold applyCodes
  induction vs generalizing s with
  | nil => rfl
  | cons v vs ih => rw [List.foldl_cons, ih, applyValue_position]

@[simp] theorem outcomes_cons (s : Modal) (l : List Char) (ls : List (List Char)) :
    s.outcomes (l :: ls) = (s.step l).2 :: (s.step l).1.outcomes ls := rfl

@[simp] theorem run_cons (s : Modal) (l : List Char) (ls : List (List Char)) :
    s.run (l :: ls) = (s.step l).1.run ls := rfl

theorem length_outcomes (s : Modal) (ls : List (List Char)) :
    (s.outcomes ls).length = ls.length := by
  induction ls generalizing s with
  | nil => rfl
  | cons l ls ih => exact congrArg (· + 1) (ih _)

/-- A line is blank, or names no target, or moves, or skips an arc. -/
theorem step_cases (s : Modal) (line : List Char) :
    (Block.read? line = none ∧ s.step line = (s, .blank)) ∨
      ∃ b, Block.read? line = some b ∧
        ((b.hasTarget = false ∧ s.step line = (s.applyCodes b.codes, .noTarget b.dropped)) ∨
          (b.hasTarget = true ∧ ∃ path, (s.applyCodes b.codes).path? b = some path ∧
            s.step line =
              ({ s.applyCodes b.codes with position := (s.applyCodes b.codes).target b },
                .moved ⟨s.position, (s.applyCodes b.codes).target b, path⟩ b.dropped)) ∨
          (b.hasTarget = true ∧ (s.applyCodes b.codes).path? b = none ∧
            s.step line =
              ({ s.applyCodes b.codes with position := (s.applyCodes b.codes).target b },
                .skippedArc ((s.applyCodes b.codes).target b) b.dropped))) := by
  unfold step
  cases hread : Block.read? line with
  | none => exact Or.inl ⟨rfl, rfl⟩
  | some b =>
      refine Or.inr ⟨b, rfl, ?_⟩
      cases htarget : b.hasTarget with
      | false => exact Or.inl ⟨rfl, by simp [apply, htarget]⟩
      | true =>
          cases hpath : (s.applyCodes b.codes).path? b with
          | some path => exact Or.inr (Or.inl ⟨rfl, path, rfl, by simp [apply, htarget, hpath]⟩)
          | none => exact Or.inr (Or.inr ⟨rfl, rfl, by simp [apply, htarget, hpath]⟩)

theorem defined_target {s : Modal} (hs : s.position.Defined) {b : Block} (hb : b.Finite) :
    (s.target b).Defined := by
  have habsolute {v : Option Binary64} {u : Binary64} (hv : ∀ w ∈ v, w.isFinite) (hu : u ≠ .nan) :
      v.getD u ≠ .nan := by
    cases v with
    | none => exact hu
    | some w => exact Binary64.ne_nan_of_isFinite (hv w rfl)
  have hincremental {v : Option Binary64} (hv : ∀ w ∈ v, w.isFinite) : (v.getD 0).isFinite := by
    cases v with
    | none => rfl
    | some w => exact hv w rfl
  unfold target
  split
  · exact ⟨habsolute hb.x hs.1, habsolute hb.y hs.2⟩
  · exact ⟨Binary64.add_ne_nan hs.1 (hincremental hb.x),
      Binary64.add_ne_nan hs.2 (hincremental hb.y)⟩

theorem defined_step {s : Modal} (hs : s.position.Defined) (line : List Char) :
    (s.step line).1.position.Defined := by
  rcases step_cases s line with ⟨-, h⟩ | ⟨b, hb, ⟨-, h⟩ | ⟨-, path, -, h⟩ | ⟨-, -, h⟩⟩
  · rw [h]
    exact hs
  · rw [h]
    simpa using hs
  · rw [h]
    exact defined_target (by simpa using hs) (Block.finite_of_read? hb)
  · rw [h]
    exact defined_target (by simpa using hs) (Block.finite_of_read? hb)

theorem defined_of_moved {s : Modal} (hs : s.position.Defined) {ls : List (List Char)} {m : Move}
    {n : Nat} (h : .moved m n ∈ s.outcomes ls) : m.start.Defined ∧ m.finish.Defined := by
  induction ls generalizing s with
  | nil => simp [outcomes] at h
  | cons l ls ih =>
      rcases List.mem_cons.mp h with h | h
      · rcases step_cases s l with ⟨-, hl⟩ | ⟨b, hb, ⟨-, hl⟩ | ⟨-, path, -, hl⟩ | ⟨-, -, hl⟩⟩
        · simp [hl] at h
        · simp [hl] at h
        · rw [hl] at h
          obtain ⟨rfl, -⟩ := Outcome.moved.inj h
          exact ⟨hs, defined_target (by simpa using hs) (Block.finite_of_read? hb)⟩
        · simp [hl] at h
      · exact ih (defined_step hs l) h

end Modal

/-! ## The points of a move -/

/-- The extremes of an arc are never absent, whatever its ends and its center are. -/
theorem Arc.defined_of_mem_extremes {start finish center p : Point} {clockwise : Bool}
    (h : p ∈ Arc.extremes start finish center clockwise) : p.Defined := by
  unfold Arc.extremes at h
  dsimp only at h
  split at h
  · simp at h
  next hr =>
    have hradius : (start.distance center).isFinite := by
      rw [Bool.or_eq_true] at hr
      simpa using fun hn ↦ hr (Or.inr hn)
    have hsub := Binary64.isFinite_of_hypot hradius
    have hx := Binary64.ne_nan_of_isFinite (Binary64.isFinite_of_sub hsub.1).2
    have hy := Binary64.ne_nan_of_isFinite (Binary64.isFinite_of_sub hsub.2).2
    obtain ⟨c, hc, rfl⟩ := List.mem_map.mp h
    have hc := List.mem_of_mem_filter hc
    simp only [Arc.cardinals, List.mem_cons, List.not_mem_nil, or_false] at hc
    rcases hc with rfl | rfl | rfl | rfl
    · exact ⟨Binary64.add_ne_nan hx hradius, hy⟩
    · exact ⟨hx, Binary64.add_ne_nan hy hradius⟩
    · exact ⟨Binary64.sub_ne_nan hx hradius, hy⟩
    · exact ⟨hx, Binary64.sub_ne_nan hy hradius⟩

theorem Move.defined_of_mem_points {m : Move} (hs : m.start.Defined) (hf : m.finish.Defined)
    {p : Point} (hp : p ∈ m.points) : p.Defined := by
  unfold Move.points at hp
  rcases List.mem_cons.mp hp with rfl | hp
  · exact hs
  · rcases List.mem_cons.mp hp with rfl | hp
    · exact hf
    · unfold Move.extremes at hp
      split at hp
      · simp at hp
      · exact Arc.defined_of_mem_extremes hp

end Toolpath
