import Toolpath.Proofs.Program.Modes

/-!
# The start of a run

Runs that start at different points go through the same modes, and a line leads along each axis by itself.
A coordinate that counts absolutely pins its axis: from that line on the place along the axis no longer
depends on the start. Without such a line it does depend on it, for no line leads back from infinity.
-/

namespace Toolpath

/-- A coordinate axis. -/
inductive Axis where
  | x
  | y
  deriving DecidableEq

def Point.along (p : Point) : Axis → Binary64
  | .x => p.x
  | .y => p.y

theorem Point.eq_of_along {p q : Point} (h : ∀ a, p.along a = q.along a) : p = q := by
  have hx := h .x
  have hy := h .y
  cases p
  cases q
  simp_all [along]

/-- The letter of the coordinates along the axis. -/
def Axis.letter : Axis → Char
  | x => 'X'
  | y => 'Y'

instance (ws : List Word) : Decidable (Word.NamesTarget ws) := inferInstanceAs (Decidable (_ ∨ _))

/-- Where a line of these words leads along the axis. -/
def Axis.advance (a : Axis) (d : Distance) (ws : List Word) (here : Binary64) : Binary64 :=
  let coordinate := (Word.keptOf a.letter ws).getLast?
  if Word.NamesTarget ws then
    match d with
    | .absolute => coordinate.getD here
    | .incremental => here + coordinate.getD 0
  else here

theorem Axis.namesTarget {a : Axis} {ws : List Word} (h : Word.keptOf a.letter ws ≠ []) :
    Word.NamesTarget ws := by
  cases a with
  | x => exact Or.inl h
  | y => exact Or.inr h

theorem Binary64.infinity_add (s : Bool) {b : Binary64} (hb : b.isFinite) :
    infinity s + b = infinity s := by
  obtain ⟨t, n, q, hd, rfl⟩ := exists_finite hb
  rfl

theorem Word.isFinite_of_mem_keptOf {letter : Char} {ws : List Word} {v : Binary64}
    (h : v ∈ keptOf letter ws) : v.isFinite := by
  obtain ⟨w, -, hw⟩ := List.mem_filterMap.mp h
  exact (Option.filter_eq_some_iff.mp hw).2

/-- Without an absolute coordinate a line does not lead back from infinity. -/
theorem Axis.advance_infinity {a : Axis} {d : Distance} {ws : List Word}
    (h : ¬(d = .absolute ∧ Word.keptOf a.letter ws ≠ [])) (s : Bool) :
    a.advance d ws (.infinity s) = .infinity s := by
  unfold advance
  dsimp only
  split
  · cases d with
    | absolute =>
        have hnone : Word.keptOf a.letter ws = [] := by simpa using h
        rw [hnone]
        rfl
    | incremental =>
        refine Binary64.infinity_add s ?_
        cases hlast : (Word.keptOf a.letter ws).getLast? with
        | none => rfl
        | some v => exact Word.isFinite_of_mem_keptOf (List.mem_of_getLast? hlast)
  · rfl

namespace Modal

/-! ## One line -/

theorem along_step (s : Modal) (line : List Char) (a : Axis) :
    (s.step line).1.position.along a =
      a.advance (s.step line).1.distance (Word.ofLine line) (s.position.along a) := by
  unfold Axis.advance
  dsimp only
  rcases s.step_words line with ⟨hnone, -, hstep⟩ | ⟨htarget, hstep, -⟩
  · rw [if_neg hnone, hstep, applyCodes_position]
  · rw [if_pos htarget, hstep]
    dsimp only
    rw [target]
    cases (s.applyCodes (Word.keptOf 'G' (Word.ofLine line))).distance <;> cases a <;>
      simp [Point.along, Axis.letter, Block.ofKept, Point.offset]

/-- The states differ in their positions at most. -/
structure SameModes (s t : Modal) : Prop where
  motion : s.motion = t.motion
  distance : s.distance = t.distance
  unit : s.unit = t.unit

theorem SameModes.run {s t : Modal} (h : s.SameModes t) (ls : List (List Char)) :
    (s.run ls).SameModes (t.run ls) := by
  have hmode {μ : Type} (g : ModeGroup μ) (h : g.mode s = g.mode t) :
      g.mode (s.run ls) = g.mode (t.run ls) := by
    rw [g.mode_run, g.mode_run, h]
  exact ⟨hmode motionGroup h.motion, hmode distanceGroup h.distance, hmode unitGroup h.unit⟩

theorem SameModes.step {s t : Modal} (h : s.SameModes t) (line : List Char) :
    (s.step line).1.SameModes (t.step line).1 :=
  h.run [line]

/-- Coordinates count absolutely on the line, and it has one along the axis. -/
def Pins (s : Modal) (a : Axis) (line : List Char) : Prop :=
  (s.step line).1.distance = .absolute ∧ Word.keptOf a.letter (Word.ofLine line) ≠ []

instance (s : Modal) (a : Axis) (line : List Char) : Decidable (s.Pins a line) :=
  inferInstanceAs (Decidable (_ ∧ _))

theorem Pins.along_step_eq {s t : Modal} {a : Axis} {line : List Char} (h : s.Pins a line)
    (hst : s.SameModes t) : (s.step line).1.position.along a = (t.step line).1.position.along a := by
  rw [along_step, along_step, ← (hst.step line).distance, h.1]
  unfold Axis.advance
  dsimp only
  obtain ⟨v, hv⟩ := Option.isSome_iff_exists.mp (List.getLast?_isSome.mpr h.2)
  rw [if_pos (Axis.namesTarget h.2), if_pos (Axis.namesTarget h.2), hv]
  rfl

/-! ## A run -/

/-- A line of the run pins the axis. -/
def Pinned (s : Modal) (a : Axis) (ls : List (List Char)) : Prop :=
  ∃ before line after, ls = before ++ line :: after ∧ (s.run before).Pins a line

theorem pinned_cons {s : Modal} {a : Axis} {l : List Char} {ls : List (List Char)} :
    s.Pinned a (l :: ls) ↔ s.Pins a l ∨ (s.step l).1.Pinned a ls := by
  constructor
  · rintro ⟨before, line, after, hls, hpins⟩
    cases before with
    | nil =>
        obtain ⟨rfl, -⟩ := List.cons.inj hls
        exact Or.inl hpins
    | cons b before =>
        obtain ⟨rfl, rfl⟩ := List.cons.inj hls
        exact Or.inr ⟨before, line, after, rfl, hpins⟩
  · rintro (hpins | ⟨before, line, after, rfl, hpins⟩)
    · exact ⟨[], l, ls, rfl, hpins⟩
    · exact ⟨l :: before, line, after, rfl, hpins⟩

theorem SameModes.pinned_iff {s t : Modal} (h : s.SameModes t) {a : Axis} {ls : List (List Char)} :
    s.Pinned a ls ↔ t.Pinned a ls := by
  have hpins (before : List (List Char)) (line : List Char) :
      (s.run before).Pins a line ↔ (t.run before).Pins a line := by
    rw [Pins, Pins, ((h.run before).step line).distance]
  simp only [Pinned, hpins]

/-- Places that agree along an axis keep doing so. -/
theorem SameModes.along_run_congr {s t : Modal} (h : s.SameModes t) {a : Axis}
    (hplace : s.position.along a = t.position.along a) (ls : List (List Char)) :
    (s.run ls).position.along a = (t.run ls).position.along a := by
  induction ls generalizing s t with
  | nil => exact hplace
  | cons l ls ih =>
      refine ih (h.step l) ?_
      rw [along_step, along_step, (h.step l).distance, hplace]

/-- After a line that pins the axis the start along it is forgotten. -/
theorem SameModes.along_run_eq {s t : Modal} (h : s.SameModes t) {a : Axis} {ls : List (List Char)}
    (hpinned : s.Pinned a ls) : (s.run ls).position.along a = (t.run ls).position.along a := by
  induction ls generalizing s t with
  | nil =>
      obtain ⟨before, line, after, hls, -⟩ := hpinned
      simp at hls
  | cons l ls ih =>
      rcases pinned_cons.mp hpinned with hpins | hpinned
      · exact (h.step l).along_run_congr (hpins.along_step_eq h) ls
      · exact ih (h.step l) hpinned

/-- Without such a line an infinite start is kept along the axis. -/
theorem along_run_infinity {s : Modal} {a : Axis} {ls : List (List Char)} (hpinned : ¬s.Pinned a ls)
    {negative : Bool} (h : s.position.along a = .infinity negative) :
    (s.run ls).position.along a = .infinity negative := by
  induction ls generalizing s with
  | nil => exact h
  | cons l ls ih =>
      rw [pinned_cons, not_or] at hpinned
      refine ih hpinned.2 ?_
      rw [along_step, h]
      exact Axis.advance_infinity hpinned.1 negative

/-- Runs from different starts agree along an axis, whatever the starts are, exactly if a line has pinned the
axis. Once both axes are pinned the runs are in the same state, and every later line does the same in
both. -/
theorem start_forgotten (s : Modal) (ls : List (List Char)) :
    let start (p : Point) : Modal := { s with position := p }
    (∀ a, s.Pinned a ls ↔
        ∀ p q, ((start p).run ls).position.along a = ((start q).run ls).position.along a) ∧
      ((∀ a, s.Pinned a ls) → ∀ p q, (start p).run ls = (start q).run ls ∧
        ∀ after, ((start p).outcomes (ls ++ after)).drop ls.length =
          ((start q).outcomes (ls ++ after)).drop ls.length) := by
  intro start
  have hmodes (p q : Point) : (start p).SameModes (start q) := ⟨rfl, rfl, rfl⟩
  have hstart (p : Point) (a : Axis) : (start p).Pinned a ls ↔ s.Pinned a ls :=
    (hmodes p s.position).pinned_iff
  have halong {a : Axis} (h : s.Pinned a ls) (p q : Point) :
      ((start p).run ls).position.along a = ((start q).run ls).position.along a :=
    (hmodes p q).along_run_eq ((hstart p a).mpr h)
  refine ⟨fun a ↦ ⟨halong, fun hagree ↦ ?_⟩, fun hpinned p q ↦ ?_⟩
  · -- Starts at infinity on either side would stay apart.
    by_contra hpinned
    have hinfinity (negative : Bool) :
        ((start ⟨.infinity negative, .infinity negative⟩).run ls).position.along a =
          .infinity negative :=
      along_run_infinity ((hstart _ a).not.mpr hpinned) (by cases a <;> rfl)
    have heq := hagree ⟨.infinity false, .infinity false⟩ ⟨.infinity true, .infinity true⟩
    rw [hinfinity, hinfinity] at heq
    cases heq
  · have hrun := (hmodes p q).run ls
    have hstate : (start p).run ls = (start q).run ls :=
      eq_of_modes (Point.eq_of_along fun a ↦ halong (hpinned a) p q) hrun.motion hrun.distance hrun.unit
    refine ⟨hstate, fun after ↦ ?_⟩
    rw [outcomes_append, outcomes_append, hstate, List.drop_left' (length_outcomes _ _),
      List.drop_left' (length_outcomes _ _)]

/-- The axes are pinned on different lines, one of them by an arc without a center. -/
theorem start_forgotten_skipped_arc :
    let ls := ["G91 X1 Y1".toList, "G90 Y2".toList, "G2 X5".toList, "G91 G1 Y1".toList]
    let start (p : Point) : Modal := { position := p }
    (∀ a, Modal.Pinned {} a ls) ∧ ∀ p q, (start p).run ls = (start q).run ls ∧
      ∀ after, ((start p).outcomes (ls ++ after)).drop 4 = ((start q).outcomes (ls ++ after)).drop 4 := by
  intro ls start
  have hpinned : ∀ a, Modal.Pinned {} a ls
    | .x => ⟨["G91 X1 Y1".toList, "G90 Y2".toList], "G2 X5".toList, _, rfl, by decide +kernel⟩
    | .y => ⟨["G91 X1 Y1".toList], "G90 Y2".toList, _, rfl, by decide +kernel⟩
  exact ⟨hpinned, (start_forgotten {} ls).2 hpinned⟩

end Modal

end Toolpath
