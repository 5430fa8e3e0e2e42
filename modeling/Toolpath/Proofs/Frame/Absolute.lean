import Toolpath.Frame.Survey
import Toolpath.Proofs.Number.Whole
import Toolpath.Proofs.Program.Contiguous

/-!
# Absolute forms

A toolpath may be written with absolute coordinates only: every target is replaced by the point that
it stands for, and the codes that say what coordinates are measured from are left out. Offsets count
from the start of an arc in both forms. The absolute form, run with absolute coordinates, goes through
the same states but for the distance and does the same on every line.
-/

namespace Toolpath

/-- The double says what coordinates are measured from. -/
def Binary64.IsDistanceCode (v : Binary64) : Prop := v.eq 90 ∨ v.eq 91

instance (v : Binary64) : Decidable v.IsDistanceCode := inferInstanceAs (Decidable (_ ∨ _))

namespace Block

/-- The block with the point as its target. -/
def toward (b : Block) : Option Point → Block
  | some p => { b with x := some p.x, y := some p.y }
  | none => b

/-- The block without the codes that say what coordinates are measured from, and with the point that
it leads to as its target. -/
def absolute (b : Block) (finish? : Option Point) : Block :=
  { b with codes := b.codes.filter fun v ↦ ¬v.IsDistanceCode }.toward finish?

end Block

namespace Modal

def inAbsolute (s : Modal) : Modal := { s with distance := .absolute }

/-! ## Codes -/

theorem inAbsolute_applyCode (s : Modal) (n : Nat) : (s.applyCode n).inAbsolute =
    if n = 90 ∨ n = 91 then s.inAbsolute else s.inAbsolute.applyCode n := by
  unfold applyCode
  split <;> simp_all [inAbsolute]

theorem isDistanceCode_iff {v : Binary64} :
    v.IsDistanceCode ↔ v.code? = some 90 ∨ v.code? = some 91 :=
  or_congr (Binary64.code?_eq_some_iff (by decide)).symm
    (Binary64.code?_eq_some_iff (by decide)).symm

theorem inAbsolute_applyValue (s : Modal) (v : Binary64) : (s.applyValue v).inAbsolute =
    if v.IsDistanceCode then s.inAbsolute else s.inAbsolute.applyValue v := by
  unfold applyValue
  cases hv : v.code? with
  | none => rw [if_neg (by simp [isDistanceCode_iff, hv])]
  | some n => simp only [isDistanceCode_iff, hv, Option.some.injEq, inAbsolute_applyCode]

theorem inAbsolute_applyCodes (s : Modal) (vs : List Binary64) : (s.applyCodes vs).inAbsolute =
    s.inAbsolute.applyCodes (vs.filter fun v ↦ ¬v.IsDistanceCode) := by
  induction vs generalizing s with
  | nil => rfl
  | cons v vs ih =>
      change ((s.applyValue v).applyCodes vs).inAbsolute = _
      rw [ih, inAbsolute_applyValue]
      by_cases hv : v.IsDistanceCode
      · rw [if_pos hv, List.filter_cons_of_neg (by simpa using hv)]
      · rw [if_neg hv, List.filter_cons_of_pos (by simpa using hv)]
        rfl

/-! ## One block -/

theorem finish?_apply (s : Modal) (b : Block) : (s.apply b).2.finish? =
    if b.hasTarget then some ((s.applyCodes b.codes).target b) else none := by
  unfold apply
  dsimp only
  split
  · split <;> rfl
  · rfl

theorem applyCodes_absolute (s : Modal) (b : Block) (finish? : Option Point) :
    s.inAbsolute.applyCodes (b.absolute finish?).codes = (s.applyCodes b.codes).inAbsolute := by
  rw [inAbsolute_applyCodes]
  cases finish? <;> rfl

theorem target_inAbsolute (s : Modal) (b : Block) (p : Point) :
    s.inAbsolute.target (b.absolute (some p)) = p := rfl

theorem path?_inAbsolute (s : Modal) (b : Block) (finish? : Option Point) :
    s.inAbsolute.path? (b.absolute finish?) = s.path? b := by
  cases finish? <;> rfl

/-- The absolute form of a block does the same and leaves the same state but for the distance. -/
theorem apply_absolute (s : Modal) (b : Block) :
    s.inAbsolute.apply (b.absolute (s.apply b).2.finish?) =
      ((s.apply b).1.inAbsolute, (s.apply b).2) := by
  rw [finish?_apply]
  unfold apply
  dsimp only
  rw [applyCodes_absolute, path?_inAbsolute]
  by_cases htarget : b.hasTarget
  · -- Both coordinates of the new target are given, so no axis is left where it was.
    have habsolute : (b.absolute (some ((s.applyCodes b.codes).target b))).hasTarget := rfl
    rw [if_pos htarget, if_pos habsolute, if_pos htarget, target_inAbsolute]
    rfl
  · have habsolute : ¬(b.absolute none).hasTarget := htarget
    rw [if_neg htarget, if_neg habsolute, if_neg htarget]
    rfl

/-! ## A run of blocks -/

/-- The state after each block, with what the block did. -/
def results (s : Modal) : List Block → List (Modal × Outcome)
  | [] => []
  | b :: bs => s.apply b :: (s.apply b).1.results bs

/-- The absolute forms of blocks. Each target is the point that the blocks lead to from the state. -/
def absoluteForm (s : Modal) : List Block → List Block
  | [] => []
  | b :: bs => b.absolute (s.apply b).2.finish? :: (s.apply b).1.absoluteForm bs

theorem results_absoluteForm (s : Modal) (bs : List Block) :
    s.inAbsolute.results (s.absoluteForm bs) =
      (s.results bs).map fun r ↦ (r.1.inAbsolute, r.2) := by
  induction bs generalizing s with
  | nil => rfl
  | cons b bs ih => rw [absoluteForm, results, results, apply_absolute, ih, List.map_cons]

end Modal

/-! ## Frames -/

namespace Survey

def take (s : Survey) (b : Block) : Survey where
  state := (s.state.apply b).1
  box := s.box.coverOutcome (s.state.apply b).2
  tally := s.tally.count (s.state.apply b).2

def takeAll (s : Survey) (bs : List Block) : Survey := bs.foldl take s

theorem feed_of_read? {line : List Char} {b : Block} (h : Block.read? line = some b) (s : Survey) :
    s.feed line = s.take b := by
  unfold feed Modal.step
  rw [h]
  rfl

theorem feedAll_of_read? {ls : List (List Char)} {bs : List Block}
    (h : ls.map Block.read? = bs.map some) (s : Survey) : s.feedAll ls = s.takeAll bs := by
  induction ls generalizing s bs with
  | nil =>
      obtain rfl := List.map_eq_nil_iff.mp h.symm
      rfl
  | cons l ls ih =>
      cases bs with
      | nil => cases h
      | cons b bs =>
          obtain ⟨hl, hls⟩ := List.cons.inj h
          change (s.feed l).feedAll ls = (s.take b).takeAll bs
          rw [feed_of_read? hl, ih hls]

/-- The survey with absolute coordinates. Its frame is the same. -/
def inAbsolute (s : Survey) : Survey := { s with state := s.state.inAbsolute }

theorem take_absolute (s : Survey) (b : Block) :
    s.inAbsolute.take (b.absolute (s.state.apply b).2.finish?) = (s.take b).inAbsolute := by
  have happly : s.inAbsolute.state.apply (b.absolute (s.state.apply b).2.finish?) =
      ((s.state.apply b).1.inAbsolute, (s.state.apply b).2) := Modal.apply_absolute s.state b
  unfold take
  rw [happly]
  rfl

theorem takeAll_absoluteForm (s : Survey) (bs : List Block) :
    s.inAbsolute.takeAll (s.state.absoluteForm bs) = (s.takeAll bs).inAbsolute := by
  induction bs generalizing s with
  | nil => rfl
  | cons b bs ih =>
      change (s.inAbsolute.take (b.absolute (s.state.apply b).2.finish?)).takeAll _ = _
      rw [take_absolute]
      exact ih (s.take b)

/-- A toolpath and its absolute form do the same on every line and go through the same states but for
the distance, which stays absolute. Their frames are the same, and so are those of two programs whose
lines are read as the one and the other. -/
theorem absoluteForm_agrees (s : Survey) (bs : List Block) :
    let form := s.state.absoluteForm bs
    (s.state.inAbsolute.results form =
        (s.state.results bs).map fun r ↦ (r.1.inAbsolute, r.2)) ∧
      (s.inAbsolute.takeAll form).frame = (s.takeAll bs).frame ∧
      ∀ ls ms, ls.map Block.read? = bs.map some → ms.map Block.read? = form.map some →
        (s.inAbsolute.feedAll ms).frame = (s.feedAll ls).frame := by
  intro form
  have hframe : (s.inAbsolute.takeAll form).frame = (s.takeAll bs).frame := by
    rw [takeAll_absoluteForm]
    rfl
  refine ⟨Modal.results_absoluteForm s.state bs, hframe, fun ls ms hls hms ↦ ?_⟩
  rw [feedAll_of_read? hls, feedAll_of_read? hms, hframe]

theorem absoluteForm_agrees_mixed :
    let bs : List Block := [{ codes := [91, 2], x := some 4, i := some 2, j := some 0 },
      { codes := [90, 1], y := some 3 }, { codes := [91], x := some 1, y := some 1 }]
    let ls := ["G91 G2 X4 I2 J0".toList, "G90 G1 Y3".toList, "G91 X1 Y1".toList]
    let ms := ["G2 X4 Y0 I2 J0".toList, "G1 X4 Y3".toList, "X5 Y4".toList]
    ls.map Block.read? = bs.map some ∧ ms.map Block.read? = (Modal.absoluteForm {} bs).map some ∧
      ((inAbsolute {}).feedAll ms).frame = (feedAll {} ls).frame := by
  intro bs ls ms
  have hls : ls.map Block.read? = bs.map some := by decide +kernel
  have hms : ms.map Block.read? = (Modal.absoluteForm {} bs).map some := by decide +kernel
  exact ⟨hls, hms, (absoluteForm_agrees {} bs).2.2 ls ms hls hms⟩

end Survey

end Toolpath
