import Toolpath.Proofs.Frame.Printed
import Toolpath.Proofs.Geometry.Circle

/-!
# Frames that overflow

Every word carries a finite number, but the sums that lead to positions and to the extremes of arcs
may pass the largest finite double. The frame is finite exactly where none of the points that were
moved has done so, and exactly then its outline can be scanned: an infinite coordinate is printed as a
word, in which no number is found.
-/

namespace Toolpath

theorem Survey.finite_bounds_iff {s : Survey} (hbox : s.box = .empty)
    (hs : s.state.position.Defined) (ls : List (List Char)) :
    (s.feedAll ls).frame.bounds.Finite ↔ ∀ q ∈ s.state.touched ls, q.Finite := by
  obtain ⟨hnone, hsome⟩ := bounds_feedAll hbox hs ls
  by_cases h : s.state.touched ls = []
  · rw [hnone h, h]
    simp [Box.Finite, Point.Finite, Point.origin]
  · exact (hsome h).finite_iff

theorem Frame.bounds_ofProgram (program : String) : (Frame.ofProgram program).bounds =
    ((Modal.touched {} (lines program.toList)).foldl Box.cover .empty).finalize :=
  congrArg Box.finalize (Survey.box_feedAll {} _)

/-- The frame of a program is finite exactly where no point of its moves has overflowed, and exactly
then a number is read after X and Y in every motion of its outline. -/
theorem frame_finite_iff (program : String) :
    let f := Frame.ofProgram program
    (f.bounds.Finite ↔ ∀ q ∈ Modal.touched {} (lines program.toList), q.Finite) ∧
      (f.bounds.Finite ↔ ∀ c ∈ f.outline.commands, Outline.IsMotion c → Outline.Readable c) := by
  intro f
  constructor
  · exact Survey.finite_bounds_iff (s := {}) rfl Point.defined_origin _
  · exact (Outline.readable_iff f.bounds f.unit).symm

/-- A circle that starts and ends at the origin leads out of the range of doubles on its far side. -/
theorem frame_finite_iff_circle :
    let line := "G3 X0 J0 I1".toList ++ List.replicate 308 '0'
    let f := Frame.ofProgram (String.ofList line)
    let far : Binary64 := .finite false 5010420900022432 2045 (by decide)
    Modal.outcomes {} (lines line) = [.moved ⟨.origin, .origin, .arc ⟨far, 0⟩ false⟩ 0] ∧
      (⟨.infinity false, 0⟩ : Point) ∈ Modal.touched {} (lines line) ∧ ¬f.bounds.Finite ∧
      ¬∀ c ∈ f.outline.commands, Outline.IsMotion c → Outline.Readable c := by
  intro line f far
  have hread : Block.read? line =
      some { codes := [3], x := some 0, i := some far, j := some 0 } := by decide +kernel
  have hlines : lines line = [line] := by decide +kernel
  have hstep : (Modal.step {} line).2 = .moved ⟨.origin, .origin, .arc ⟨far, 0⟩ false⟩ 0 := by
    rw [Modal.step, hread]
    decide +kernel
  have houtcomes : Modal.outcomes {} (lines line) =
      [.moved ⟨.origin, .origin, .arc ⟨far, 0⟩ false⟩ 0] := by
    rw [hlines, Modal.outcomes, hstep, Modal.outcomes]
  -- The root is too long to be computed, but it is that of a square.
  have hradius : Point.distance .origin ⟨far, 0⟩ = far := by
    have hsquare : 2 * far.magnitude * (2 * far.magnitude) =
        4 * ((0 - far).magnitude * (0 - far).magnitude +
          (0 - 0 : Binary64).magnitude * (0 - 0 : Binary64).magnitude) := by decide +kernel
    change Binary64.hypot (0 - far) (0 - 0) = far
    rw [Binary64.hypot_finite (by decide +kernel) (by decide +kernel) hsquare, floorSqrt_mul_self,
      if_pos rfl]
    decide +kernel
  have hextremes : Arc.extremes .origin .origin ⟨far, 0⟩ false =
      (Arc.cardinals ⟨far, 0⟩ far).map (·.1) := by
    have hclosed := @Arc.extremes_of_eq .origin .origin ⟨far, 0⟩ false (by decide +kernel)
      (by rw [hradius]; rfl) (by rw [hradius]; decide +kernel)
    rwa [hradius] at hclosed
  have hfar : (⟨.infinity false, 0⟩ : Point) ∈ Modal.touched {} (lines line) := by
    rw [Modal.touched, houtcomes, List.flatMap_singleton, Outcome.points, hextremes]
    decide +kernel
  obtain ⟨hfinite, hreadable⟩ := frame_finite_iff (String.ofList line)
  rw [String.toList_ofList] at hfinite
  have hinfinite : ¬f.bounds.Finite := fun h ↦ Bool.false_ne_true (hfinite.mp h _ hfar).1
  exact ⟨houtcomes, hfar, hinfinite, hinfinite ∘ hreadable.mpr⟩

/-- Two steps within the range of doubles lead out of it. -/
theorem frame_not_finite_of_two_steps :
    let step := 'X' :: List.replicate 308 '9'
    let f := Frame.ofProgram (String.ofList ("G91\n".toList ++ step ++ '\n' :: step))
    f.bounds.max.x = .infinity false ∧ ¬f.bounds.Finite ∧
      ¬∀ c ∈ f.outline.commands, Outline.IsMotion c → Outline.Readable c := by
  intro step f
  let far : Binary64 := .finite false 5010420900022432 2045 (by decide)
  have hread : Block.read? step = some { x := some far } := by decide +kernel
  have hlines : lines ("G91\n".toList ++ step ++ '\n' :: step) = ["G91".toList, step, step] := by
    decide +kernel
  have hmode : Modal.step {} "G91".toList = ({ distance := .incremental }, .noTarget 0) := by
    decide +kernel
  have hstep (p : Point) : Modal.step { position := p, distance := .incremental } step =
      ({ position := p.offset far 0, distance := .incremental },
        .moved ⟨p, p.offset far 0, .straight⟩ 0) := by
    rw [Modal.step, hread]
    rfl
  have htouched : Modal.touched {} (lines ("G91\n".toList ++ step ++ '\n' :: step)) =
      [.origin, ⟨far, 0⟩, ⟨far, 0⟩, ⟨.infinity false, 0⟩] := by
    rw [hlines, Modal.touched_cons, hmode, Modal.touched_cons, hstep, Modal.touched_cons, hstep]
    decide +kernel
  have hmax : f.bounds.max.x = .infinity false := by
    rw [Frame.bounds_ofProgram, String.toList_ofList, htouched]
    decide +kernel
  have hinfinite : ¬f.bounds.Finite := by
    rintro ⟨-, hx, -⟩
    rw [hmax] at hx
    cases hx
  refine ⟨hmax, hinfinite, ?_⟩
  intro h
  exact hinfinite ((Outline.readable_iff f.bounds f.unit).mp h)

end Toolpath
