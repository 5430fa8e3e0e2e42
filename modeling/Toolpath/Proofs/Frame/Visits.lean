import Toolpath.Proofs.Frame.Reframe
import Toolpath.Proofs.Program.Contiguous

/-!
# Lines that visit points

Some lines of a run move straight to a point, and the others neither move nor skip an arc. Such a run
has the moves of the chain through its points, whatever stands between them, and from any point of a
box that it goes around its frame is that box.
-/

namespace Toolpath

namespace Modal

/-- The moves of a run, in order. -/
def moves (s : Modal) (ls : List (List Char)) : List Move :=
  (s.outcomes ls).filterMap Outcome.move?

/-- From the first state to the last one the lines move straight to the points, one after the other,
and do not move otherwise. -/
inductive Visits : Modal → List (List Char) → List Point → Modal → Prop where
  | done (s : Modal) : Visits s [] [] s
  | still {s t u : Modal} {l : List Char} {o : Outcome} {ls : List (List Char)} {qs : List Point}
      (hstep : s.step l = (t, o)) (hmove : o.move? = none) (harc : o.isSkippedArc = false)
      (hrest : Visits t ls qs u) : Visits s (l :: ls) qs u
  | straight {s t u : Modal} {l : List Char} {q : Point} {dropped : Nat} {ls : List (List Char)}
      {qs : List Point} (hstep : s.step l = (t, .moved ⟨s.position, q, .straight⟩ dropped))
      (hrest : Visits t ls qs u) : Visits s (l :: ls) (q :: qs) u

theorem position_of_step {s t : Modal} {l : List Char} {o : Outcome} (h : s.step l = (t, o)) :
    (o.move? = none → o.isSkippedArc = false → t.position = s.position) ∧
      ∀ m ∈ o.move?, t.position = m.finish := by
  have hposition := position_step s l
  rw [h] at hposition
  cases o <;> simp_all [Outcome.finish?, Outcome.move?, Outcome.isSkippedArc]

theorem step_of_inert {line : List Char} (h : Block.Inert line) (s : Modal) :
    ∃ o : Outcome, s.step line = (s, o) ∧ o.move? = none ∧ o.isSkippedArc = false := by
  rcases step_cases s line with ⟨-, hs⟩ | ⟨b, hread, hcases⟩
  · exact ⟨_, hs, rfl, rfl⟩
  · obtain ⟨hcodes, hx, hy⟩ := h b hread
    have htarget : b.hasTarget = false := by simp [Block.hasTarget, hx, hy]
    rcases hcases with ⟨-, hs⟩ | ⟨hmoved, -⟩ | ⟨hmoved, -⟩
    · rw [hcodes] at hs
      exact ⟨_, hs, rfl, rfl⟩
    · simp [htarget] at hmoved
    · simp [htarget] at hmoved

namespace Visits

variable {s t u : Modal} {ls ms : List (List Char)} {qs rs : List Point}

theorem append (h : Visits s ls qs t) (h' : Visits t ms rs u) :
    Visits s (ls ++ ms) (qs ++ rs) u := by
  induction h with
  | done s => exact h'
  | still hstep hmove harc _ ih => exact .still hstep hmove harc (ih h')
  | straight hstep _ ih => exact .straight hstep (ih h')

theorem of_noTarget {l : List Char} {dropped : Nat} (h : s.step l = (t, .noTarget dropped)) :
    Visits s [l] [] t :=
  .still h rfl rfl (.done t)

theorem of_inert (h : ∀ l ∈ ls, Block.Inert l) (s : Modal) : Visits s ls [] s := by
  induction ls with
  | nil => exact .done s
  | cons l ls ih =>
      obtain ⟨o, hstep, hmove, harc⟩ := step_of_inert (h l List.mem_cons_self) s
      exact .still hstep hmove harc (ih fun m hm ↦ h m (List.mem_cons_of_mem l hm))

theorem run_eq (h : Visits s ls qs t) : s.run ls = t := by
  induction h with
  | done s => rfl
  | still hstep _ _ _ ih => rw [run_cons, hstep, ih]
  | straight hstep _ ih => rw [run_cons, hstep, ih]

theorem not_isSkippedArc (h : Visits s ls qs t) :
    ∀ o ∈ s.outcomes ls, o.isSkippedArc = false := by
  induction h with
  | done s => simp [outcomes]
  | still hstep _ harc _ ih =>
      rw [outcomes_cons, hstep]
      exact List.forall_mem_cons.mpr ⟨harc, ih⟩
  | straight hstep _ ih =>
      rw [outcomes_cons, hstep]
      exact List.forall_mem_cons.mpr ⟨rfl, ih⟩

theorem moves_eq (h : Visits s ls qs t) :
    s.moves ls = (chain s.position qs).filterMap Outcome.move? := by
  unfold moves
  -- The chain goes on from the position that the first line leaves.
  induction h with
  | done s => rfl
  | still hstep hmove harc _ ih =>
      rw [outcomes_cons, hstep, List.filterMap_cons_none hmove, ih,
        (position_of_step hstep).1 hmove harc]
  | @straight s t u l q dropped ls qs hstep _ ih =>
      rw [outcomes_cons, hstep]
      change ⟨s.position, q, .straight⟩ :: (t.outcomes ls).filterMap Outcome.move? = _
      rw [ih, (position_of_step hstep).2 _ rfl]
      rfl

theorem mem_touched_iff (h : Visits s ls qs t) (hne : qs ≠ []) {r : Point} :
    r ∈ s.touched ls ↔ r = s.position ∨ r ∈ qs := by
  have hpoints (os : List Outcome) :
      os.flatMap Outcome.points = (os.filterMap Outcome.move?).flatMap Move.points := by
    induction os with
    | nil => rfl
    | cons o os ih =>
        cases o with
        | moved m n => simp [Outcome.move?, ih]
        | _ => simp [Outcome.points, Outcome.move?, List.filterMap_cons, ih]
  rw [touched, hpoints, ← moves, h.moves_eq, ← hpoints, mem_points_chain hne]

end Visits

end Modal

theorem Survey.frame_of_visits {c : Box} (hc : c.Ordered) {p : Point} (hp : c.Contains p)
    {back : Option Point} (hback : ∀ q ∈ back, q.Defined) {ls : List (List Char)} {t : Modal}
    (h : Modal.Visits { position := p } ls (c.corners ++ back.toList) t) :
    let f := ((startingAt p).feedAll ls).frame
    f.unit = t.unit ∧ f.tally.skippedArcs = 0 ∧ f.bounds.Same (back.elim c c.cover) := by
  intro f
  refine ⟨?_, ?_, ?_⟩
  · change (feedAll _ _).state.unit = _
    rw [state_feedAll, startingAt, h.run_eq]
  · change (feedAll _ _).tally.skippedArcs = 0
    rw [tally_feedAll, foldl_count Tally.skippedArcs (fun _ _ ↦ rfl), List.sum_eq_zero]
    · rfl
    · intro n hn
      obtain ⟨o, ho, rfl⟩ := List.mem_map.mp hn
      rw [h.not_isSkippedArc o ho]
      rfl
  · exact same_bounds hc hp back hback fun r ↦ h.mem_touched_iff (by simp [Box.corners])

end Toolpath
