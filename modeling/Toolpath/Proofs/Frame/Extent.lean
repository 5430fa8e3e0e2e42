import Toolpath.Frame.Event
import Toolpath.Proofs.Program.Positions

/-!
# Frames are extents

The box of a survey covers the points of all moves of the run and nothing else, so the frame is their
extent. A program that moves has a frame with ordered bounds, and one that does not move has the
origin alone; the tally, the box and the log agree on which of the two it is.
-/

namespace Toolpath

namespace Outcome

/-- The points that bound what a line did: the ends of its move and, if that is an arc, its extremes.
A line that does not move has none. -/
def points : Outcome → List Point
  | moved ⟨start, finish, .straight⟩ _ => [start, finish]
  | moved ⟨start, finish, .arc center clockwise⟩ _ =>
    start :: finish :: Arc.extremes start finish center clockwise
  | _ => []

/-- The same points are put into the box. -/
@[simp] theorem points_moved (m : Move) (n : Nat) : (moved m n).points = m.points := by
  obtain ⟨start, finish, path⟩ := m
  cases path <;> rfl

end Outcome

namespace Modal

/-- The points that bound the moves of a run, in order. -/
def touched (s : Modal) (ls : List (List Char)) : List Point :=
  (s.outcomes ls).flatMap Outcome.points

/-- The positions before the first line and after every line. -/
def visited (s : Modal) : List (List Char) → List Point
  | [] => [s.position]
  | l :: ls => s.position :: (s.step l).1.visited ls

@[simp] theorem touched_nil (s : Modal) : s.touched [] = [] := rfl

@[simp] theorem touched_cons (s : Modal) (l : List Char) (ls : List (List Char)) :
    s.touched (l :: ls) = (s.step l).2.points ++ (s.step l).1.touched ls := rfl

theorem defined_of_mem_touched {s : Modal} (hs : s.position.Defined) {ls : List (List Char)}
    {p : Point} (hp : p ∈ s.touched ls) : p.Defined := by
  obtain ⟨o, ho, hpo⟩ := List.mem_flatMap.mp hp
  cases o with
  | blank => simp [Outcome.points] at hpo
  | noTarget n => simp [Outcome.points] at hpo
  | skippedArc t n => simp [Outcome.points] at hpo
  | moved m n =>
      obtain ⟨hstart, hfinish⟩ := defined_of_moved hs ho
      rw [Outcome.points_moved] at hpo
      exact Move.defined_of_mem_points hstart hfinish hpo

theorem touched_eq_nil_iff (s : Modal) (ls : List (List Char)) :
    s.touched ls = [] ↔ (s.outcomes ls).countP Outcome.isMove = 0 := by
  rw [touched, List.flatMap_eq_nil_iff, List.countP_eq_zero]
  refine forall₂_congr fun o _ ↦ ?_
  cases o with
  | moved m n => simp [Outcome.isMove, Move.points]
  | _ => simp [Outcome.points, Outcome.isMove]

/-! ## Straight runs -/

theorem position_mem_visited (s : Modal) (ls : List (List Char)) : s.position ∈ s.visited ls := by
  cases ls <;> exact List.mem_cons_self

/-- A run without moves and without skipped arcs stays where it is. -/
theorem eq_position_of_mem_visited {s : Modal} {ls : List (List Char)}
    (h : ∀ o ∈ s.outcomes ls, o.isMove = false ∧ o.isSkippedArc = false) {q : Point}
    (hq : q ∈ s.visited ls) : q = s.position := by
  induction ls generalizing s with
  | nil => exact List.mem_singleton.mp hq
  | cons l ls ih =>
      have hl := h _ List.mem_cons_self
      rcases List.mem_cons.mp hq with rfl | hq
      · rfl
      · have hrest := ih (fun o ho ↦ h o (List.mem_cons_of_mem _ ho)) hq
        rcases step_cases s l with ⟨-, hs⟩ | ⟨b, -, ⟨-, hs⟩ | ⟨-, path, -, hs⟩ | ⟨-, -, hs⟩⟩
        · rwa [hs] at hrest
        · rw [hs] at hrest
          simpa using hrest
        · simp [hs, Outcome.isMove] at hl
        · simp [hs, Outcome.isSkippedArc] at hl

theorem mem_visited_cons_iff {s : Modal} {l : List Char} {ls : List (List Char)} {q : Point}
    (h : (s.step l).1.position = s.position) :
    q ∈ s.visited (l :: ls) ↔ q ∈ (s.step l).1.visited ls := by
  constructor
  · intro hq
    rcases List.mem_cons.mp hq with rfl | hq
    · rw [← h]
      exact position_mem_visited _ _
    · exact hq
  · exact List.mem_cons_of_mem _

/-- A run whose lines move straight or not at all touches the positions that it visits, once it
moves. -/
theorem mem_touched_iff_of_straight {s : Modal} {ls : List (List Char)}
    (h : ∀ o ∈ s.outcomes ls, o.isArc = false ∧ o.isSkippedArc = false) {q : Point} :
    q ∈ s.touched ls ↔ (∃ o ∈ s.outcomes ls, o.isMove) ∧ q ∈ s.visited ls := by
  induction ls generalizing s with
  | nil => simp [outcomes]
  | cons l ls ih =>
      have hl := h _ List.mem_cons_self
      have htail : ∀ o ∈ (s.step l).1.outcomes ls, o.isArc = false ∧ o.isSkippedArc = false :=
        fun o ho ↦ h o (List.mem_cons_of_mem _ ho)
      rw [touched_cons, List.mem_append, ih htail, outcomes, List.exists_mem_cons_iff]
      rcases step_cases s l with ⟨-, hs⟩ | ⟨b, -, ⟨-, hs⟩ | ⟨-, path, -, hs⟩ | ⟨-, -, hs⟩⟩
      · rw [mem_visited_cons_iff (by rw [hs])]
        simp [hs, Outcome.points, Outcome.isMove]
      · rw [mem_visited_cons_iff (by simp [hs])]
        simp [hs, Outcome.points, Outcome.isMove]
      · cases path with
        | arc center clockwise => simp [hs, Outcome.isArc, Move.isArc] at hl
        | straight =>
            have hmem := position_mem_visited (s.step l).1 ls
            have hpoints : q ∈ (s.step l).2.points ↔
                q = s.position ∨ q = (s.step l).1.position := by
              simp [hs, Outcome.points]
            have hmove : (s.step l).2.isMove = true := by simp [hs, Outcome.isMove]
            have hstay : (¬∃ o ∈ (s.step l).1.outcomes ls, o.isMove) → q ∈ (s.step l).1.visited ls →
                q = (s.step l).1.position := by
              intro hno
              refine eq_position_of_mem_visited fun o ho ↦ ⟨?_, (htail o ho).2⟩
              by_contra hmove
              exact hno ⟨o, ho, by simpa using hmove⟩
            rw [visited, List.mem_cons, hpoints]
            generalize (s.step l).1 = t at hmem hstay hpoints ⊢
            constructor
            · rintro ((rfl | rfl) | ⟨-, hq⟩)
              · exact ⟨Or.inl hmove, Or.inl rfl⟩
              · exact ⟨Or.inl hmove, Or.inr hmem⟩
              · exact ⟨Or.inl hmove, Or.inr hq⟩
            · rintro ⟨-, rfl | hq⟩
              · exact Or.inl (Or.inl rfl)
              · by_cases hsome : ∃ o ∈ t.outcomes ls, o.isMove
                · exact Or.inr ⟨hsome, hq⟩
                · exact Or.inl (Or.inr (hstay hsome hq))
      · simp [hs, Outcome.isSkippedArc] at hl

end Modal

/-! ## The box and the tally of a survey -/

namespace Survey

theorem state_feedAll (s : Survey) (ls : List (List Char)) :
    (s.feedAll ls).state = s.state.run ls := by
  induction ls generalizing s with
  | nil => rfl
  | cons l ls ih => exact ih (s.feed l)

theorem coverOutcome_eq_foldl (b : Box) (o : Outcome) :
    b.coverOutcome o = o.points.foldl Box.cover b := by
  cases o with
  | moved m n =>
      rw [Outcome.points_moved]
      rfl
  | _ => rfl

theorem box_feedAll (s : Survey) (ls : List (List Char)) :
    (s.feedAll ls).box = (s.state.touched ls).foldl Box.cover s.box := by
  induction ls generalizing s with
  | nil => rfl
  | cons l ls ih =>
      rw [Modal.touched_cons, List.foldl_append, ← coverOutcome_eq_foldl]
      exact ih (s.feed l)

theorem tally_feedAll (s : Survey) (ls : List (List Char)) :
    (s.feedAll ls).tally = (s.state.outcomes ls).foldl Tally.count s.tally := by
  induction ls generalizing s with
  | nil => rfl
  | cons l ls ih => exact ih (s.feed l)

/-- A count that grows by what each outcome adds grows by their sum. -/
theorem foldl_count (count : Tally → Nat) {add : Outcome → Nat}
    (h : ∀ t o, count (t.count o) = count t + add o) (t : Tally) (os : List Outcome) :
    count (os.foldl Tally.count t) = count t + (os.map add).sum := by
  induction os generalizing t with
  | nil => rfl
  | cons o os ih =>
      rw [List.foldl_cons, ih, h, List.map_cons, List.sum_cons]
      omega

theorem bounds_feedAll {s : Survey} (hbox : s.box = .empty) (hs : s.state.position.Defined)
    (ls : List (List Char)) :
    (s.state.touched ls = [] → (s.feedAll ls).frame.bounds = ⟨.origin, .origin⟩) ∧
      (s.state.touched ls ≠ [] → (s.feedAll ls).frame.bounds.IsExtent (s.state.touched ls)) := by
  change (_ → (s.feedAll ls).box.finalize = _) ∧ (_ → (s.feedAll ls).box.finalize.IsExtent _)
  rw [box_feedAll, hbox]
  constructor
  · intro h
    rw [h, List.foldl_nil, Box.finalize, Box.isEmpty_empty]
    rfl
  · intro h
    have hextent := Box.isExtent_foldl_cover h fun p ↦ Modal.defined_of_mem_touched hs
    rw [Box.finalize, Box.isEmpty_eq_false hextent.ordered]
    exact hextent

theorem isEmpty_box_feedAll {s : Survey} (hbox : s.box = .empty) (hs : s.state.position.Defined)
    (ls : List (List Char)) : (s.feedAll ls).box.isEmpty = true ↔ s.state.touched ls = [] := by
  rw [box_feedAll, hbox]
  constructor
  · intro h
    by_contra hne
    have hextent := Box.isExtent_foldl_cover hne fun p ↦ Modal.defined_of_mem_touched hs
    rw [Box.isEmpty_eq_false hextent.ordered] at h
    cases h
  · intro h
    rw [h]
    exact Box.isEmpty_empty

end Survey

/-- The bounds of a frame are the extent of everything that was moved. Every point of a move lies
inside and every side is attained; where nothing moved the bounds are the origin alone. If all moves
are straight, what was moved is what was visited. -/
theorem frame_bounds_isExtent {p : Point} (hp : p.Defined) (ls : List (List Char)) :
    let start : Modal := { position := p }
    let bounds := ((Survey.startingAt p).feedAll ls).frame.bounds
    (start.touched ls = [] → bounds = ⟨.origin, .origin⟩) ∧
      (start.touched ls ≠ [] → bounds.IsExtent (start.touched ls)) ∧
      ((∀ o ∈ start.outcomes ls, o.isArc = false ∧ o.isSkippedArc = false) →
        ∀ q, q ∈ start.touched ls ↔ (∃ o ∈ start.outcomes ls, o.isMove) ∧ q ∈ start.visited ls) := by
  obtain ⟨hnone, hsome⟩ := Survey.bounds_feedAll (s := .startingAt p) rfl hp ls
  exact ⟨hnone, hsome, fun h q ↦ Modal.mem_touched_iff_of_straight h⟩

/-- Only the extreme of a half circle reaches above its ends, and the box goes up to it. -/
theorem frame_bounds_isExtent_half_circle :
    let p : Point := ⟨5, 0⟩
    let north : Point := ⟨0, 5⟩
    let ls := ["G3 X-5 Y0 I-5 J0".toList, "G2 X1".toList]
    let touched := Modal.touched { position := p } ls
    let bounds := ((Survey.startingAt p).feedAll ls).frame.bounds
    p.Defined ∧ touched ≠ [] ∧ bounds.IsExtent touched ∧ north ∈ touched ∧
      (∀ q ∈ touched, q ≠ north → q.y.le 0) ∧ bounds.Contains north ∧ bounds.max.y = 5 := by
  intro p north ls touched bounds
  have hp : p.Defined := by decide +kernel
  have hnorth : north ∈ touched := by decide +kernel
  have hmoved : touched ≠ [] := List.ne_nil_of_mem hnorth
  have hextent := (frame_bounds_isExtent hp ls).2.1 hmoved
  exact ⟨hp, hmoved, hextent, hnorth, by decide +kernel, hextent.contains north hnorth,
    by decide +kernel⟩

/-! ## Whole programs -/

theorem Survey.ordered_bounds_feedAll {s : Survey} (hbox : s.box = .empty)
    (hs : s.state.position.Defined) (ls : List (List Char)) :
    (s.feedAll ls).frame.bounds.Ordered := by
  obtain ⟨hnone, hsome⟩ := Survey.bounds_feedAll hbox hs ls
  by_cases h : s.state.touched ls = []
  · rw [hnone h]
    decide +kernel
  · exact (hsome h).ordered

theorem Survey.isDegenerate_feedAll {s : Survey} (htally : s.tally = {}) (ls : List (List Char)) :
    (s.feedAll ls).frame.isDegenerate = true ↔ s.state.touched ls = [] := by
  rw [Modal.touched_eq_nil_iff]
  change decide ((s.feedAll ls).tally.moves = 0) = true ↔ _
  rw [tally_feedAll, foldl_count Tally.moves (fun _ _ ↦ rfl), htally]
  simp [List.countP_eq_zero, List.sum_eq_zero_iff]

theorem SurveyEvent.noMovement_notMem_ofOutcome (line : Nat) (o : Outcome) :
    .noMovement ∉ ofOutcome line o := by
  unfold ofOutcome
  cases o <;> simp

theorem SurveyEvent.noMovement_notMem_ofOutcomes (line : Nat) (os : List Outcome) :
    .noMovement ∉ ofOutcomes line os := by
  induction os generalizing line with
  | nil => simp [ofOutcomes]
  | cons o os ih =>
      rw [ofOutcomes, List.mem_append, not_or]
      exact ⟨noMovement_notMem_ofOutcome line o, ih (line + 1)⟩

/-- The missing movement is reported where the box is empty at the end, and nowhere else. -/
theorem noMovement_mem_surveyEvents (program : String) :
    .noMovement ∈ surveyEvents program ↔ (survey program).box.isEmpty = true := by
  have hrun := SurveyEvent.noMovement_notMem_ofOutcomes 1
    (Modal.outcomes {} (lines program.toList))
  by_cases h : (survey program).box.isEmpty = true <;>
    simp [surveyEvents, Survey.closing, hrun, h]

/-- The frame of a program has ordered bounds, none of them absent. Nothing was counted as a move if
and only if the box stayed empty, if and only if the missing movement was reported; the bounds are
the origin then. -/
theorem frame_ofProgram_bounds (program : String) :
    let f := Frame.ofProgram program
    (f.bounds.min.Defined ∧ f.bounds.max.Defined ∧ f.bounds.Ordered) ∧
      (f.isDegenerate = true ↔ (survey program).box.isEmpty = true) ∧
      (f.isDegenerate = true ↔ .noMovement ∈ surveyEvents program) ∧
      (f.isDegenerate = true → f.bounds = ⟨.origin, .origin⟩) := by
  have horigin : ({} : Survey).state.position.Defined := Point.defined_origin
  have hordered := Survey.ordered_bounds_feedAll rfl horigin (lines program.toList)
  have hmoves := Survey.isDegenerate_feedAll (s := {}) rfl (lines program.toList)
  have hempty := Survey.isEmpty_box_feedAll rfl horigin (lines program.toList)
  have hbounds := (Survey.bounds_feedAll rfl horigin (lines program.toList)).1
  refine ⟨⟨hordered.defined.1, hordered.defined.2, hordered⟩, hmoves.trans hempty.symm, ?_,
    fun h ↦ hbounds (hmoves.mp h)⟩
  exact (hmoves.trans hempty.symm).trans (noMovement_mem_surveyEvents program).symm

end Toolpath
