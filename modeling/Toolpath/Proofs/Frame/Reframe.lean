import Toolpath.Proofs.Frame.Command
import Toolpath.Proofs.Frame.Extent

/-!
# Framing an outline again

The outline of a box is a program of plain lines, so it is scanned and interpreted command by
command: it selects the unit and absolute coordinates and visits the corners that were printed. Its
frame is the box of the printed corners, whose outline consists of the same commands.
-/

namespace Toolpath

namespace Modal

/-! ## The run of an outline -/

/-- Straight moves from one point to the next. -/
def chain (p : Point) : List Point → List Outcome
  | [] => []
  | q :: qs => .moved ⟨p, q, .straight⟩ 0 :: chain q qs

theorem dropped_of_mem_chain {p : Point} {qs : List Point} {o : Outcome} (h : o ∈ chain p qs) :
    o.dropped = 0 := by
  induction qs generalizing p with
  | nil => simp [chain] at h
  | cons q qs ih =>
      rcases List.mem_cons.mp h with rfl | h
      · rfl
      · exact ih h

/-- A chain touches its start and its targets. -/
theorem mem_points_chain {p r : Point} {qs : List Point} (hne : qs ≠ []) :
    r ∈ (chain p qs).flatMap Outcome.points ↔ r = p ∨ r ∈ qs := by
  induction qs generalizing p with
  | nil => exact absurd rfl hne
  | cons q qs ih =>
      have hpoints : Outcome.points (.moved ⟨p, q, .straight⟩ 0) = [p, q] := rfl
      rw [chain, List.flatMap_cons, hpoints, List.mem_append]
      by_cases hqs : qs = []
      · subst hqs
        simp [chain]
      · rw [ih hqs]
        simp only [List.mem_cons, List.not_mem_nil, or_false]
        tauto

/-- Feed moves in absolute coordinates visit their targets and select nothing else. -/
theorem run_feeds {s : Modal} (hs : s.distance = .absolute) {qs : List Point}
    (hqs : ∀ q ∈ qs, q.Finite) :
    s.outcomes (qs.map fun q ↦ Word.line (Word.target ['1'] q)) =
        chain s.position (qs.map Point.readBack) ∧
      (s.run (qs.map fun q ↦ Word.line (Word.target ['1'] q))).unit = s.unit := by
  induction qs generalizing s with
  | nil => exact ⟨rfl, rfl⟩
  | cons q qs ih =>
      have hstep := step_feed hs (hqs q List.mem_cons_self)
      obtain ⟨houtcomes, hunit⟩ := ih (s := { s with motion := .linear, position := q.readBack }) hs
        fun r hr ↦ hqs r (List.mem_cons_of_mem q hr)
      rw [List.map_cons, outcomes_cons, run_cons, hstep, houtcomes, hunit]
      exact ⟨rfl, rfl⟩

end Modal

/-! ## The lines of an outline -/

theorem Box.finite_of_mem_corners {b : Box} (hmin : b.min.Finite) (hmax : b.max.Finite) {q : Point}
    (hq : q ∈ b.corners) : q.Finite := by
  simp only [corners, List.mem_cons, List.not_mem_nil, or_false] at hq
  rcases hq with rfl | rfl | rfl | rfl | rfl
  · exact hmin
  · exact ⟨hmax.1, hmin.2⟩
  · exact hmax
  · exact ⟨hmin.1, hmax.2⟩
  · exact hmin

namespace Outline

def words (b : Box) (u : Option LengthUnit) : List (List Word) :=
  (u.map fun u ↦ [Word.code u.digits]).toList ++ [Word.code ['9', '0']] ::
    Word.target ['0'] b.min :: b.corners.tail.map (Word.target ['1'])

theorem plain_of_mem_words {b : Box} {u : Option LengthUnit} {ws : List Word}
    (h : ws ∈ words b u) : ∀ w ∈ ws, w.Plain := by
  simp only [words, List.mem_append, Option.mem_toList, Option.map_eq_some_iff, List.mem_cons,
    List.mem_map] at h
  rcases h with ⟨v, -, rfl⟩ | rfl | rfl | ⟨q, -, rfl⟩
  · simpa using (Word.writes_unit v).plain
  · simpa using Word.writes_ninety.plain
  · exact Word.plain_target Word.writes_zero _
  · exact Word.plain_target Word.writes_one _

theorem toList_commands_ofBox {b : Box} (hmin : b.min.Finite) (hmax : b.max.Finite)
    (u : Option LengthUnit) :
    (ofBox b u).commands.map String.toList = (words b u).map Word.line := by
  have hline (digits : List Char) {q : Point} (hq : q ∈ b.corners) :=
    Word.line_target digits (Box.finite_of_mem_corners hmin hmax hq)
  have hrapid : "G0 ".toList = ['G', '0', ' '] := by decide +kernel
  have hfeed : "G1 ".toList = ['G', '1', ' '] := by decide +kernel
  simp only [Box.corners, List.mem_cons, List.not_mem_nil, or_false] at hline
  cases u <;> simp [ofBox, words, Box.corners, hline, hrapid, hfeed, LengthUnit.toList_command,
    Word.toList_absolute]

theorem lines_program_ofBox {b : Box} (hmin : b.min.Finite) (hmax : b.max.Finite)
    (u : Option LengthUnit) :
    lines (ofBox b u).program.toList = (words b u).map Word.line := by
  have hnewline : "\n".toList = ['\n'] := by decide +kernel
  have hne : (words b u).map Word.line ≠ [] := by simp [words]
  unfold program
  rw [String.toList_append, String.toList_intercalate, hnewline, toList_commands_ofBox hmin hmax,
    intercalate_append_singleton _ hne]
  refine lines_flatMap fun l hl c hc ↦ ?_
  obtain ⟨ws, hws, rfl⟩ := List.mem_map.mp hl
  exact (Word.line_spec (plain_of_mem_words hws) hc).2.2

end Outline

namespace Modal

theorem run_corners {b : Box} (hmin : b.min.Finite) (hmax : b.max.Finite) {s : Modal}
    (hs : s.distance = .absolute) :
    s.outcomes ((Word.target ['0'] b.min :: b.corners.tail.map (Word.target ['1'])).map Word.line) =
        chain s.position (b.corners.map Point.readBack) ∧
      (s.run ((Word.target ['0'] b.min :: b.corners.tail.map (Word.target ['1'])).map
        Word.line)).unit = s.unit := by
  obtain ⟨houtcomes, hunit⟩ := run_feeds
    (s := { s with motion := .rapid, position := b.min.readBack }) hs
    fun q (hq : q ∈ b.corners.tail) ↦
      Box.finite_of_mem_corners hmin hmax (List.mem_of_mem_tail hq)
  rw [List.map_cons, List.map_map, outcomes_cons, run_cons, step_rapid hs hmin]
  exact ⟨congrArg _ houtcomes, hunit⟩

/-- An outline selects its unit and visits the corners that were printed. -/
theorem run_outline {b : Box} (hmin : b.min.Finite) (hmax : b.max.Finite)
    (u : Option LengthUnit) (p : Point) :
    outcomes { position := p } (lines (Outline.ofBox b u).program.toList) =
        (u.map fun _ ↦ .noTarget 0).toList ++ .noTarget 0 ::
          chain p (b.corners.map Point.readBack) ∧
      (run { position := p } (lines (Outline.ofBox b u).program.toList)).unit = u := by
  obtain ⟨houtcomes, hunit⟩ := run_corners hmin hmax (s := { position := p, unit := u }) rfl
  rw [Outline.lines_program_ofBox hmin hmax]
  unfold Outline.words
  cases u with
  | none =>
      rw [Option.map_none, Option.toList_none, List.nil_append, List.map_cons, outcomes_cons,
        run_cons, step_absolute]
      exact ⟨congrArg _ houtcomes, hunit⟩
  | some v =>
      rw [Option.map_some, Option.toList_some, List.singleton_append, List.map_cons, List.map_cons,
        outcomes_cons, run_cons, step_unit, outcomes_cons, run_cons, step_absolute]
      exact ⟨congrArg (_ :: _ :: ·) houtcomes, hunit⟩

end Modal

/-! ## The frame of an outline -/

namespace Box

/-- The box that is read where the corners of a box were printed. -/
def readBack (b : Box) : Box := ⟨b.min.readBack, b.max.readBack⟩

theorem corners_readBack (b : Box) : b.readBack.corners = b.corners.map Point.readBack := rfl

theorem Ordered.readBack {b : Box} (h : b.Ordered) : b.readBack.Ordered := by
  have hle {v w : Binary64} (hvw : v.le w) :
      (Binary64.ofThousandths v.thousandths).le (.ofThousandths w.thousandths) :=
    Binary64.le_iff.mpr ⟨Binary64.ofThousandths_ne_nan _, Binary64.ofThousandths_ne_nan _,
      Binary64.ofThousandths_mono (Binary64.thousandths_mono (Binary64.le_iff.mp hvw).2.2)⟩
  exact ⟨hle h.1, hle h.2⟩

/-- Each coordinate of the second box is read where that of the first one was printed. -/
def ReadAs (b c : Box) : Prop :=
  (Binary64.ofString? (coord b.min.x) = some c.min.x ∧
      Binary64.ofString? (coord b.min.y) = some c.min.y) ∧
    Binary64.ofString? (coord b.max.x) = some c.max.x ∧
      Binary64.ofString? (coord b.max.y) = some c.max.y

theorem readAs_readBack {b : Box} (hmin : b.min.Finite) (hmax : b.max.Finite) :
    b.ReadAs b.readBack :=
  ⟨⟨ofString?_coord hmin.1, ofString?_coord hmin.2⟩, ofString?_coord hmax.1, ofString?_coord hmax.2⟩

end Box

namespace Outline

theorem ofBox_eq {b c : Box} (h : b.corners.map targetWords = c.corners.map targetWords)
    (u : Option LengthUnit) : ofBox b u = ofBox c u := by
  unfold ofBox
  rw [h]

theorem ofBox_readBack {b : Box} (hmin : b.min.Finite) (hmax : b.max.Finite)
    (u : Option LengthUnit) : ofBox b.readBack u = ofBox b u := by
  refine ofBox_eq ?_ u
  rw [Box.corners_readBack, List.map_map]
  refine List.map_congr_left fun q hq ↦ ?_
  have hfin := Box.finite_of_mem_corners hmin hmax hq
  simp [targetWords, Point.readBack, coord_ofThousandths hfin.1, coord_ofThousandths hfin.2]

/-- The outline does not tell the two zeros apart. -/
theorem ofBox_congr {b c : Box} (hmin : c.min.Finite) (hmax : c.max.Finite) (h : b.Same c)
    (u : Option LengthUnit) : ofBox b u = ofBox c u := by
  obtain ⟨⟨hl, hb⟩, hr, ht⟩ := Box.same_iff.mp h
  refine ofBox_eq ?_ u
  simp [Box.corners, targetWords, coord_congr hmin.1 hl, coord_congr hmin.2 hb,
    coord_congr hmax.1 hr, coord_congr hmax.2 ht]

end Outline

namespace Modal

theorem mem_touched_outline {b : Box} (hmin : b.min.Finite) (hmax : b.max.Finite)
    (u : Option LengthUnit) {p r : Point} :
    r ∈ touched { position := p } (lines (Outline.ofBox b u).program.toList) ↔
      r = p ∨ r ∈ b.readBack.corners := by
  have hchain := mem_points_chain (p := p) (r := r)
    (show b.readBack.corners ≠ [] by simp [Box.corners])
  unfold touched
  rw [(run_outline hmin hmax u p).1, ← Box.corners_readBack, ← hchain]
  cases u <;> simp [Outcome.points]

theorem dropped_of_mem_outcomes_outline {b : Box} (hmin : b.min.Finite) (hmax : b.max.Finite)
    (u : Option LengthUnit) (p : Point) :
    ∀ o ∈ outcomes { position := p } (lines (Outline.ofBox b u).program.toList),
      o.dropped = 0 := by
  rw [(run_outline hmin hmax u p).1]
  intro o ho
  rcases List.mem_append.mp ho with ho | ho
  · cases u with
    | none => simp at ho
    | some v =>
        obtain rfl : o = .noTarget 0 := by simpa using ho
        rfl
  · rcases List.mem_cons.mp ho with rfl | ho
    · rfl
    · exact dropped_of_mem_chain ho

end Modal

/-- A run that touches the corners of a box and a start among them, and perhaps another point, has the
frame of the box with that point. -/
theorem Survey.same_bounds {c : Box} (hc : c.Ordered) {p : Point} (hp : c.Contains p)
    (back : Option Point) (hback : ∀ q ∈ back, q.Defined) {ls : List (List Char)}
    (hmem : ∀ r, r ∈ Modal.touched { position := p } ls ↔ r = p ∨ r ∈ c.corners ++ back.toList) :
    ((startingAt p).feedAll ls).frame.bounds.Same (back.elim c c.cover) := by
  have hdefined : p.Defined := by
    obtain ⟨⟨hx, -⟩, hy, -⟩ := hp
    exact ⟨(Binary64.le_iff.mp hx).2.1, (Binary64.le_iff.mp hy).2.1⟩
  -- The start lies in the box, so it widens nothing.
  have hcorners : c.IsExtent (p :: c.corners) := by
    refine Box.isExtent_of_corners ?_ (by simp [Box.corners]) (by simp [Box.corners])
    intro q hq
    rcases List.mem_cons.mp hq with rfl | hq
    · exact hp
    · exact hc.contains_corner hq
  have hextent := (bounds_feedAll (s := .startingAt p) rfl hdefined ls).2
    (List.ne_nil_of_mem ((hmem p).mpr (Or.inl rfl)))
  refine hextent.same ?_
  cases back with
  | none =>
      refine hcorners.congr fun r ↦ ?_
      rw [startingAt, hmem]
      simp
  | some q =>
      refine (hcorners.cover (hback q rfl)).congr fun r ↦ ?_
      rw [startingAt, hmem]
      simp only [List.mem_cons, List.mem_append, Option.toList_some, List.not_mem_nil, or_false]
      rw [or_comm, or_assoc]

theorem Survey.frame_outline {b : Box} (hmin : b.min.Finite) (hmax : b.max.Finite)
    (hb : b.Ordered) (u : Option LengthUnit) {p : Point} (hp : b.readBack.Contains p) :
    let f := ((startingAt p).feedAll (lines (Outline.ofBox b u).program.toList)).frame
    f.unit = u ∧ f.bounds.Same b.readBack ∧ f.tally.droppedWords = 0 := by
  intro f
  refine ⟨?_, ?_, ?_⟩
  · change (feedAll _ _).state.unit = u
    rw [state_feedAll]
    exact (Modal.run_outline hmin hmax u p).2
  · refine same_bounds hb.readBack hp none (by simp) fun r ↦ ?_
    rw [Modal.mem_touched_outline hmin hmax]
    simp
  · change (feedAll _ _).tally.droppedWords = 0
    rw [tally_feedAll, foldl_count Tally.droppedWords (fun _ _ ↦ rfl), List.sum_eq_zero]
    · rfl
    · intro n hn
      obtain ⟨o, ho, rfl⟩ := List.mem_map.mp hn
      exact Modal.dropped_of_mem_outcomes_outline hmin hmax u p o ho

/-- Framing an outline again is a fixpoint. The corners are read where they were printed, and from
any point among them the outline has the frame of the corners that are read, whose outline is the
same. Corners with three places are read unchanged. -/
theorem frame_outline_fixpoint {b : Box} (hmin : b.min.Finite) (hmax : b.max.Finite)
    (hb : b.Ordered) (u : Option LengthUnit) :
    ∃ c : Box, b.ReadAs c ∧ (c.min.Finite ∧ c.max.Finite ∧ c.Ordered) ∧
      (∀ p, c.Contains p →
        let f := ((Survey.startingAt p).feedAll (lines (Outline.ofBox b u).program.toList)).frame
        f.unit = u ∧ f.bounds.Same c ∧ f.tally.droppedWords = 0 ∧
          f.outline.commands = (Outline.ofBox b u).commands) ∧
      ((∀ v ∈ [b.min.x, b.min.y, b.max.x, b.max.y],
        ∃ negative n, v = (Decimal.mk negative n (-3)).toBinary64) → c.Same b) := by
  refine ⟨b.readBack, Box.readAs_readBack hmin hmax, ⟨hmin.readBack, hmax.readBack, hb.readBack⟩,
    ?_, ?_⟩
  · intro p hp f
    obtain ⟨hunit, hbounds, hdropped⟩ := Survey.frame_outline hmin hmax hb u hp
    refine ⟨hunit, hbounds, hdropped, ?_⟩
    change (Outline.ofBox f.bounds f.unit).commands = _
    rw [hunit, Outline.ofBox_congr hmin.readBack hmax.readBack hbounds,
      Outline.ofBox_readBack hmin hmax]
  · intro h
    have hread {v : Binary64} (hv : v.isFinite)
        (h : ∃ negative n, v = (Decimal.mk negative n (-3)).toBinary64) :
        (Binary64.ofThousandths v.thousandths).eq v := by
      obtain ⟨negative, n, rfl⟩ := h
      exact eq_ofThousandths_thousandths hv
    simp only [List.mem_cons, List.not_mem_nil, or_false, forall_eq_or_imp, forall_eq] at h
    obtain ⟨h1, h2, h3, h4⟩ := h
    exact Box.same_iff.mpr ⟨⟨hread hmin.1 h1, hread hmin.2 h2⟩, hread hmax.1 h3, hread hmax.2 h4⟩

theorem frame_outline_fixpoint_plate :
    let b : Box := ⟨⟨-12, 0⟩, ⟨(Decimal.mk false 40125 (-3)).toBinary64, 18⟩⟩
    let o := Outline.ofBox b (some .inch)
    b.min.Finite ∧ b.max.Finite ∧ b.Ordered ∧ ∃ c : Box, c.Same b ∧
      ((Survey.startingAt c.min).feedAll (lines o.program.toList)).frame.outline.commands =
        o.commands := by
  intro b o
  have hmin : b.min.Finite := by decide +kernel
  have hmax : b.max.Finite := by decide +kernel
  have hb : b.Ordered := by decide +kernel
  obtain ⟨c, -, ⟨-, -, hc⟩, hframe, hplaces⟩ := frame_outline_fixpoint hmin hmax hb (some .inch)
  refine ⟨hmin, hmax, hb, c, hplaces ?_, ?_⟩
  · simp only [List.mem_cons, List.not_mem_nil, or_false, forall_eq_or_imp, forall_eq]
    refine ⟨⟨true, 12000, ?_⟩, ⟨false, 0, ?_⟩, ⟨false, 40125, ?_⟩, ⟨false, 18000, ?_⟩⟩ <;>
      decide +kernel
  · exact (hframe c.min (hc.contains_corner List.mem_cons_self)).2.2.2

end Toolpath
