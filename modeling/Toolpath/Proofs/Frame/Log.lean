import Toolpath.Proofs.Frame.Extent
import Toolpath.Proofs.Program.Dropped

/-!
# Counts and log of a survey

The tally of a survey counts the outcomes of its lines, and the words without a value that stand on
them. A survey that logs while it reads reports every line under the number of lines counted so far, and
keeps what its level shows. Its log is that part of all events of the program, whatever the level, and its
warnings are those of the lines and their outcomes, line by line.
-/

namespace Toolpath

/-! ## Dropped words -/

/-- What a line reports as dropped are its words without a value, whatever else the line does. -/
theorem Modal.dropped_step (s : Modal) (line : List Char) :
    (s.step line).2.dropped = (Word.ofLine line).countP Word.isDropped := by
  rcases step_cases s line with ⟨hread, h⟩ | ⟨b, hread, ⟨-, h⟩ | ⟨-, path, -, h⟩ | ⟨-, -, h⟩⟩
  · rw [h, Block.ofLine_eq_nil_of_read?_eq_none hread]
    rfl
  all_goals
    rw [h]
    exact Block.dropped_of_read? hread

theorem Modal.map_dropped_outcomes (s : Modal) (ls : List (List Char)) :
    (s.outcomes ls).map Outcome.dropped =
      ls.map fun l ↦ (Word.ofLine l).countP Word.isDropped := by
  induction ls generalizing s with
  | nil => rfl
  | cons l ls ih => rw [outcomes, List.map_cons, List.map_cons, dropped_step, ih]

/-! ## Counts -/

theorem Outcome.isMove_eq : isMove = (· matches .moved ..) := by
  funext o
  cases o <;> rfl

theorem Outcome.isArc_eq : isArc = (· matches .moved ⟨_, _, .arc ..⟩ _) := by
  funext o
  cases o with
  | moved m n =>
      obtain ⟨start, finish, path⟩ := m
      cases path <;> rfl
  | _ => rfl

theorem Outcome.isSkippedArc_eq : isSkippedArc = (· matches .skippedArc ..) := by
  funext o
  cases o <;> rfl

theorem Outcome.sum_toNat (p : Outcome → Bool) (os : List Outcome) :
    (os.map fun o ↦ (p o).toNat).sum = os.countP p := by
  induction os with
  | nil => rfl
  | cons o os ih =>
      rw [List.map_cons, List.sum_cons, ih, List.countP_cons, Nat.add_comm]
      cases p o <;> rfl

/-- A count of a survey is the sum of what the outcomes add to it. -/
theorem Survey.count_survey (program : String) (count : Tally → Nat) {add : Outcome → Nat}
    (h : ∀ t o, count (t.count o) = count t + add o) (hzero : count {} = 0) :
    count (survey program).tally = ((Modal.outcomes {} (lines program.toList)).map add).sum := by
  rw [survey, tally_feedAll, foldl_count count h, hzero, Nat.zero_add]

theorem Outcome.countP_isArc_le (os : List Outcome) : os.countP isArc ≤ os.countP isMove := by
  apply List.countP_mono_left
  intro o _ harc
  cases o with
  | moved m n => rfl
  | blank => cases harc
  | noTarget n => cases harc
  | skippedArc p n => cases harc

/-- No line is both a move and a skipped arc. -/
theorem Outcome.countP_isMove_add_le (os : List Outcome) :
    os.countP isMove + os.countP isSkippedArc ≤ os.length := by
  rw [List.length_eq_countP_add_countP isMove]
  apply Nat.add_le_add_left
  apply List.countP_mono_left
  intro o _ hskipped
  cases o with
  | skippedArc p n => rfl
  | blank => rfl
  | noTarget n => rfl
  | moved m n => cases hskipped

/-! ## Warnings -/

/-- What a line with the given number has to be warned about: words that were dropped, and a skipped
arc. -/
def warningsAt (number : Nat) (line : List Char) (o : Outcome) : List String :=
  let dropped := (Word.ofLine line).countP Word.isDropped
  (if 0 < dropped then
    ["Malformed words dropped at line " ++ toString number ++ ": " ++ toString dropped] else []) ++
    if o matches .skippedArc .. then
      ["Arc without I/J offsets skipped at line " ++ toString number] else []

namespace SurveyEvent

/-- The texts of the warnings among some events. -/
def warnings (es : List SurveyEvent) : List String :=
  (es.filter (·.level = .warn)).map message

theorem warnings_append (es fs : List SurveyEvent) :
    warnings (es ++ fs) = warnings es ++ warnings fs := by
  simp [warnings]

theorem warnings_arcExtremes (ps : List Point) : warnings (ps.map arcExtreme) = [] := by
  simp [warnings, level]

theorem warnings_dropped (line n : Nat) :
    warnings (if n = 0 then [] else [.droppedWords line n]) = if 0 < n then
      ["Malformed words dropped at line " ++ toString line ++ ": " ++ toString n] else [] := by
  by_cases hn : n = 0
  · rw [if_pos hn, if_neg (by omega)]
    rfl
  · rw [if_neg hn, if_pos (by omega)]
    rfl

theorem warnings_ofOutcome (number : Nat) (s : Modal) (line : List Char) :
    warnings (ofOutcome number (s.step line).2) = warningsAt number line (s.step line).2 := by
  unfold ofOutcome warningsAt
  rw [warnings_append, warnings_dropped, Modal.dropped_step]
  cases (s.step line).2 with
  | moved m n => exact congrArg _ (warnings_arcExtremes m.extremes)
  | _ => rfl

theorem warnings_ofOutcomes (number : Nat) (s : Modal) (ls : List (List Char)) :
    warnings (ofOutcomes number (s.outcomes ls)) =
      ((ls.zip (s.outcomes ls)).zipIdx number).flatMap fun ((l, o), k) ↦ warningsAt k l o := by
  induction ls generalizing number s with
  | nil => rfl
  | cons l ls ih =>
      rw [Modal.outcomes, ofOutcomes, warnings_append, warnings_ofOutcome, ih, List.zip_cons_cons,
        List.zipIdx_cons, List.flatMap_cons]

end SurveyEvent

theorem Survey.warnings_closing (s : Survey) : SurveyEvent.warnings s.closing = [] := by
  unfold closing
  cases s.box.isEmpty <;> rfl

theorem surveyEvents_eq (program : String) : surveyEvents program =
    [.started program.utf8ByteSize] ++
      (SurveyEvent.ofOutcomes 1 (Modal.outcomes {} (lines program.toList)) ++
        (survey program).closing) := rfl

theorem warnings_surveyEvents (program : String) : SurveyEvent.warnings (surveyEvents program) =
    (((lines program.toList).zip (Modal.outcomes {} (lines program.toList))).zipIdx 1).flatMap
      fun ((l, o), k) ↦ warningsAt k l o := by
  have hstarted : SurveyEvent.warnings [.started program.utf8ByteSize] = [] := rfl
  rw [surveyEvents_eq, SurveyEvent.warnings_append, hstarted, List.nil_append,
    SurveyEvent.warnings_append, Survey.warnings_closing, List.append_nil,
    SurveyEvent.warnings_ofOutcomes]

/-! ## Logging while surveying -/

/-- A survey with the log that it has written so far. -/
structure LoggedSurvey where
  survey : Survey := {}
  log : List SurveyEvent := []

namespace LoggedSurvey

variable (least : Level)

/-- Writes an event down if the level of the log shows it. -/
def emit (s : LoggedSurvey) (e : SurveyEvent) : LoggedSurvey :=
  if e.level.shownAt least then { s with log := s.log ++ [e] } else s

/-- Counts a line first, and reports it under the number that is reached. -/
def feed (s : LoggedSurvey) (line : List Char) : LoggedSurvey :=
  let next := s.survey.feed line
  (SurveyEvent.ofOutcome next.tally.lines (s.survey.state.step line).2).foldl (emit least)
    { s with survey := next }

def run (program : String) : LoggedSurvey :=
  let started := emit least {} (.started program.utf8ByteSize)
  let read := (lines program.toList).foldl (feed least) started
  read.survey.closing.foldl (emit least) read

theorem foldl_emit (s : LoggedSurvey) (es : List SurveyEvent) :
    es.foldl (emit least) s = { s with log := s.log ++ es.filter (·.level.shownAt least) } := by
  induction es generalizing s with
  | nil => simp
  | cons e es ih =>
      rw [List.foldl_cons, ih, emit]
      by_cases hshown : e.level.shownAt least <;> simp [hshown]

/-- The lines are numbered by the count of the survey. -/
theorem foldl_feed (s : LoggedSurvey) (ls : List (List Char)) :
    ls.foldl (feed least) s = ⟨s.survey.feedAll ls, s.log ++
      (SurveyEvent.ofOutcomes (s.survey.tally.lines + 1) (s.survey.state.outcomes ls)).filter
        (·.level.shownAt least)⟩ := by
  induction ls generalizing s with
  | nil => simp [Survey.feedAll, Modal.outcomes, SurveyEvent.ofOutcomes]
  | cons l ls ih =>
      have hfeed : s.feed least l = ⟨s.survey.feed l, s.log ++
          (SurveyEvent.ofOutcome (s.survey.tally.lines + 1) (s.survey.state.step l).2).filter
            (·.level.shownAt least)⟩ := foldl_emit least _ _
      rw [List.foldl_cons, ih, hfeed, Modal.outcomes, SurveyEvent.ofOutcomes, List.filter_append,
        List.append_assoc]
      rfl

theorem run_eq (program : String) : run least program =
    ⟨Toolpath.survey program, (surveyEvents program).filter (·.level.shownAt least)⟩ := by
  have hstarted : emit least {} (.started program.utf8ByteSize) =
      ⟨{}, [SurveyEvent.started program.utf8ByteSize].filter (·.level.shownAt least)⟩ :=
    foldl_emit least {} [.started program.utf8ByteSize]
  unfold run
  dsimp only
  rw [hstarted, foldl_feed, foldl_emit, surveyEvents_eq, List.filter_append, List.filter_append,
    List.append_assoc]
  rfl

end LoggedSurvey

/-! ## Main result -/

/-- The level and those that are more severe. -/
def Level.orMoreSevere : Level → List Level
  | warn => [warn]
  | info => [warn, info]
  | debug => [warn, info, debug]
  | trace => [warn, info, debug, trace]

theorem Level.shownAt_eq (l least : Level) : l.shownAt least = decide (l ∈ least.orMoreSevere) := by
  cases l <;> cases least <;> rfl

theorem Level.shownAt_trace (l : Level) : l.shownAt .trace = true := by
  cases l <;> rfl

/-- The tally counts the outcomes of the lines and their words without a value. The warnings are those of
the lines and their outcomes in order, and a log of any level is the part of the most detailed one that
is of this level or more severe. -/
theorem tally_and_log (program : String) :
    let ls := lines program.toList
    let os := Modal.outcomes {} ls
    let t := (Frame.ofProgram program).tally
    (os.length = ls.length ∧ t.lines = ls.length ∧
      t.moves = os.countP (· matches .moved ..) ∧
      t.arcs = os.countP (· matches .moved ⟨_, _, .arc ..⟩ _) ∧
      t.skippedArcs = os.countP (· matches .skippedArc ..) ∧
      t.droppedWords = (ls.map fun l ↦ (Word.ofLine l).countP Word.isDropped).sum) ∧
    (t.arcs ≤ t.moves ∧ t.moves ≤ t.moves + t.skippedArcs ∧ t.moves + t.skippedArcs ≤ t.lines) ∧
    (LoggedSurvey.run .trace program).log = surveyEvents program ∧
    ((surveyEvents program).filter (·.level = .warn)).map SurveyEvent.message =
      ((ls.zip os).zipIdx 1).flatMap (fun ((l, o), k) ↦ warningsAt k l o) ∧
    ∀ least, (LoggedSurvey.run least program).survey.frame = Frame.ofProgram program ∧
      (LoggedSurvey.run least program).log =
        (LoggedSurvey.run .trace program).log.filter (·.level ∈ least.orMoreSevere) := by
  intro ls os t
  have hlength : os.length = ls.length := Modal.length_outcomes _ _
  have hlines : t.lines = os.length :=
    (Survey.count_survey program Tally.lines (fun _ _ ↦ rfl) rfl).trans (by simp [os, ls])
  have hmoves : t.moves = os.countP Outcome.isMove :=
    (Survey.count_survey program Tally.moves (fun _ _ ↦ rfl) rfl).trans (Outcome.sum_toNat _ _)
  have harcs : t.arcs = os.countP Outcome.isArc :=
    (Survey.count_survey program Tally.arcs (fun _ _ ↦ rfl) rfl).trans (Outcome.sum_toNat _ _)
  have hskipped : t.skippedArcs = os.countP Outcome.isSkippedArc :=
    (Survey.count_survey program Tally.skippedArcs (fun _ _ ↦ rfl) rfl).trans (Outcome.sum_toNat _ _)
  have hdropped : t.droppedWords = (ls.map fun l ↦ (Word.ofLine l).countP Word.isDropped).sum := by
    rw [← Modal.map_dropped_outcomes {} ls]
    exact Survey.count_survey program Tally.droppedWords (fun _ _ ↦ rfl) rfl
  have htrace : (LoggedSurvey.run .trace program).log = surveyEvents program := by
    rw [LoggedSurvey.run_eq]
    exact List.filter_eq_self.mpr fun e _ ↦ e.level.shownAt_trace
  refine ⟨⟨hlength, hlines.trans hlength, Outcome.isMove_eq ▸ hmoves, Outcome.isArc_eq ▸ harcs,
    Outcome.isSkippedArc_eq ▸ hskipped, hdropped⟩, ⟨?_, ?_, ?_⟩, htrace, warnings_surveyEvents program,
    fun least ↦ ?_⟩
  · rw [harcs, hmoves]
    exact Outcome.countP_isArc_le os
  · exact Nat.le_add_right _ _
  · rw [hmoves, hskipped, hlines]
    exact Outcome.countP_isMove_add_le os
  · rw [htrace, LoggedSurvey.run_eq]
    exact ⟨rfl, List.filter_congr fun e _ ↦ e.level.shownAt_eq least⟩

example : SurveyEvent.warnings (surveyEvents
    (String.ofList ("; an arc\nG2 X1 Y".toList ++ [Char.ofNat 0x663]))) =
      ["Malformed words dropped at line 2: 1", "Arc without I/J offsets skipped at line 2"] := by
  decide +kernel

end Toolpath
