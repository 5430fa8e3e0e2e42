import Toolpath.Proofs.Program.Positions
import Toolpath.Proofs.Program.Separation

/-!
# Contiguous toolpaths

A line with a target leads to the end of its move, and an arc without both offsets leads to its target
all the same. No other line changes the position. So every move starts at the end that the latest line
led to, whatever stands between the two.
-/

namespace Toolpath

/-- Where a line leads to. A line without a target leads nowhere. -/
def Outcome.finish? : Outcome → Option Point
  | .moved m _ => some m.finish
  | .skippedArc target _ => some target
  | _ => none

/-- A coordinate of a target is read on the line. -/
def Word.NamesTarget (ws : List Word) : Prop := keptOf 'X' ws ≠ [] ∨ keptOf 'Y' ws ≠ []

/-- One of the offsets of an arc's center is not read on the line. -/
def Word.LacksOffset (ws : List Word) : Prop := keptOf 'I' ws = [] ∨ keptOf 'J' ws = []

theorem Block.hasTarget_ofKept {ws : List Word} :
    (ofKept ws).hasTarget = true ↔ Word.NamesTarget ws := by
  simp [hasTarget, ofKept, Word.NamesTarget, List.getLast?_isSome]

theorem Block.offsets?_eq_some_iff {b : Block} {i j : Binary64} :
    b.offsets? = some (i, j) ↔ b.i = some i ∧ b.j = some j := by
  unfold offsets?
  cases b.i <;> cases b.j <;> simp

theorem Block.offsets?_eq_none_iff {b : Block} : b.offsets? = none ↔ b.i = none ∨ b.j = none := by
  unfold offsets?
  cases b.i <;> cases b.j <;> simp

namespace Modal

theorem run_append (s : Modal) (as bs : List (List Char)) : s.run (as ++ bs) = (s.run as).run bs :=
  List.foldl_append

theorem outcomes_append (s : Modal) (as bs : List (List Char)) :
    s.outcomes (as ++ bs) = s.outcomes as ++ (s.run as).outcomes bs := by
  induction as generalizing s with
  | nil => rfl
  | cons a as ih => rw [List.cons_append, outcomes_cons, outcomes_cons, run_cons, ih, List.cons_append]

/-! ## One line -/

theorem path?_eq_none_iff {s : Modal} {b : Block} :
    s.path? b = none ↔ (∃ clockwise, s.motion = .arc clockwise) ∧ (b.i = none ∨ b.j = none) := by
  unfold path?
  split
  next h => simp [h]
  next h => simp [h]
  next clockwise h => simp [h, Block.offsets?_eq_none_iff]

theorem path?_eq_arc_iff {s : Modal} {b : Block} {center : Point} {clockwise : Bool} :
    s.path? b = some (.arc center clockwise) ↔ s.motion = .arc clockwise ∧
      ∃ i j, b.i = some i ∧ b.j = some j ∧ center = s.position.offset i j := by
  unfold path?
  split
  next h => simp [h]
  next h => simp [h]
  next turn h =>
    rw [h, Option.map_eq_some_iff]
    constructor
    · rintro ⟨⟨i, j⟩, hoffsets, hpath⟩
      obtain ⟨rfl, rfl⟩ := Path.arc.inj hpath
      obtain ⟨hi, hj⟩ := Block.offsets?_eq_some_iff.mp hoffsets
      exact ⟨rfl, i, j, hi, hj, rfl⟩
    · rintro ⟨hturn, i, j, hi, hj, rfl⟩
      obtain rfl := Motion.arc.inj hturn
      exact ⟨(i, j), Block.offsets?_eq_some_iff.mpr ⟨hi, hj⟩, rfl⟩

/-- A line names no target and stays, or moves from the position to where it leads, or skips an arc
on the way there. -/
theorem step_words (s : Modal) (line : List Char) :
    let ws := Word.ofLine line
    let t := s.applyCodes (Word.keptOf 'G' ws)
    let b := Block.ofKept ws
    (¬Word.NamesTarget ws ∧ (s.step line).2.finish? = none ∧ (s.step line).1 = t) ∨
      (Word.NamesTarget ws ∧ (s.step line).1 = { t with position := t.target b } ∧
        (s.step line).2 = match t.path? b with
          | some path => .moved ⟨s.position, t.target b, path⟩ b.dropped
          | none => .skippedArc (t.target b) b.dropped) := by
  intro ws t b
  rcases step_cases s line with ⟨hread, hs⟩ | ⟨c, hread, hcases⟩
  · have hws : ws = [] := Block.ofLine_eq_nil_of_read?_eq_none hread
    refine Or.inl ⟨by simp [hws, Word.NamesTarget, Word.keptOf], by rw [hs]; rfl, ?_⟩
    rw [hs]
    change s = s.applyCodes (Word.keptOf 'G' ws)
    rw [hws]
    rfl
  · obtain rfl : c = b := Block.eq_ofKept_of_read? hread
    have hcodes : s.applyCodes b.codes = t := rfl
    rw [hcodes] at hcases
    rcases hcases with ⟨htarget, hs⟩ | ⟨htarget, path, hpath, hs⟩ | ⟨htarget, hpath, hs⟩
    · refine Or.inl ⟨?_, by rw [hs]; rfl, congrArg Prod.fst hs⟩
      rw [← Block.hasTarget_ofKept, htarget]
      exact Bool.false_ne_true
    · refine Or.inr ⟨Block.hasTarget_ofKept.mp htarget, congrArg Prod.fst hs, ?_⟩
      rw [hs, hpath]
    · refine Or.inr ⟨Block.hasTarget_ofKept.mp htarget, congrArg Prod.fst hs, ?_⟩
      rw [hs, hpath]

theorem position_step (s : Modal) (line : List Char) :
    (s.step line).1.position = (s.step line).2.finish?.getD s.position := by
  rcases step_words s line with ⟨-, hfinish, hstate⟩ | ⟨-, hstate, houtcome⟩
  · rw [hfinish, hstate]
    exact applyCodes_position s _
  · rw [houtcome, hstate]
    split <;> rfl

theorem start_of_moved {s : Modal} {line : List Char} {m : Move} {dropped : Nat}
    (h : (s.step line).2 = .moved m dropped) : m.start = s.position := by
  rcases step_words s line with ⟨-, hfinish, -⟩ | ⟨-, -, houtcome⟩
  · rw [h] at hfinish
    cases hfinish
  · rw [h] at houtcome
    split at houtcome
    next => exact congrArg Move.start (Outcome.moved.inj houtcome).1
    next => cases houtcome

theorem skippedArc_iff {s : Modal} {line : List Char} :
    (∃ target dropped, (s.step line).2 = .skippedArc target dropped) ↔
      Word.NamesTarget (Word.ofLine line) ∧ Word.LacksOffset (Word.ofLine line) ∧
        ∃ clockwise, (s.applyCodes (Word.keptOf 'G' (Word.ofLine line))).motion = .arc clockwise := by
  have hlacks : Word.LacksOffset (Word.ofLine line) ↔
      (Block.ofKept (Word.ofLine line)).i = none ∨ (Block.ofKept (Word.ofLine line)).j = none := by
    simp [Word.LacksOffset, Block.ofKept]
  rw [hlacks, and_comm (a := _ ∨ _), ← path?_eq_none_iff]
  rcases step_words s line with ⟨hnone, hfinish, -⟩ | ⟨htarget, -, houtcome⟩
  · refine ⟨?_, fun h ↦ absurd h.1 hnone⟩
    rintro ⟨target, dropped, h⟩
    rw [h] at hfinish
    cases hfinish
  · rw [houtcome, and_iff_right htarget]
    cases path? _ (Block.ofKept (Word.ofLine line)) <;> simp

theorem center_of_moved {s : Modal} {line : List Char} {m : Move} {dropped : Nat} {center : Point}
    {clockwise : Bool} (h : (s.step line).2 = .moved m dropped)
    (hpath : m.path = .arc center clockwise) :
    ∃ i j, (Word.keptOf 'I' (Word.ofLine line)).getLast? = some i ∧
      (Word.keptOf 'J' (Word.ofLine line)).getLast? = some j ∧ center = m.start.offset i j := by
  rw [start_of_moved h]
  rcases step_words s line with ⟨-, hfinish, -⟩ | ⟨-, -, houtcome⟩
  · rw [h] at hfinish
    cases hfinish
  · rw [h] at houtcome
    split at houtcome
    next path harc =>
      obtain rfl := (Outcome.moved.inj houtcome).1
      obtain ⟨-, i, j, hi, hj, hcenter⟩ := path?_eq_arc_iff.mp (harc.trans (congrArg some hpath))
      rw [applyCodes_position] at hcenter
      exact ⟨i, j, hi, hj, hcenter⟩
    next => cases houtcome

/-! ## A run -/

/-- The end that the latest line led to, or the point at which the run started. -/
def latest (s : Modal) (ls : List (List Char)) : Point :=
  ((s.outcomes ls).filterMap Outcome.finish?).getLastD s.position

theorem position_run (s : Modal) (ls : List (List Char)) : (s.run ls).position = s.latest ls := by
  induction ls generalizing s with
  | nil => rfl
  | cons l ls ih =>
      rw [run_cons, ih, latest, latest, outcomes_cons, position_step]
      cases hfinish : (s.step l).2.finish? with
      | none => rw [List.filterMap_cons_none hfinish, Option.getD_none]
      | some p => rw [List.filterMap_cons_some hfinish, List.getLastD_cons, Option.getD_some]

/-- The toolpath of a run is contiguous: every move starts at the end of the latest move or skipped
arc, which is the position, and only those two lead anywhere. A line is a skipped arc exactly if it
names a target, lacks one of the offsets, and an arc is in force after its own codes. The center of an
arc lies at the last offsets of its line from the start. -/
theorem toolpath_contiguous (s : Modal) (before : List (List Char)) (line : List Char) :
    let here := s.run before
    let there := (here.step line).1
    let outcome := (here.step line).2
    let ws := Word.ofLine line
    (∀ after, s.outcomes (before ++ line :: after) =
        s.outcomes before ++ outcome :: there.outcomes after) ∧
      here.position = s.latest before ∧ there.position = s.latest (before ++ [line]) ∧
      (∀ m dropped, outcome = .moved m dropped → m.start = s.latest before) ∧
      (outcome.finish? = none → there.position = here.position) ∧
      ((∃ target dropped, outcome = .skippedArc target dropped) ↔
        Word.NamesTarget ws ∧ Word.LacksOffset ws ∧
          ∃ clockwise, (here.applyCodes (Word.keptOf 'G' ws)).motion = .arc clockwise) ∧
      ∀ m dropped center clockwise, outcome = .moved m dropped → m.path = .arc center clockwise →
        ∃ i j, (Word.keptOf 'I' ws).getLast? = some i ∧ (Word.keptOf 'J' ws).getLast? = some j ∧
          center = m.start.offset i j := by
  intro here there outcome ws
  have hthere : there.position = s.latest (before ++ [line]) := by
    rw [← position_run, run_append]
    rfl
  refine ⟨fun after ↦ outcomes_append s before (line :: after), position_run s before, hthere,
    fun m dropped h ↦ ?_, fun h ↦ ?_, skippedArc_iff,
    fun m dropped center clockwise h hpath ↦ center_of_moved h hpath⟩
  · rw [start_of_moved h, position_run]
  · rw [position_step here line, h, Option.getD_none]

end Modal

end Toolpath
