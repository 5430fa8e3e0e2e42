import Toolpath.Proofs.Frame.Command
import Toolpath.Proofs.Frame.Concatenation
import Toolpath.Proofs.Frame.Visits
import Toolpath.Proofs.Program.Modes

/-!
# Restated modes

Words in front of a line with a blank behind each of them are scanned apart from what follows. Codes for
the modes that are in force change none of them, so a line with such words in front of it does what it
did without them. Only a blank line is no longer blank, but it still names no target.
-/

namespace Toolpath

/-! ## Words in front of a line -/

/-- The words with a blank behind each of them. -/
def Word.front (ws : List Word) : List Char := ws.flatMap fun w ↦ w.text ++ [' ']

theorem Word.ofLine_text_append {w : Word} (hw : w.Plain) (line : List Char) :
    ofLine (w.text ++ ' ' :: line) = w :: ofLine line := by
  have hspec {c : Char} (hc : c ∈ w.text) := plain_spec (isPlain_of_mem_text hw hc)
  have hscan := scan_text_append hw.letter hw.proper Numeral.stops_nil
  rw [List.append_nil] at hscan
  rw [ofLine_append_blank (by decide) (fun c hc ↦ (hspec hc).2.2.1),
    uppercase_eq_self fun c hc ↦ (hspec hc).1, hscan, scan, List.singleton_append]

theorem Word.ofLine_front_append {ws : List Word} (h : ∀ w ∈ ws, w.Plain) (line : List Char) :
    ofLine (front ws ++ line) = ws ++ ofLine line := by
  induction ws with
  | nil => rfl
  | cons w ws ih =>
      obtain ⟨hw, hws⟩ := List.forall_mem_cons.mp h
      have hfront : front (w :: ws) ++ line = w.text ++ ' ' :: (front ws ++ line) := by
        simp [front]
      rw [hfront, ofLine_text_append hw, ih hws, List.cons_append]

/-! ## Words that restate a mode -/

namespace Modal

/-- The word is a code whose mode is in force already. -/
structure Restates (s : Modal) (w : Word) : Prop where
  plain : w.Plain
  letter : w.letter = 'G'
  kept : ∃ v, w.kept? = some v ∧ s.applyValue v = s

theorem applyCodes_append (s : Modal) (vs us : List Binary64) :
    s.applyCodes (vs ++ us) = (s.applyCodes vs).applyCodes us :=
  List.foldl_append

theorem Restates.keptOf_cons {s : Modal} {w : Word} (hw : s.Restates w) (ws : List Word) :
    ∃ v, s.applyValue v = s ∧ Word.keptOf 'G' (w :: ws) = v :: Word.keptOf 'G' ws ∧
      ∀ letter ≠ 'G', Word.keptOf letter (w :: ws) = Word.keptOf letter ws := by
  obtain ⟨v, hkept, hv⟩ := hw.kept
  refine ⟨v, hv, ?_, fun letter hl ↦ ?_⟩
  · rw [Word.keptOf, List.filter_cons_of_pos (by simp [hw.letter]), List.filterMap_cons_some hkept]
    rfl
  · rw [Word.keptOf, List.filter_cons_of_neg (by simp [hw.letter, hl.symm])]
    rfl

/-- Words that restate modes add codes to a block and nothing else. -/
theorem ofKept_restated {s : Modal} {ws : List Word} (h : ∀ w ∈ ws, s.Restates w) (vs : List Word) :
    ∃ codes, s.applyCodes codes = s ∧ Block.ofKept (ws ++ vs) =
      { Block.ofKept vs with codes := codes ++ (Block.ofKept vs).codes } := by
  induction ws with
  | nil => exact ⟨[], rfl, rfl⟩
  | cons w ws ih =>
      obtain ⟨hw, hws⟩ := List.forall_mem_cons.mp h
      obtain ⟨codes, hcodes, hblock⟩ := ih hws
      obtain ⟨v, hv, hcode, hother⟩ := hw.keptOf_cons (ws ++ vs)
      obtain ⟨u, hkept, -⟩ := hw.kept
      have hcons : Block.ofKept (w :: (ws ++ vs)) =
          { Block.ofKept (ws ++ vs) with codes := v :: (Block.ofKept (ws ++ vs)).codes } := by
        unfold Block.ofKept
        rw [hcode, hother 'X' (by decide), hother 'Y' (by decide), hother 'I' (by decide),
          hother 'J' (by decide), List.countP_cons_of_neg (by simp [hkept])]
      refine ⟨v :: codes, ?_, by rw [List.cons_append, hcons, hblock, List.cons_append]⟩
      rw [applyCodes, List.foldl_cons, hv]
      exact hcodes

theorem apply_restated {s : Modal} {codes : List Binary64} (h : s.applyCodes codes = s) (b : Block) :
    s.apply { b with codes := codes ++ b.codes } = s.apply b := by
  unfold apply
  dsimp only
  rw [applyCodes_append, h]
  rfl

/-- A line does the same with such words in front of it, but with them it is not blank. -/
theorem step_restated {s : Modal} {ws : List Word} (h : ∀ w ∈ ws, s.Restates w) (line : List Char) :
    s.step (Word.front ws ++ line) = s.step line ∨
      s.step (Word.front ws ++ line) = (s, .noTarget 0) ∧ s.step line = (s, .blank) := by
  have hwords : Word.ofLine (Word.front ws ++ line) = ws ++ Word.ofLine line :=
    Word.ofLine_front_append (fun w hw ↦ (h w hw).plain) line
  obtain ⟨codes, hcodes, hblock⟩ := ofKept_restated h (Word.ofLine line)
  cases hfront : Block.read? (Word.front ws ++ line) with
  | none =>
      -- Only without any word is there nothing to read.
      have hnil := Block.ofLine_eq_nil_of_read?_eq_none hfront
      rw [hwords, List.append_eq_nil_iff] at hnil
      obtain ⟨rfl, -⟩ := hnil
      exact Or.inl rfl
  | some b =>
      have hb : b = { Block.ofKept (Word.ofLine line) with
          codes := codes ++ (Block.ofKept (Word.ofLine line)).codes } := by
        rw [Block.eq_ofKept_of_read? hfront, hwords, hblock]
      have hstep : s.step (Word.front ws ++ line) = s.apply (Block.ofKept (Word.ofLine line)) := by
        unfold step
        rw [hfront, hb]
        exact apply_restated hcodes _
      rw [hstep]
      unfold step
      cases hline : Block.read? line with
      | none =>
          -- The words in front are all that there is, and they name no target.
          rw [Block.ofLine_eq_nil_of_read?_eq_none hline]
          exact Or.inr ⟨rfl, rfl⟩
      | some c =>
          rw [Block.eq_ofKept_of_read? hline]
          exact Or.inl rfl

theorem state_step_restated {s : Modal} {ws : List Word} (h : ∀ w ∈ ws, s.Restates w)
    (line : List Char) : (s.step (Word.front ws ++ line)).1 = (s.step line).1 := by
  rcases step_restated h line with heq | ⟨hfront, hline⟩
  · rw [heq]
  · rw [hfront, hline]

theorem move?_step_restated {s : Modal} {ws : List Word} (h : ∀ w ∈ ws, s.Restates w)
    (line : List Char) : (s.step (Word.front ws ++ line)).2.move? = (s.step line).2.move? := by
  rcases step_restated h line with heq | ⟨hfront, hline⟩
  · rw [heq]
  · rw [hfront, hline]
    rfl

theorem moves_append (s : Modal) (as bs : List (List Char)) :
    s.moves (as ++ bs) = s.moves as ++ (s.run as).moves bs := by
  rw [moves, outcomes_append, List.filterMap_append]
  rfl

theorem moves_cons_congr {s : Modal} {l m : List Char} (hstate : (s.step l).1 = (s.step m).1)
    (hmove : (s.step l).2.move? = (s.step m).2.move?) (ls : List (List Char)) :
    s.moves (l :: ls) = s.moves (m :: ls) := by
  rw [moves, moves, outcomes_cons, outcomes_cons, List.filterMap_cons, List.filterMap_cons, hstate,
    hmove]

end Modal

theorem Survey.feed_restated {s : Survey} {ws : List Word} (h : ∀ w ∈ ws, s.state.Restates w)
    (line : List Char) : s.feed (Word.front ws ++ line) = s.feed line := by
  unfold feed
  rcases Modal.step_restated h line with heq | ⟨hfront, hline⟩
  · rw [heq]
  · rw [hfront, hline]
    rfl

/-! ## The codes of a state -/

def Motion.code : Motion → Nat
  | .rapid => 0
  | .linear => 1
  | .arc true => 2
  | .arc false => 3

def Distance.code : Distance → Nat
  | .absolute => 90
  | .incremental => 91

def LengthUnit.code : LengthUnit → Nat
  | .inch => 20
  | .millimetre => 21

namespace Modal

/-- The codes of the modes in force. There is none for a unit that was not selected. -/
def codes (s : Modal) : List Nat :=
  s.motion.code :: s.distance.code :: (s.unit.map LengthUnit.code).toList

def words (s : Modal) : List Word := s.codes.map fun n ↦ .code (digitsOfNat n)

theorem mem_codes {s : Modal} {n : Nat} (h : n ∈ s.codes) : n ≤ 91 ∧ s.applyCode n = s := by
  obtain ⟨position, motion, distance, unit⟩ := s
  simp only [codes, List.mem_cons, Option.mem_toList, Option.map_eq_some_iff] at h
  rcases h with rfl | rfl | ⟨u, rfl, rfl⟩
  · cases motion with
    | rapid => exact ⟨by decide, rfl⟩
    | linear => exact ⟨by decide, rfl⟩
    | arc clockwise => cases clockwise <;> exact ⟨by decide, rfl⟩
  · cases distance <;> exact ⟨by decide, rfl⟩
  · cases u <;> exact ⟨by decide, rfl⟩

theorem restates_of_mem_words {s : Modal} {w : Word} (h : w ∈ s.words) : s.Restates w := by
  obtain ⟨n, hn, rfl⟩ := List.mem_map.mp h
  obtain ⟨hle, happly⟩ := mem_codes hn
  have hwrites : Word.Writes (digitsOfNat n) (.ofNat n) := Word.writes_digitsOfNat (by omega)
  have hkept := (Numeral.value?_eq hwrites.plain.proper).symm.trans hwrites.value
  exact ⟨hwrites.plain, rfl, _, hkept, (applyValue_ofNat (by omega) s).trans happly⟩

example : Word.front (words { motion := .arc false, unit := some .inch }) = "G3 G90 G20 ".toList := by
  decide +kernel

/-! ## Main result -/

/-- Each mode is the one of the last code of its group, or the one before the run. Words that restate
the modes in force may stand in front of a line: the states after it, the moves and the survey are the
same without them. -/
theorem modes_of_last_codes (s : Modal) (ls : List (List Char)) :
    let values := Word.keptOf 'G' (ls.flatMap Word.ofLine)
    let t := s.run ls
    t.motion = ((lastAmong [0, 1, 2, 3] values).map Motion.ofCode).getD s.motion ∧
      t.distance = ((lastAmong [90, 91] values).map Distance.ofCode).getD s.distance ∧
      t.unit = ((lastAmong [20, 21] values).map LengthUnit.ofCode?).getD s.unit ∧
      (∀ w ∈ t.words, t.Restates w) ∧
      ∀ ws line rest, (∀ w ∈ ws, t.Restates w) →
        let plain := ls ++ line :: rest
        let restated := ls ++ (Word.front ws ++ line) :: rest
        s.run restated = s.run plain ∧ s.moves restated = s.moves plain ∧
          ∀ box tally,
            Survey.feedAll ⟨s, box, tally⟩ restated = Survey.feedAll ⟨s, box, tally⟩ plain := by
  intro values t
  refine ⟨motionGroup.mode_run s ls, distanceGroup.mode_run s ls, unitGroup.mode_run s ls,
    fun w hw ↦ restates_of_mem_words hw, fun ws line rest h ↦ ⟨?_, ?_, fun box tally ↦ ?_⟩⟩
  · rw [run_append, run_append, run_cons, run_cons, state_step_restated h]
  · rw [moves_append, moves_append,
      moves_cons_congr (state_step_restated h line) (move?_step_restated h line)]
  · have hstate : (Survey.feedAll ⟨s, box, tally⟩ ls).state = t := Survey.state_feedAll _ _
    rw [Survey.feedAll_append, Survey.feedAll_append]
    exact congrArg (Survey.feedAll · rest) (Survey.feed_restated (by rwa [hstate]) line)

end Modal

end Toolpath
