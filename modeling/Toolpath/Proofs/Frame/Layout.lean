import Toolpath.Proofs.Frame.Concatenation
import Toolpath.Proofs.Job.Written
import Toolpath.Proofs.Program.Layout

/-!
# Frames and layout

A survey feeds on the code of its lines. Lines with the same code are fed alike, and a line without
code is only counted, so a program in another layout has the same frame but for the number of lines.
Line ends are layout too: a carriage return that stays with its line is a blank at the end of it.
-/

namespace Toolpath

namespace Survey

/-! ## Lines that are fed alike -/

theorem feed_congr {l m : List Char} (h : codeOf l = codeOf m) (s : Survey) :
    s.feed l = s.feed m := by
  rw [feed, feed, Modal.step_congr h]

theorem feedAll_congr {ls ms : List (List Char)} (h : List.Forall₂ (fun l m ↦ codeOf l = codeOf m) ls ms)
    (s : Survey) : s.feedAll ls = s.feedAll ms := by
  induction h generalizing s with
  | nil => rfl
  | @cons l m ls ms hlm _ ih =>
      change (s.feed l).feedAll ls = (s.feed m).feedAll ms
      rw [feed_congr hlm, ih]

/-- The survey after more lines that say nothing. -/
def addLines (s : Survey) (n : Nat) : Survey :=
  { s with tally := { s.tally with lines := s.tally.lines + n } }

theorem addLines_addLines (s : Survey) (m n : Nat) :
    (s.addLines m).addLines n = s.addLines (m + n) := by
  simp only [addLines, Nat.add_assoc]

theorem feed_of_stripComment_eq_nil {l : List Char} (h : stripComment l = []) (s : Survey) :
    s.feed l = s.addLines 1 := by
  rw [feed, Modal.step_of_stripComment_eq_nil h]
  rfl

theorem feed_addLines (s : Survey) (n : Nat) (l : List Char) :
    (s.addLines n).feed l = (s.feed l).addLines n := by
  simp only [feed, addLines, Tally.count, Nat.add_right_comm]

theorem feedAll_addLines (s : Survey) (n : Nat) (ls : List (List Char)) :
    (s.addLines n).feedAll ls = (s.feedAll ls).addLines n := by
  induction ls generalizing s with
  | nil => rfl
  | cons l ls ih =>
      change ((s.addLines n).feed l).feedAll ls = ((s.feed l).feedAll ls).addLines n
      rw [feed_addLines, ih]

theorem feedAll_insert {l : List Char} (h : stripComment l = []) (s : Survey)
    (as bs : List (List Char)) : s.feedAll (as ++ l :: bs) = (s.feedAll (as ++ bs)).addLines 1 := by
  rw [feedAll_append, feedAll_append, ← feedAll_addLines, ← feed_of_stripComment_eq_nil h]
  rfl

end Survey

/-! ## Edits of a program -/

/-- Changes of the layout of a program, one after the other, with the numbers of lines that were
inserted and deleted on the way. Only lines without code are inserted or deleted. -/
inductive Edits (ls : List (List Char)) : Nat → Nat → List (List Char) → Prop where
  | refl : Edits ls 0 0 ls
  | line {i d : Nat} {as bs : List (List Char)} {l m : List Char} (h : Edits ls i d (as ++ l :: bs))
    (hline : LineEdit l m) : Edits ls i d (as ++ m :: bs)
  | insert {i d : Nat} {as bs : List (List Char)} {l : List Char} (h : Edits ls i d (as ++ bs))
    (hl : stripComment l = []) : Edits ls (i + 1) d (as ++ l :: bs)
  | delete {i d : Nat} {as bs : List (List Char)} {l : List Char} (h : Edits ls i d (as ++ l :: bs))
    (hl : stripComment l = []) : Edits ls i (d + 1) (as ++ bs)

theorem Edits.feedAll_eq {ls ms : List (List Char)} {i d : Nat} (h : Edits ls i d ms) (s : Survey) :
    (s.feedAll ms).addLines d = (s.feedAll ls).addLines i := by
  induction h with
  | refl => rfl
  | @line _ _ as bs l m _ hline ih =>
      have hfeed : s.feedAll (as ++ m :: bs) = s.feedAll (as ++ l :: bs) := by
        rw [Survey.feedAll_append, Survey.feedAll_append]
        exact congrArg (Survey.feedAll · bs) (Survey.feed_congr hline.codeOf_eq _)
      rw [hfeed, ih]
  | insert _ hl ih =>
      rw [Survey.feedAll_insert hl, Survey.addLines_addLines, Nat.add_comm, ← Survey.addLines_addLines,
        ih, Survey.addLines_addLines]
  | delete _ hl ih =>
      rw [← ih, Survey.feedAll_insert hl, Survey.addLines_addLines, Nat.add_comm]

/-! ## Line ends -/

/-- A text begins with a line end or with a character of its first line. -/
@[elab_as_elim]
theorem lines_induction {motive : List Char → Prop} (nil : motive [])
    (lineFeed : ∀ cs, motive cs → motive ('\n' :: cs))
    (both : ∀ cs, motive cs → motive ('\r' :: '\n' :: cs))
    (char : ∀ c cs, c ≠ '\n' → (c = '\r' → cs.head? ≠ some '\n') → motive cs → motive (c :: cs))
    (cs : List Char) : motive cs := by
  have hhead {c : Char} {cs : List Char} (h : ∀ ds, c = '\r' → cs = '\n' :: ds → False) :
      c = '\r' → cs.head? ≠ some '\n' := by
    intro hc hcs
    obtain ⟨ds, rfl⟩ := List.head?_eq_some_iff.mp hcs
    exact h ds hc rfl
  induction cs using lines.induct with
  | case1 => exact nil
  | case2 cs ih => exact lineFeed cs ih
  | case3 cs ih => exact both cs ih
  | case4 c cs hc hcs _ ih => exact char c cs hc (hhead hcs) ih
  | case5 c cs hc hcs l ls _ ih => exact char c cs hc (hhead hcs) ih

theorem lines_cons {c : Char} {cs : List Char} (hc : c ≠ '\n') (h : c = '\r' → cs.head? ≠ some '\n') :
    lines (c :: cs) = (c :: (lines cs).headD []) :: (lines cs).tail := by
  rw [lines.eq_4 c cs (by simpa using hc) (by rintro ds rfl rfl; exact h rfl rfl)]
  cases lines cs <;> rfl

/-- The second line is the first one, possibly with a carriage return left at its end. -/
def KeepsReturn (l m : List Char) : Prop := m = l ∨ m = l ++ ['\r']

namespace KeepsReturn

theorem cons {l m : List Char} (h : KeepsReturn l m) (c : Char) : KeepsReturn (c :: l) (c :: m) := by
  rcases h with rfl | rfl
  · exact Or.inl rfl
  · exact Or.inr rfl

theorem codeOf_eq {l m : List Char} (h : KeepsReturn l m) : codeOf l = codeOf m := by
  rcases h with rfl | rfl
  · rfl
  · rw [codeOf, codeOf, stripComment_append_blanks (List.forall_mem_singleton.mpr (by decide))]

theorem lines_cons_cons {c : Char} {cs ds : List Char} (hc : c ≠ '\n')
    (hcs : c = '\r' → cs.head? ≠ some '\n') (hds : c = '\r' → ds.head? ≠ some '\n')
    (h : List.Forall₂ KeepsReturn (lines cs) (lines ds)) :
    List.Forall₂ KeepsReturn (lines (c :: cs)) (lines (c :: ds)) := by
  rw [lines_cons hc hcs, lines_cons hc hds]
  generalize lines cs = ls at h
  generalize lines ds = ms at h
  cases h with
  | nil => exact .cons (Or.inl rfl) .nil
  | cons hlm h => exact .cons (hlm.cons c) h

end KeepsReturn

/-- The text with a carriage return in front of every line feed. -/
def withReturns (cs : List Char) : List Char :=
  cs.flatMap fun c ↦ if c = '\n' then ['\r', '\n'] else [c]

theorem withReturns_cons {c : Char} (hc : c ≠ '\n') (cs : List Char) :
    withReturns (c :: cs) = c :: withReturns cs := by
  rw [withReturns, List.flatMap_cons, if_neg hc]
  rfl

theorem head?_withReturns_ne (cs : List Char) : (withReturns cs).head? ≠ some '\n' := by
  cases cs with
  | nil => simp [withReturns]
  | cons c cs =>
      by_cases hc : c = '\n'
      · simp [withReturns, hc]
      · simp [withReturns_cons hc, hc]

theorem keepsReturn_lines_withReturns (cs : List Char) :
    List.Forall₂ KeepsReturn (lines cs) (lines (withReturns cs)) := by
  induction cs using lines_induction with
  | nil => exact .nil
  | lineFeed cs ih => exact .cons (Or.inl rfl) ih
  | both cs ih => exact .cons (Or.inr rfl) ih
  | char c cs hc hcs ih =>
      rw [withReturns_cons hc]
      exact KeepsReturn.lines_cons_cons hc hcs (fun _ ↦ head?_withReturns_ne cs) ih

/-- The line feed ends a last line that was not ended before. -/
theorem keepsReturn_lines_append_newline {cs : List Char} {c : Char} (hlast : cs.getLast? = some c)
    (hc : c ≠ '\n') : List.Forall₂ KeepsReturn (lines (cs ++ ['\n'])) (lines cs) := by
  have htail {d : Char} {ds : List Char} (h : (d :: ds).getLast? = some c) (hd : d = '\n') :
      ds.getLast? = some c := by
    cases ds with
    | nil =>
        obtain rfl : d = c := Option.some.inj h
        exact absurd hd hc
    | cons e ds => exact h
  induction cs using lines_induction with
  | nil => cases hlast
  | lineFeed cs ih => exact .cons (Or.inl rfl) (ih (htail hlast rfl))
  | both cs ih => exact .cons (Or.inl rfl) (ih (htail hlast rfl))
  | char d cs hd hcs ih =>
      cases cs with
      | nil =>
          by_cases hr : d = '\r'
          · subst hr
            exact .cons (Or.inr rfl) .nil
          · rw [List.singleton_append, lines_cons hd (by simp [hr]), lines_cons hd (by simp)]
            exact .cons (Or.inl rfl) .nil
      | cons e cs => exact KeepsReturn.lines_cons_cons hd hcs hcs (ih hlast)

/-- A line feed after a line ends it, and takes a carriage return along. -/
theorem exists_lines_append_newline {l : List Char} (h : '\n' ∉ l) (rest : List Char) :
    ∃ k, KeepsReturn k l ∧ lines (l ++ '\n' :: rest) = k :: lines rest := by
  induction l with
  | nil => exact ⟨[], Or.inl rfl, rfl⟩
  | cons c l ih =>
      obtain ⟨hc, hl⟩ : c ≠ '\n' ∧ '\n' ∉ l := by simpa [eq_comm] using h
      by_cases hr : c = '\r' ∧ l = []
      · obtain ⟨rfl, rfl⟩ := hr
        exact ⟨[], Or.inr rfl, rfl⟩
      · obtain ⟨k, hk, hlines⟩ := ih hl
        refine ⟨c :: k, hk.cons c, ?_⟩
        have hcs : c = '\r' → (l ++ '\n' :: rest).head? ≠ some '\n' := by
          rintro rfl
          cases l with
          | nil => exact absurd ⟨rfl, rfl⟩ hr
          | cons d l =>
              simp only [List.mem_cons, not_or] at hl
              simpa [eq_comm] using hl.1
        rw [List.cons_append, lines_cons hc hcs, hlines]
        rfl

theorem keepsReturn_lines_flatMap {ls : List (List Char)} (h : ∀ l ∈ ls, '\n' ∉ l) :
    List.Forall₂ KeepsReturn (lines (ls.flatMap (· ++ ['\n']))) ls := by
  induction ls with
  | nil => exact .nil
  | cons l ls ih =>
      obtain ⟨hl, hls⟩ := List.forall_mem_cons.mp h
      obtain ⟨k, hk, hlines⟩ := exists_lines_append_newline hl (ls.flatMap (· ++ ['\n']))
      rw [List.flatMap_cons, List.append_assoc, List.singleton_append, hlines]
      exact .cons hk (ih hls)

theorem Survey.feedAll_eq_of_keepsReturn {ls ms : List (List Char)}
    (h : List.Forall₂ KeepsReturn ls ms) (s : Survey) : s.feedAll ls = s.feedAll ms :=
  feedAll_congr (h.imp fun _ _ hlm ↦ hlm.codeOf_eq) s

/-- The frame of the lines of a program, whatever ends them. -/
theorem Frame.ofProgram_unlines {ls : List (List Char)} (h : ∀ l ∈ ls, '\n' ∉ l) :
    Frame.ofProgram (unlines (ls.map String.ofList)) = (Survey.feedAll {} ls).frame := by
  have htext : (unlines (ls.map String.ofList)).toList = ls.flatMap (· ++ ['\n']) := by
    rw [toList_unlines, List.flatMap_map]
    simp only [String.toList_ofList]
  rw [Frame.ofProgram, survey, htext, Survey.feedAll_eq_of_keepsReturn (keepsReturn_lines_flatMap h)]

/-! ## Main results -/

/-- Nothing but the number of lines may be different. -/
def Frame.SameButLines (f g : Frame) : Prop :=
  g.bounds = f.bounds ∧ g.unit = f.unit ∧ g.tally.moves = f.tally.moves ∧
    g.tally.arcs = f.tally.arcs ∧ g.tally.skippedArcs = f.tally.skippedArcs ∧
    g.tally.droppedWords = f.tally.droppedWords

/-- A program in another layout has the same frame, and its number of lines is different by the lines
that were inserted and deleted. This holds of its lines wherever the survey starts, and of its text. -/
theorem frame_of_edits {ls ms : List (List Char)} {inserted deleted : Nat}
    (h : Edits ls inserted deleted ms) :
    (∀ s : Survey, (s.feedAll ls).frame.SameButLines (s.feedAll ms).frame ∧
      (s.feedAll ms).frame.tally.lines + deleted = (s.feedAll ls).frame.tally.lines + inserted) ∧
    ((∀ l ∈ ls ++ ms, '\n' ∉ l) →
      let f := Frame.ofProgram (unlines (ls.map String.ofList))
      let g := Frame.ofProgram (unlines (ms.map String.ofList))
      f.SameButLines g ∧ g.tally.lines + deleted = f.tally.lines + inserted) := by
  have hlines (s : Survey) : (s.feedAll ls).frame.SameButLines (s.feedAll ms).frame ∧
      (s.feedAll ms).frame.tally.lines + deleted = (s.feedAll ls).frame.tally.lines + inserted := by
    have heq := congrArg Survey.frame (h.feedAll_eq s)
    exact ⟨⟨congrArg (·.bounds) heq, congrArg (·.unit) heq, congrArg (·.tally.moves) heq,
      congrArg (·.tally.arcs) heq, congrArg (·.tally.skippedArcs) heq,
      congrArg (·.tally.droppedWords) heq⟩, congrArg (·.tally.lines) heq⟩
  refine ⟨hlines, fun hfree ↦ ?_⟩
  obtain ⟨hls, hms⟩ := List.forall_mem_append.mp hfree
  rw [Frame.ofProgram_unlines hls, Frame.ofProgram_unlines hms]
  exact hlines {}

theorem frame_of_edits_recased :
    let ls := ["G1 X1 Yß".toList, "; cut".toList, "G91 X2".toList]
    let ms := ["G1 X1 Yß ;G0 X9".toList, "\t".toList, "\u2003g91 x2".toList]
    Edits ls 1 1 ms ∧ (∀ l ∈ ls ++ ms, '\n' ∉ l) ∧
      (Frame.ofProgram (unlines (ls.map String.ofList))).SameButLines
        (Frame.ofProgram (unlines (ms.map String.ofList))) := by
  intro ls ms
  have hdelete : Edits ls 0 1 ["G1 X1 Yß".toList, "G91 X2".toList] :=
    @Edits.delete _ _ _ ["G1 X1 Yß".toList] _ _ .refl (by decide)
  have hpad : Edits ls 0 1 ["G1 X1 Yß ".toList, "G91 X2".toList] :=
    @Edits.line _ _ _ [] _ _ _ hdelete
      (@LineEdit.pad [' '] (List.forall_mem_singleton.mpr (by decide)) _)
  have hcomment : Edits ls 0 1 ["G1 X1 Yß ;G0 X9".toList, "G91 X2".toList] :=
    @Edits.line _ _ _ [] _ _ _ hpad (.comment _ "G0 X9".toList)
  have hrecase : Edits ls 0 1 ["G1 X1 Yß ;G0 X9".toList, "g91 x2".toList] :=
    @Edits.line _ _ _ [_] _ _ _ hcomment (.recase (by decide))
  have hindent : Edits ls 0 1 ["G1 X1 Yß ;G0 X9".toList, "\u2003g91 x2".toList] :=
    @Edits.line _ _ _ [_] _ _ _ hrecase
      (@LineEdit.indent ['\u2003'] (List.forall_mem_singleton.mpr (by decide)) _)
  have hinsert : Edits ls 1 1 ms := @Edits.insert _ _ _ [_] _ _ hindent (by decide)
  have hfree : ∀ l ∈ ls ++ ms, '\n' ∉ l := by decide
  exact ⟨hinsert, hfree, ((frame_of_edits hinsert).2 hfree).1⟩

/-- Carriage returns in front of all line feeds leave the frame as it is, and so does a line feed after
a last line that has none. -/
theorem frame_of_lineEnds (program : String) :
    Frame.ofProgram (String.ofList (withReturns program.toList)) = Frame.ofProgram program ∧
      (program ≠ "" → program.toList.getLast? ≠ some '\n' →
        Frame.ofProgram (program ++ "\n") = Frame.ofProgram program) := by
  constructor
  · rw [Frame.ofProgram, Frame.ofProgram, survey, survey, String.toList_ofList]
    exact congrArg Survey.frame
      (Survey.feedAll_eq_of_keepsReturn (keepsReturn_lines_withReturns program.toList) {}).symm
  · intro hne hlast
    obtain ⟨c, hc⟩ : ∃ c, program.toList.getLast? = some c :=
      ⟨_, List.getLast?_eq_some_getLast (by simpa using hne)⟩
    have hnewline : c ≠ '\n' := by
      rintro rfl
      exact hlast hc
    rw [Frame.ofProgram, Frame.ofProgram, survey, survey, String.toList_append]
    exact congrArg Survey.frame
      (Survey.feedAll_eq_of_keepsReturn (keepsReturn_lines_append_newline hc hnewline) {})

theorem frame_of_lineEnds_unended :
    let program := "G1 X1\r\r\nG1 Y2;\r"
    program ≠ "" ∧ program.toList.getLast? ≠ some '\n' ∧
      Frame.ofProgram (program ++ "\n") = Frame.ofProgram program := by
  intro program
  have hne : program ≠ "" := by decide
  have hlast : program.toList.getLast? ≠ some '\n' := by decide
  exact ⟨hne, hlast, (frame_of_lineEnds program).2 hne hlast⟩

end Toolpath
