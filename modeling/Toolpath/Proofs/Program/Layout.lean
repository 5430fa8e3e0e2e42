import Toolpath.Program.Modal
import Toolpath.Proofs.Text.Plain

/-!
# The layout of a line

What a line says is read from its code: the text in front of the comment, without the blanks around
it and in upper case. A comment, blanks at both ends and the case of ASCII letters are therefore
layout. A line whose code is empty says nothing.
-/

namespace Toolpath

/-! ## Blanks and comments -/

theorem isBlank_ne_semicolon {c : Char} (h : isBlank c) : c ≠ ';' := by
  rintro rfl
  revert h
  decide

theorem trim_blanks_append {blanks : List Char} (h : ∀ c ∈ blanks, isBlank c) (cs : List Char) :
    trim (blanks ++ cs) = trim cs := by
  rw [trim, trimStart, List.dropWhile_append_of_pos h]
  rfl

theorem trimEnd_append_blanks {blanks : List Char} (h : ∀ c ∈ blanks, isBlank c) (cs : List Char) :
    trimEnd (cs ++ blanks) = trimEnd cs := by
  rw [trimEnd, List.reverse_append, List.dropWhile_append_of_pos (by simpa using h)]
  rfl

theorem trim_append_blanks {blanks : List Char} (h : ∀ c ∈ blanks, isBlank c) (cs : List Char) :
    trim (cs ++ blanks) = trim cs := by
  unfold trim trimStart
  rw [List.dropWhile_append]
  split
  next hcs =>
    rw [List.isEmpty_iff.mp hcs, List.dropWhile_eq_nil_iff.mpr (by simpa using h)]
  next => exact trimEnd_append_blanks h _

theorem stripComment_append_comment (line text : List Char) :
    stripComment (line ++ ';' :: text) = stripComment line := by
  unfold stripComment
  rw [List.takeWhile_append]
  split
  next hlen =>
    rw [List.takeWhile_cons_of_neg (by simp), List.append_nil,
      (List.takeWhile_prefix _).eq_of_length hlen]
  next => rfl

theorem stripComment_blanks_append {blanks : List Char} (h : ∀ c ∈ blanks, isBlank c)
    (line : List Char) : stripComment (blanks ++ line) = stripComment line := by
  unfold stripComment
  rw [List.takeWhile_append_of_pos fun c hc ↦ by simpa using isBlank_ne_semicolon (h c hc),
    trim_blanks_append h]

theorem stripComment_append_blanks {blanks : List Char} (h : ∀ c ∈ blanks, isBlank c)
    (line : List Char) : stripComment (line ++ blanks) = stripComment line := by
  unfold stripComment
  rw [List.takeWhile_append]
  split
  next hlen =>
    rw [List.takeWhile_eq_self_iff.mpr fun c hc ↦ by simpa using isBlank_ne_semicolon (h c hc),
      trim_append_blanks h, (List.takeWhile_prefix _).eq_of_length hlen]
  next => rfl

/-! ## The case of letters -/

/-- Lower case leaves every other character as it is, and upper case undoes it. -/
theorem toLower_spec (c : Char) : isBlank c.toLower = isBlank c ∧
    (c.toLower != ';') = (c != ';') ∧ upperChar c.toLower = upperChar c := by
  by_cases hc : c.toNat < 128
  · have hall : ∀ n : Fin 128, isBlank (Char.ofNat n).toLower = isBlank (Char.ofNat n) ∧
        ((Char.ofNat n).toLower != ';') = (Char.ofNat n != ';') ∧
        upperChar (Char.ofNat n).toLower = upperChar (Char.ofNat n) := by
      decide +kernel
    exact of_ascii (p := fun c ↦ isBlank c.toLower = isBlank c ∧
      (c.toLower != ';') = (c != ';') ∧ upperChar c.toLower = upperChar c) hall hc
  · have hlow : c.toLower = c := by
      unfold Char.toLower
      split
      next h =>
        have : c.toNat ≤ 90 := h.2
        omega
      next => rfl
    rw [hlow]
    exact ⟨rfl, rfl, rfl⟩

theorem stripComment_map_toLower (line : List Char) :
    stripComment (line.map Char.toLower) = (stripComment line).map Char.toLower := by
  have hblank : (isBlank ∘ Char.toLower) = isBlank := funext fun c ↦ (toLower_spec c).1
  have hsemi : ((· != ';') ∘ Char.toLower) = (· != ';') := funext fun c ↦ (toLower_spec c).2.1
  have hdrop (cs : List Char) :
      (cs.map Char.toLower).dropWhile isBlank = (cs.dropWhile isBlank).map Char.toLower := by
    rw [List.dropWhile_map, hblank]
  unfold stripComment trim trimEnd trimStart
  rw [List.takeWhile_map, hsemi, hdrop, ← List.map_reverse, hdrop, List.map_reverse]

theorem uppercase_map_toLower (cs : List Char) : uppercase (cs.map Char.toLower) = uppercase cs := by
  unfold uppercase
  rw [List.flatMap_map]
  exact congrArg (fun f ↦ cs.flatMap f) (funext fun c ↦ (toLower_spec c).2.2)

/-! ## Edits of a line -/

/-- The text of a line that words are scanned from. -/
def codeOf (line : List Char) : List Char := uppercase (stripComment line)

theorem Modal.step_congr {l m : List Char} (h : codeOf l = codeOf m) (s : Modal) : s.step l = s.step m := by
  have hread : Block.read? l = Block.read? m := by
    unfold Block.read?
    exact congrArg (fun code : List Char ↦
      if code.isEmpty then none else some (Block.ofWords (Word.scan code))) h
  rw [step, step, hread]

theorem Modal.step_of_stripComment_eq_nil {l : List Char} (h : stripComment l = []) (s : Modal) :
    s.step l = (s, .blank) := by
  have hread : Block.read? l = none := by
    rw [Block.read?, h]
    rfl
  rw [step, hread]

/-- One change of the layout of a line: a comment at its end, ASCII letters in another case, or
blanks in front of it or behind it. -/
inductive LineEdit : List Char → List Char → Prop where
  | comment (line text : List Char) : LineEdit line (line ++ ';' :: text)
  | recase {line other : List Char} (h : line.map Char.toLower = other.map Char.toLower) :
    LineEdit line other
  | indent {blanks : List Char} (h : ∀ c ∈ blanks, isBlank c) (line : List Char) :
    LineEdit line (blanks ++ line)
  | pad {blanks : List Char} (h : ∀ c ∈ blanks, isBlank c) (line : List Char) :
    LineEdit line (line ++ blanks)

theorem LineEdit.codeOf_eq {l m : List Char} (h : LineEdit l m) : codeOf m = codeOf l := by
  unfold codeOf
  cases h with
  | comment text => rw [stripComment_append_comment]
  | recase h =>
      rw [← uppercase_map_toLower, ← stripComment_map_toLower, ← h, stripComment_map_toLower,
        uppercase_map_toLower]
  | indent h => rw [stripComment_blanks_append h]
  | pad h => rw [stripComment_append_blanks h]

end Toolpath
