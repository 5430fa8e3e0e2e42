import Mathlib.Data.List.TakeWhile
import Mathlib.Tactic
import Toolpath.Text.Lines
import Toolpath.Program.Block

/-!
# Plain text

Capital letters, ASCII digits, signs and points are the characters that programs are written with. No
upper case, no trimming, no comment and no line end changes a text of such words with single blanks
between them.
-/

namespace Toolpath

def isPlain (c : Char) : Bool :=
  Word.isLetter c || isDigit c || c = '+' || c = '-' || c = '.'

/-- A property of all ASCII characters is tried on each of them. -/
theorem of_ascii {p : Char → Prop} (h : ∀ n : Fin 128, p (Char.ofNat n)) {c : Char}
    (hc : c.toNat < 128) : p c := by
  have := h ⟨c.toNat, hc⟩
  rwa [Char.ofNat_toNat] at this

theorem toNat_lt_of_isPlain {c : Char} (h : isPlain c) : c.toNat < 128 := by
  simp only [isPlain, Word.isLetter, isDigit, Bool.or_eq_true, Bool.and_eq_true, decide_eq_true_iff]
    at h
  rcases h with (((⟨-, h⟩ | ⟨-, h⟩) | rfl) | rfl) | rfl
  · exact lt_of_le_of_lt (show c.toNat ≤ 90 from h) (by norm_num)
  · exact lt_of_le_of_lt (show c.toNat ≤ 57 from h) (by norm_num)
  · decide
  · decide
  · decide

/-- A plain character is in upper case and is none of those that end something. -/
theorem plain_spec {c : Char} (h : isPlain c) :
    upperChar c = [c] ∧ isBlank c = false ∧ c ≠ ';' ∧ c ≠ '\n' ∧ c ≠ '\r' := by
  have hall : ∀ n : Fin 128, isPlain (Char.ofNat n) → upperChar (Char.ofNat n) = [Char.ofNat n] ∧
      isBlank (Char.ofNat n) = false ∧ Char.ofNat n ≠ ';' ∧ Char.ofNat n ≠ '\n' ∧
      Char.ofNat n ≠ '\r' := by
    decide +kernel
  exact of_ascii (p := fun c ↦ isPlain c → upperChar c = [c] ∧ isBlank c = false ∧ c ≠ ';' ∧
    c ≠ '\n' ∧ c ≠ '\r') hall (toNat_lt_of_isPlain h) h

/-! ## Lines of code -/

theorem uppercase_append (cs ds : List Char) :
    uppercase (cs ++ ds) = uppercase cs ++ uppercase ds :=
  List.flatMap_append

theorem uppercase_cons {c : Char} (h : upperChar c = [c]) (cs : List Char) :
    uppercase (c :: cs) = c :: uppercase cs := by
  rw [uppercase, List.flatMap_cons, h]
  rfl

theorem uppercase_eq_self {cs : List Char} (h : ∀ c ∈ cs, upperChar c = [c]) :
    uppercase cs = cs := by
  unfold uppercase
  induction cs with
  | nil => rfl
  | cons c cs ih =>
      rw [List.flatMap_cons, h c List.mem_cons_self, ih fun d hd ↦ h d (List.mem_cons_of_mem c hd)]
      rfl

theorem trimStart_eq_self {cs : List Char} (h : ∀ c ∈ cs.head?, isBlank c = false) :
    trimStart cs = cs := by
  unfold trimStart
  cases cs with
  | nil => rfl
  | cons c cs => rw [List.dropWhile_cons_of_neg (by simp [h c rfl])]

theorem trim_eq_self {cs : List Char} (hhead : ∀ c ∈ cs.head?, isBlank c = false)
    (hlast : ∀ c ∈ cs.getLast?, isBlank c = false) : trim cs = cs := by
  rw [trim, trimStart_eq_self hhead]
  change (trimStart cs.reverse).reverse = cs
  rw [trimStart_eq_self (by simpa using hlast), List.reverse_reverse]

theorem stripComment_eq_self {cs : List Char} (h : ∀ c ∈ cs, c ≠ ';')
    (hhead : ∀ c ∈ cs.head?, isBlank c = false) (hlast : ∀ c ∈ cs.getLast?, isBlank c = false) :
    stripComment cs = cs := by
  unfold stripComment
  rw [List.takeWhile_eq_self_iff.mpr (by simpa using h), trim_eq_self hhead hlast]

/-! ## Line ends -/

theorem lines_append_newline {l : List Char} (h : ∀ c ∈ l, c ≠ '\n' ∧ c ≠ '\r')
    (rest : List Char) : lines (l ++ '\n' :: rest) = l :: lines rest := by
  induction l with
  | nil => rfl
  | cons c l ih =>
      obtain ⟨hn, hr⟩ := h c List.mem_cons_self
      have ih := ih fun d hd ↦ h d (List.mem_cons_of_mem c hd)
      rw [List.cons_append, lines.eq_4 _ _ (by simpa using hn) (by simp [hr]), ih]

/-- Texts without line ends are the lines of the text that has a line feed after each. -/
theorem lines_flatMap {ls : List (List Char)} (h : ∀ l ∈ ls, ∀ c ∈ l, c ≠ '\n' ∧ c ≠ '\r') :
    lines (ls.flatMap (· ++ ['\n'])) = ls := by
  induction ls with
  | nil => rfl
  | cons l ls ih =>
      rw [List.flatMap_cons, List.append_assoc, List.singleton_append,
        lines_append_newline (h l List.mem_cons_self),
        ih fun m hm ↦ h m (List.mem_cons_of_mem l hm)]

theorem intercalate_append_singleton {α : Type*} (a : α) {ls : List (List α)} (hne : ls ≠ []) :
    [a].intercalate ls ++ [a] = ls.flatMap (· ++ [a]) := by
  induction ls with
  | nil => exact absurd rfl hne
  | cons l ls ih =>
      cases ls with
      | nil => simp
      | cons m ls =>
          rw [List.intercalate_cons_cons, List.append_assoc, ih (by simp)]
          rfl

end Toolpath
