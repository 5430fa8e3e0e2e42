import Mathlib.Tactic
import Toolpath.Number.Fixed
import Toolpath.Text.DecimalDigit

/-!
# Runs of digits

The digits of a number stand for the number, with or without zeros in front. A number of decimal
places is split into the digits before and after the point, and the two runs in a row stand for the
number of places again.
-/

namespace Toolpath

theorem isDigit_iff {c : Char} : isDigit c = true ↔ 48 ≤ c.toNat ∧ c.toNat ≤ 57 := by
  unfold isDigit
  rw [Bool.and_eq_true, decide_eq_true_iff, decide_eq_true_iff]
  rfl

theorem isDecimalDigit_of_isDigit {c : Char} (h : isDigit c) : isDecimalDigit c := by
  rw [isDigit_iff] at h
  unfold isDecimalDigit
  rw [List.any_eq_true]
  refine ⟨0x0030, List.mem_cons_self, ?_⟩
  simp only [Bool.and_eq_true, decide_eq_true_iff]
  omega

theorem isDigit_of_mem_digitsOfNat {n : Nat} {c : Char} (h : c ∈ digitsOfNat n) : isDigit c := by
  have hc := Nat.isDigit_of_mem_toDigits (by norm_num) (by norm_num) h
  rw [isDigit_iff]
  simp only [Char.isDigit, Bool.and_eq_true, decide_eq_true_iff] at hc
  exact hc

theorem isDigit_of_mem_paddedDigits {k n : Nat} {c : Char} (h : c ∈ paddedDigits k n) :
    isDigit c := by
  rcases List.mem_append.mp h with h | h
  · rw [List.eq_of_mem_replicate h]
    decide
  · exact isDigit_of_mem_digitsOfNat h

theorem length_paddedDigits {k n : Nat} (hk : 0 < k) (hn : n < 10 ^ k) :
    (paddedDigits k n).length = k := by
  have hle : (digitsOfNat n).length ≤ k := (Nat.length_toDigits_le_iff (by norm_num) hk).mpr hn
  unfold paddedDigits
  rw [List.length_append, List.length_replicate]
  omega

/-- The longest run ends where the rest does not continue it. -/
theorem takeWhile_append_of_stops {p : Char → Bool} {ds : List Char} (hds : ∀ c ∈ ds, p c)
    (rest : List Char) (hrest : ∀ c ∈ rest.head?, p c = false) :
    (ds ++ rest).takeWhile p = ds ∧ (ds ++ rest).dropWhile p = rest := by
  rw [List.takeWhile_append_of_pos hds, List.dropWhile_append_of_pos hds]
  cases rest with
  | nil => simp
  | cons c cs => simp [hrest c rfl]

/-! ## The number of a run -/

theorem natOfDigits_eq (cs : List Char) : natOfDigits cs = Nat.ofDigitChars 10 cs 0 := rfl

@[simp] theorem natOfDigits_digitsOfNat (n : Nat) : natOfDigits (digitsOfNat n) = n :=
  Nat.ofDigitChars_ten_toDigits

theorem natOfDigits_append (cs ds : List Char) :
    natOfDigits (cs ++ ds) = 10 ^ ds.length * natOfDigits cs + natOfDigits ds := by
  simp only [natOfDigits_eq, Nat.ofDigitChars_append]
  exact Nat.ofDigitChars_eq_ofDigitChars_zero

@[simp] theorem natOfDigits_paddedDigits (k n : Nat) : natOfDigits (paddedDigits k n) = n := by
  unfold paddedDigits
  rw [natOfDigits_append, natOfDigits_eq (List.replicate _ _), Nat.ofDigitChars_replicate_zero,
    natOfDigits_digitsOfNat]
  simp

/-- The digits before and after the point are the digits of the whole. -/
theorem natOfDigits_places {k : Nat} (hk : 0 < k) (n : Nat) :
    natOfDigits (digitsOfNat (n / 10 ^ k) ++ paddedDigits k (n % 10 ^ k)) = n := by
  rw [natOfDigits_append, length_paddedDigits hk (Nat.mod_lt _ (by positivity)),
    natOfDigits_digitsOfNat, natOfDigits_paddedDigits, Nat.div_add_mod]

end Toolpath
