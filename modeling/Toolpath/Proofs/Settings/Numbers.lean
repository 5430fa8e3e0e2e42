import Toolpath.Proofs.Json.Reread
import Toolpath.Proofs.Toml.Document

/-!
# Numbers with few digits

A number that is written with a point, without an exponent and with at most fifteen digits is read as
the nearest double in both formats: its digits are an integer that is a double, and so is the power of
ten that they are divided by, so that the reader of JSON rounds only once.
-/

namespace Toolpath

theorem Binary64.neg_round (a d : Nat) : (round false a d).neg = round true a d := by
  have hplace (m p : Nat) : (place false m p).neg = place true m p := by
    unfold place
    split
    split <;> rfl
  rw [round_eq_place, round_eq_place, hplace]

namespace Written

/-- A number with a point, no exponent and at most fifteen digits. -/
structure FewDigits (w : Written) : Prop where
  proper : w.Proper
  point : ∃ ds, w.fraction = some ds ∧ w.whole.length + ds.length ≤ 15
  exponent : w.exponent = none

/-- The double nearest to a number without an exponent. -/
def nearest (w : Written) : Binary64 := w.mantissa.toBinary64

variable {w : Written} (h : w.FewDigits)

include h

/-- The digits without the point, over a power of ten. -/
theorem FewDigits.exists_mantissa : ∃ c k : Nat, c < 10 ^ 15 ∧ k < 15 ∧
    w.mantissa = ⟨w.negative, c, .negSucc k⟩ := by
  obtain ⟨ds, hfraction, hfew⟩ := h.point
  have hrun := h.proper.fraction ds hfraction
  have hpositive := List.length_pos_iff.mpr hrun.1
  have hdigits : ∀ c ∈ w.whole ++ ds, isDigit c := by
    intro c hc
    exact (List.mem_append.mp hc).elim (h.proper.whole.2 c) (hrun.2 c)
  have hlt := natOfDigits_lt hdigits
  rw [List.length_append] at hlt
  refine ⟨natOfDigits (w.whole ++ ds), ds.length - 1,
    hlt.trans_le (Nat.pow_le_pow_right (by decide) hfew), by omega, ?_⟩
  rw [mantissa, hfraction, Option.getD_some, Decimal.ofDigits, Int.negSucc_eq]
  congr 1
  omega

theorem FewDigits.isFinite_nearest : w.nearest.isFinite := by
  obtain ⟨c, k, hc, -, hmantissa⟩ := h.exists_mantissa
  rw [nearest, hmantissa, Decimal.toBinary64_negSucc_eq, Binary64.isFinite_round_iff _ (by positivity)]
  have hbound : 10 ^ 15 ≤ Binary64.overflowBound := by decide +kernel
  calc
    c * Binary64.unit < 10 ^ 15 * Binary64.unit := Nat.mul_lt_mul_of_pos_right hc Binary64.unit_pos
    _ ≤ Binary64.overflowBound * Binary64.unit := Nat.mul_le_mul_right _ hbound
    _ ≤ Binary64.overflowBound * Binary64.unit * 10 ^ (k + 1) :=
      Nat.le_mul_of_pos_right _ (by positivity)

theorem FewDigits.isNearest : w.nearest.IsNearest w.mantissa.value :=
  Decimal.isNearest_toBinary64 h.isFinite_nearest

theorem FewDigits.toDouble? : Json.toDouble? w = some w.nearest := by
  obtain ⟨c, k, hc, hk, hmantissa⟩ := h.exists_mantissa
  obtain ⟨ds, hfraction, -⟩ := h.point
  have hinteger : w.isInteger = false := by
    rw [isInteger, hfraction]
    rfl
  have hexponent : Json.writtenExponent w = 0 := by
    rw [Json.writtenExponent, h.exponent]
  have hsmall : w.mantissa.coefficient < 18446744073709551616 := by
    rw [hmantissa]
    exact hc.trans (by decide)
  have hdivided := Json.divideDown_exact (Or.inl (hc.trans (by decide))) (hk.trans (by decide))
  rw [Json.toDouble?_eq_map hinteger (by rw [hexponent]; rfl) hsmall, hexponent, hmantissa, add_zero,
    hdivided, Option.map_some, nearest, hmantissa, Decimal.toBinary64_negSucc_eq,
    Decimal.toBinary64_negSucc_eq]
  cases w.negative with
  | false => rw [if_neg Bool.false_ne_true]
  | true => rw [if_pos rfl, Binary64.neg_round]

theorem FewDigits.isValue : Toml.IsValue w.text (.float w.nearest) := by
  obtain ⟨ds, hfraction, -⟩ := h.point
  have hne : w.text ≠ [] := by
    rw [Toml.text_eq hfraction h.exponent]
    simp
  refine Toml.isValue_of_word? hne (Toml.isWordChar_of_mem_text h.proper hfraction h.exponent) ?_
  refine Toml.word?_text h.proper hfraction h.exponent fun hinfinite ↦ ?_
  have hfinite := h.isFinite_nearest
  rw [nearest, hinfinite] at hfinite
  cases hfinite

end Written

end Toolpath
