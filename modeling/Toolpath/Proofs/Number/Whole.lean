import Toolpath.Program.Block
import Toolpath.Proofs.Number.Error
import Toolpath.Proofs.Number.Shortest

/-!
# Whole numbers

A whole number of at most 53 binary digits is a double, and a run of its digits is read as that double.
The code of a double is the whole number that it equals, so both zeros have the code zero.
-/

namespace Toolpath.Binary64

/-- With one digit more an even number is still a double. -/
theorem ofNat_exact {n : Nat} (hn : n < 9007199254740992 ∨ n % 2 = 0 ∧ n < 18014398509481984) :
    (ofNat n).isFinite ∧ (ofNat n).magnitude = n * unit := by
  obtain ⟨m, q, hm, hq, hgrid⟩ : ∃ m q, m < 9007199254740992 ∧ q ≤ 2045 ∧ n * unit = m * 2 ^ q := by
    rcases hn with hn | ⟨heven, hn⟩
    · exact ⟨n, 1074, hn, by decide, by rw [unit_eq]⟩
    · obtain ⟨m, rfl⟩ := Nat.dvd_of_mod_eq_zero heven
      refine ⟨m, 1074 + 1, by omega, by decide, ?_⟩
      rw [unit_eq, pow_succ 2 1074, Nat.mul_comm 2 m, Nat.mul_assoc, Nat.mul_comm 2]
  rw [ofNat, hgrid]
  exact ⟨isFinite_round_exact false hm hq, magnitude_round_exact false hm hq⟩

theorem ticks_ofNat {n : Nat} (hn : n < 9007199254740992) : (ofNat n).ticks = n * unit := by
  have hs : (ofNat n).isNegative = false := isNegative_round false _ _
  rw [ticks_of_not_isNegative hs, (ofNat_exact (Or.inl hn)).2, Nat.cast_mul]

/-- A run of digits is read as its whole number. -/
theorem toBinary64_whole (n : Nat) : (Decimal.mk false n 0).toBinary64 = .ofNat n := by
  by_cases hn : n = 0
  · subst hn
    decide +kernel
  · have hround : (Decimal.mk false n 0).toBinary64 = .round false (n * 1 * unit) 1 :=
      Decimal.toBinary64_ofNat hn (by decide)
    rw [hround, Nat.mul_one, ofNat]

theorem toInt?_eq_some_iff {v : Binary64} {n : Int} :
    v.toInt? = some n ↔ v.isFinite ∧ v.ticks = n * unit := by
  have hunit : (unit : Int) ≠ 0 := by exact_mod_cast unit_pos.ne'
  cases v with
  | nan => simp [toInt?, isFinite]
  | infinity s => simp [toInt?, isFinite]
  | finite s m p h =>
      have hdvd : (finite s m p h).magnitude % unit = 0 ↔ (unit : Int) ∣ (finite s m p h).ticks := by
        rw [← Nat.dvd_iff_mod_eq_zero, ← natAbs_ticks, Int.natCast_dvd]
      simp only [toInt?, isFinite, true_and, hdvd]
      constructor
      · intro hn
        split at hn
        next hd =>
          rw [← Option.some.inj hn, Int.ediv_mul_cancel hd]
        next => cases hn
      · intro hn
        rw [hn, if_pos (Dvd.intro_left n rfl), Int.mul_ediv_cancel n hunit]

/-- The code of a double is the number that it equals. -/
theorem code?_eq_some_iff {v : Binary64} {n : Nat} (hn : n ≤ 4294967295) :
    v.code? = some n ↔ v.eq (ofNat n) = true := by
  have hsmall : n < 9007199254740992 := by omega
  have hcode : v.code? = some n ↔ v.toInt? = some (n : Int) := by
    unfold code?
    cases v.toInt? with
    | none => simp
    | some k =>
        dsimp only
        split
        next h => simp only [Option.some.injEq]; omega
        next h => simp only [Option.some.injEq, reduceCtorEq, false_iff]; omega
  rw [hcode, toInt?_eq_some_iff, eq_iff, ticks_ofNat hsmall]
  constructor
  · rintro ⟨hfinite, hticks⟩
    exact ⟨ne_nan_of_isFinite hfinite, round_ne_nan _ _ _, hticks⟩
  · rintro ⟨hv, -, hticks⟩
    refine ⟨(isFinite_iff hv).mpr ?_, hticks⟩
    rw [hticks, ← ticks_ofNat hsmall]
    exact (isFinite_iff (round_ne_nan _ _ _)).mp (ofNat_exact (Or.inl hsmall)).1

theorem code?_ofNat {n : Nat} (hn : n ≤ 4294967295) : (ofNat n).code? = some n :=
  (code?_eq_some_iff hn).mpr (eq_refl (round_ne_nan _ _ _))

end Toolpath.Binary64
