import Toolpath.Proofs.Json.Number
import Toolpath.Proofs.Number.Arithmetic
import Toolpath.Proofs.Number.Exact
import Toolpath.Proofs.Number.Whole

/-!
# Doubles reread from their own documents

The integer of the digits is rounded to a double, so is the power of ten, and so is the result. Where
the integer and the power of ten are doubles themselves only the last step rounds, and the double is
reread as it was. This covers the feeds that are entered by hand, but not all doubles; any other
positive double is still reread as a positive one next to it.
-/

namespace Toolpath.Json

open Binary64 (unit horizon Close)

/-- The double that is read from the document of a double. -/
def reread (x : Binary64) : Option Binary64 := toBinary64? (ofDouble x)

/-- Rereading applies a power of ten to the digits of the shortest decimal. -/
theorem reread_finite {m p : Nat} (hcanonical : Binary64.Canonical m p) (hm : m ≠ 0) :
    ∃ c k, Decimal.shortest layout.tie false m p = ⟨false, c, k⟩ ∧ c ≠ 0 ∧ c < 10 ^ 18 ∧
      -345 ≤ k ∧ k ≤ 310 ∧ (spelled c k).toBinary64 = .finite false m p hcanonical ∧
      reread (.finite false m p hcanonical) =
        divideDown 4 (.ofNat (spelled c k).coefficient) (spelled c k).exponent := by
  obtain ⟨c, k, hshortest, hc, hlow, hhigh, -⟩ := Shortest.shortest_spec layout.tie false hcanonical hm
  have hlt := Shortest.shortest_coefficient_lt layout.tie false hcanonical
  have hx := Decimal.toBinary64_shortest layout.tie false hcanonical
  have hread : reread (.finite false m p hcanonical) =
      toDouble? (layout.decimal (Decimal.shortest layout.tie false m p)) := rfl
  rw [hshortest] at hlt hx hread
  refine ⟨c, k, hshortest, hc, hlt, hlow, hhigh, ?_, ?_⟩
  · rw [toBinary64_spelled (by omega) (by omega), hx]
  · rw [hread, toDouble?_decimal (hlt.trans (by decide)) (by omega) (by omega)]

/-! ## Dividing down -/

section DivideDown

variable (fuel : Nat) (f : Binary64) {k : Nat}

theorem divideDown_of_nonneg (hk : k ≤ 308) (h : (f * tenToThe k).isFinite) :
    divideDown fuel f k = some (f * tenToThe k) := by
  unfold divideDown
  rw [Int.natAbs_natCast, if_pos hk, if_pos (Int.natCast_nonneg k)]
  exact if_pos h

theorem divideDown_of_neg (hk0 : k ≠ 0) (hk : k ≤ 308) :
    divideDown fuel f (-(k : Int)) = some (f / tenToThe k) := by
  unfold divideDown
  rw [Int.natAbs_neg, Int.natAbs_natCast, if_pos hk, if_neg (by omega)]

theorem divideDown_of_far (hf : f.eq 0 = false) (hk : 308 < k) :
    divideDown (fuel + 1) f (-(k : Int)) = divideDown fuel (f / tenToThe 308) (-(k : Int) + 308) := by
  rw [divideDown, Int.natAbs_neg, Int.natAbs_natCast, if_neg (by omega), hf]
  simp only [Bool.false_eq_true, if_false]
  exact if_neg (by omega)

end DivideDown

/-! ## Short decimals -/

/-- A positive decimal below `10 ^ 15` with at most fifteen digits and at most twenty-two places after
the point. -/
structure IsShort (x : Decimal) : Prop where
  nonzero : x.coefficient ≠ 0
  digits : x.coefficient < 10 ^ 15
  places : -22 ≤ x.exponent
  below : x.coefficient * 10 ^ x.exponent.toNat < 10 ^ 15

theorem isShort_iff {x : Decimal} : IsShort x ↔ (x.coefficient ≠ 0 ∧ x.coefficient < 10 ^ 15) ∧
    -22 ≤ x.exponent ∧ x.coefficient * 10 ^ x.exponent.toNat < 10 ^ 15 :=
  ⟨fun h ↦ ⟨⟨h.nonzero, h.digits⟩, h.places, h.below⟩, fun h ↦ ⟨h.1.1, h.1.2, h.2.1, h.2.2⟩⟩

instance : DecidablePred IsShort := fun _ ↦ decidable_of_iff' _ isShort_iff

theorem tenToThe_exact : ∀ k ≤ 22, (tenToThe k).isFinite ∧ (tenToThe k).isNegative = false ∧
    (tenToThe k).magnitude = 10 ^ k * unit := by
  decide +kernel

/-- The quotient of an integer and a power of ten is rounded once if both are doubles. -/
theorem ofNat_div_tenToThe {n : Nat} (hn : n < 9007199254740992 ∨ n % 2 = 0 ∧ n < 18014398509481984)
    {k : Nat} (hk : k ≤ 22) :
    Binary64.ofNat n / tenToThe k = .round false (n * unit) (Nat.pow 10 k) := by
  obtain ⟨hfinite, hnegative, hmagnitude⟩ := tenToThe_exact k hk
  obtain ⟨hofNat, hexact⟩ := Binary64.ofNat_exact hn
  have hpos : 10 ^ k * unit ≠ 0 := (Nat.mul_pos (Nat.pow_pos (by decide)) Binary64.unit_pos).ne'
  rw [Binary64.div_eq_round hofNat hfinite (hmagnitude ▸ hpos), hexact, hmagnitude, hnegative,
    Binary64.ofNat, Binary64.isNegative_round]
  exact Binary64.round_mul_right false (n * unit) (10 ^ k) Binary64.unit_pos

/-- One division is enough for an integer that is a double, and is rounded once. -/
theorem divideDown_exact {n k : Nat}
    (hn : n < 9007199254740992 ∨ n % 2 = 0 ∧ n < 18014398509481984) (hk : k < 22) :
    divideDown 4 (.ofNat n) (.negSucc k) = some (Decimal.toBinary64 ⟨false, n, .negSucc k⟩) := by
  rw [Int.negSucc_eq, ← Nat.cast_succ, divideDown_of_neg _ _ (by omega) (by omega),
    ofNat_div_tenToThe hn hk, Nat.cast_succ, ← Int.negSucc_eq, Decimal.toBinary64_negSucc_eq]
  rfl

/-- A whole number with so few digits is written in full. -/
theorem IsShort.positional {c j : Nat} (h : IsShort ⟨false, c, j⟩) :
    layout.positional (j + (digitsOfNat c).length - 1) := by
  have hfirst := List.length_pos_iff.mpr (isRun_digitsOfNat c).1
  have hbelow : c * 10 ^ j < 10 ^ 15 := h.below
  have hten : 10 ^ ((digitsOfNat c).length - 1) * 10 ^ j ≤ c * 10 ^ j :=
    Nat.mul_le_mul_right (10 ^ j) (ten_pow_le_of_lt_length h.nonzero (Nat.sub_one_lt hfirst.ne'))
  rw [← pow_add] at hten
  have hfew := (Nat.pow_lt_pow_iff_right (by decide : 1 < 10)).mp (hten.trans_lt hbelow)
  simp only [layout, Bool.and_eq_true, decide_eq_true_eq]
  omega

theorem divideDown_spelled {c : Nat} {k : Int} (h : IsShort ⟨false, c, k⟩) :
    divideDown 4 (.ofNat (spelled c k).coefficient) (spelled c k).exponent =
      some (spelled c k).toBinary64 := by
  have hdigits : c < 10 ^ 15 := h.digits
  have hplaces : -22 ≤ k := h.places
  cases k with
  | ofNat j =>
      have hbelow : c * 10 ^ j < 10 ^ 15 := h.below
      -- The zero behind the point counts as a digit, and makes the number even.
      have hscaled : c * 10 ^ (j + 1) = 10 * (c * 10 ^ j) := by
        rw [pow_succ]
        ring
      have heven : c * 10 ^ (j + 1) % 2 = 0 ∧ c * 10 ^ (j + 1) < 18014398509481984 := by omega
      rw [Int.ofNat_eq_natCast, spelled_natCast h.positional]
      exact divideDown_exact (Or.inr heven) (by decide)
  | negSucc j =>
      rw [spelled_of_neg (Int.negSucc_lt_zero j)]
      exact divideDown_exact (Or.inl (hdigits.trans (by decide))) (by omega)

/-- A positive double whose own decimal is short. -/
inductive HasShort : Binary64 → Prop where
  | finite {m p hcanonical} (h : IsShort (Decimal.shortest layout.tie false m p)) :
    HasShort (.finite false m p hcanonical)

instance : DecidablePred HasShort
  | .finite false m p _ =>
    decidable_of_iff (IsShort (Decimal.shortest layout.tie false m p)) ⟨.finite, fun ⟨h⟩ ↦ h⟩
  | .finite true .. | .nan | .infinity _ => .isFalse nofun

theorem reread_of_hasShort {x : Binary64} (h : HasShort x) : reread x = some x := by
  obtain @⟨m, p, hcanonical, h⟩ := h
  have hm : m ≠ 0 := by
    rintro rfl
    exact h.nonzero rfl
  obtain ⟨c, k, hshortest, -, -, -, -, hx, hread⟩ := reread_finite hcanonical hm
  rw [hshortest] at h
  rw [hread, divideDown_spelled h, hx]

end Toolpath.Json
