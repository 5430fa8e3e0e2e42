import Toolpath.Number.Layout
import Toolpath.Number.Reading
import Toolpath.Proofs.Number.Digits
import Toolpath.Proofs.Number.Shortest

/-!
# Laid out numbers

What a layout writes is a proper number: every part has a digit, and no zero stands in front of
other digits. Its digits are those of the coefficient with zeros around them, so written out in full
it still stands for the double.
-/

namespace Toolpath

/-! ## Runs of digits -/

/-- One digit or more. -/
def IsRun (ds : List Char) : Prop := ds ≠ [] ∧ ∀ c ∈ ds, isDigit c

theorem isRun_digitsOfNat (n : Nat) : IsRun (digitsOfNat n) := by
  refine ⟨?_, fun c ↦ isDigit_of_mem_digitsOfNat⟩
  rw [digitsOfNat, ← List.length_pos_iff]
  exact Nat.length_toDigits_pos

theorem IsRun.append_right {cs ds : List Char} (h : IsRun cs) (hds : ∀ c ∈ ds, isDigit c) :
    IsRun (cs ++ ds) := by
  refine ⟨List.append_ne_nil_of_left_ne_nil h.1 ds, fun c hc ↦ ?_⟩
  rcases List.mem_append.mp hc with hc | hc
  · exact h.2 c hc
  · exact hds c hc

theorem ne_of_isDigit {c d : Char} (hc : isDigit c) (hd : isDigit d = false) : c ≠ d := by
  rintro rfl
  rw [hc] at hd
  cases hd

theorem notMem_of_isDigit {cs : List Char} (h : ∀ c ∈ cs, isDigit c) {d : Char}
    (hd : isDigit d = false) : d ∉ cs :=
  fun hmem ↦ ne_of_isDigit (h d hmem) hd rfl

theorem digitValue_lt {c : Char} (h : isDigit c) : digitValue c < 10 := by
  rw [isDigit_iff] at h
  unfold digitValue
  omega

theorem natOfDigits_lt {ds : List Char} (h : ∀ c ∈ ds, isDigit c) :
    natOfDigits ds < 10 ^ ds.length := by
  induction ds with
  | nil => exact Nat.one_pos
  | cons c ds ih =>
      have hc : natOfDigits [c] = digitValue c := by simp [natOfDigits]
      have hrest := ih fun d hd ↦ h d (List.mem_cons_of_mem c hd)
      have hfirst := Nat.mul_le_mul_left (10 ^ ds.length)
        (Nat.le_of_lt_succ (digitValue_lt (h c List.mem_cons_self)))
      rw [← List.singleton_append, natOfDigits_append, hc, List.length_append, List.length_singleton,
        pow_add]
      omega

theorem natOfDigits_zeros_append (n : Nat) (ds : List Char) :
    natOfDigits (List.replicate n '0' ++ ds) = natOfDigits ds := by
  rw [natOfDigits_append, natOfDigits_eq (List.replicate n '0'), Nat.ofDigitChars_replicate_zero]
  simp

theorem natOfDigits_append_zeros (ds : List Char) (n : Nat) :
    natOfDigits (ds ++ List.replicate n '0') = 10 ^ n * natOfDigits ds := by
  rw [natOfDigits_append, natOfDigits_eq (List.replicate n '0'), Nat.ofDigitChars_replicate_zero,
    List.length_replicate]
  simp

theorem splitSign_append {sign : Option Char} (hsign : ∀ c ∈ sign, c = '+' ∨ c = '-')
    {cs : List Char} (hcs : ∀ c ∈ cs.head?, c ≠ '+' ∧ c ≠ '-') :
    splitSign (sign.toList ++ cs) = (sign == some '-', cs) := by
  cases sign with
  | some c => rcases hsign c rfl with rfl | rfl <;> rfl
  | none =>
      cases cs with
      | nil => rfl
      | cons c cs =>
          obtain ⟨hplus, hminus⟩ := hcs c rfl
          unfold splitSign
          simp_all

theorem IsRun.head?_ne_sign {cs : List Char} (h : IsRun cs) (rest : List Char) :
    ∀ c ∈ (cs ++ rest).head?, c ≠ '+' ∧ c ≠ '-' := by
  obtain ⟨c, cs, rfl⟩ := List.exists_cons_of_ne_nil h.1
  rintro d ⟨⟩
  have hdigit := h.2 c List.mem_cons_self
  exact ⟨ne_of_isDigit hdigit (by decide), ne_of_isDigit hdigit (by decide)⟩

/-- The sign in front of a number that begins with a digit. -/
theorem splitSign_signed (s : Bool) {cs : List Char} (h : IsRun cs) (rest : List Char) :
    splitSign ((if s then ['-'] else []) ++ (cs ++ rest)) = (s, cs ++ rest) := by
  cases s with
  | true => exact splitSign_append (by simp : ∀ c ∈ some '-', c = '+' ∨ c = '-') (h.head?_ne_sign rest)
  | false => exact splitSign_append (by simp : ∀ c ∈ none, c = '+' ∨ c = '-') (h.head?_ne_sign rest)

/-- Only the digits of zero begin with a zero. -/
theorem eq_zero_of_digitsOfNat {n : Nat} {ds : List Char} (h : digitsOfNat n = '0' :: ds) :
    n = 0 ∧ ds = [] := by
  have hvalue : natOfDigits ds = n := by
    rw [← natOfDigits_digitsOfNat n, h]
    exact (natOfDigits_zeros_append 1 ds).symm
  by_cases hds : ds = []
  · subst hds
    exact ⟨hvalue.symm, rfl⟩
  · have hall : ∀ c ∈ ds, isDigit c := fun c hc ↦
      isDigit_of_mem_digitsOfNat (h ▸ List.mem_cons_of_mem '0' hc)
    have hlt := natOfDigits_lt hall
    rw [hvalue] at hlt
    have hle : (digitsOfNat n).length ≤ ds.length :=
      (Nat.length_toDigits_le_iff (by decide) (List.length_pos_iff.mpr hds)).mpr hlt
    rw [h, List.length_cons] at hle
    omega

/-! ## Proper numbers -/

namespace Written

/-- Every part has a digit, and no zero stands in front of other digits. -/
structure Proper (w : Written) : Prop where
  whole : IsRun w.whole
  lead : ∀ ds, w.whole = '0' :: ds → ds = []
  fraction : ∀ ds ∈ w.fraction, IsRun ds
  exponent : ∀ e ∈ w.exponent, (∀ c ∈ e.1, c = '+' ∨ c = '-') ∧ IsRun e.2

/-- The decimal that stands before the exponent. -/
def mantissa (w : Written) : Decimal := .ofDigits w.negative w.whole (w.fraction.getD []) 0

theorem proper_ofNat (n : Nat) : (ofNat n).Proper where
  whole := isRun_digitsOfNat n
  lead ds h := (eq_zero_of_digitsOfNat h).2
  fraction ds h := by cases h
  exponent e h := by cases h

end Written

/-! ## Written out in full -/

namespace Layout

/-- The digits with enough zeros in front of them for the places after the point. -/
def padded (c k : Nat) : List Char :=
  List.replicate (k + 2 - (digitsOfNat c).length) '0' ++ digitsOfNat c

theorem lt_length_padded (c k : Nat) : k + 1 < (padded c k).length := by
  rw [padded, List.length_append, List.length_replicate]
  omega

theorem isDigit_of_mem_padded {c k : Nat} {d : Char} (h : d ∈ padded c k) : isDigit d := by
  rcases List.mem_append.mp h with h | h
  · rw [List.eq_of_mem_replicate h]
    decide
  · exact isDigit_of_mem_digitsOfNat h

/-- Zeros are put in front of the digits up to the one before the point, and no further. -/
theorem lead_padded {c k : Nat} (hc : c ≠ 0) {ds : List Char} (h : padded c k = '0' :: ds) :
    (padded c k).length = k + 2 := by
  by_cases hlength : (digitsOfNat c).length < k + 2
  · rw [padded, List.length_append, List.length_replicate]
    omega
  · rw [padded, show k + 2 - (digitsOfNat c).length = 0 by omega] at h
    exact absurd (eq_zero_of_digitsOfNat h).1 hc

/-- The number of digits before the point. -/
def pointOf (c k : Nat) : Nat := (padded c k).length - (k + 1)

theorem positionalForm_ofNat (s : Bool) (c k : Nat) : positionalForm s (digitsOfNat c) k =
    ⟨s, digitsOfNat c ++ List.replicate k '0', some ['0'], none⟩ := rfl

theorem positionalForm_negSucc (s : Bool) (c k : Nat) :
    positionalForm s (digitsOfNat c) (.negSucc k) =
      ⟨s, (padded c k).take (pointOf c k), some ((padded c k).drop (pointOf c k)), none⟩ := rfl

theorem proper_positionalForm_ofNat (s : Bool) {c k : Nat} (h : c ≠ 0 ∨ k = 0) :
    (positionalForm s (digitsOfNat c) k).Proper := by
  have hzeros : ∀ d ∈ List.replicate k '0', isDigit d := by
    intro d hd
    rw [List.eq_of_mem_replicate hd]
    decide
  rw [positionalForm_ofNat]
  refine ⟨(isRun_digitsOfNat c).append_right hzeros, ?_, ?_, ?_⟩
  · intro ds hds
    rcases h with hc | rfl
    · obtain ⟨d, rest, hd⟩ := List.exists_cons_of_ne_nil (isRun_digitsOfNat c).1
      rw [hd, List.cons_append, List.cons.injEq] at hds
      exact absurd (eq_zero_of_digitsOfNat (hds.1 ▸ hd)).1 hc
    · rw [List.replicate_zero, List.append_nil] at hds
      exact (eq_zero_of_digitsOfNat hds).2
  · rintro ds ⟨⟩
    exact ⟨List.cons_ne_nil _ _, List.forall_mem_singleton.mpr (by decide)⟩
  · rintro e ⟨⟩

/-- The padding in front of the point is a single zero, and it is there only for a fraction. -/
theorem proper_positionalForm_negSucc (s : Bool) {c : Nat} (hc : c ≠ 0) (k : Nat) :
    (positionalForm s (digitsOfNat c) (.negSucc k)).Proper := by
  have hlength := lt_length_padded c k
  rw [positionalForm_negSucc]
  refine ⟨⟨?_, ?_⟩, ?_, ?_, ?_⟩
  · refine List.ne_nil_of_length_pos ?_
    rw [List.length_take, pointOf]
    omega
  · exact fun d hd ↦ isDigit_of_mem_padded (List.mem_of_mem_take hd)
  · intro ds hds
    have hpadded : padded c k = '0' :: (ds ++ (padded c k).drop (pointOf c k)) := by
      rw [← List.cons_append, ← hds, List.take_append_drop]
    have hpoint : pointOf c k = 1 := by
      rw [pointOf, lead_padded hc hpadded]
      omega
    rw [hpadded, hpoint] at hds
    exact (List.cons.inj hds).2.symm
  · rintro ds ⟨⟩
    refine ⟨?_, fun d hd ↦ isDigit_of_mem_padded (List.mem_of_mem_drop hd)⟩
    refine List.ne_nil_of_length_pos ?_
    rw [List.length_drop, pointOf]
    omega
  · rintro e ⟨⟩

theorem proper_positionalForm (s : Bool) {c : Nat} {k : Int} (h : c ≠ 0 ∨ k = 0) :
    (positionalForm s (digitsOfNat c) k).Proper := by
  cases k with
  | ofNat k => exact proper_positionalForm_ofNat s (h.imp_right Int.ofNat_eq_zero.mp)
  | negSucc k => exact proper_positionalForm_negSucc s (h.resolve_right (by omega)) k

theorem mantissa_positionalForm_ofNat (s : Bool) (c k : Nat) :
    (positionalForm s (digitsOfNat c) k).mantissa = ⟨s, c * 10 ^ (k + 1), -1⟩ := by
  have hdigits : digitsOfNat c ++ List.replicate k '0' ++ ['0'] =
      digitsOfNat c ++ List.replicate (k + 1) '0' := by
    rw [List.replicate_succ', List.append_assoc]
  rw [positionalForm_ofNat, Written.mantissa, Decimal.ofDigits, Option.getD_some, hdigits,
    natOfDigits_append_zeros, natOfDigits_digitsOfNat, Nat.mul_comm]
  rfl

theorem mantissa_positionalForm_negSucc (s : Bool) (c k : Nat) :
    (positionalForm s (digitsOfNat c) (.negSucc k)).mantissa = ⟨s, c, .negSucc k⟩ := by
  have hlength := lt_length_padded c k
  have hplaces : ((padded c k).drop (pointOf c k)).length = k + 1 := by
    rw [List.length_drop, pointOf]
    omega
  rw [positionalForm_negSucc, Written.mantissa, Decimal.ofDigits, Option.getD_some,
    List.take_append_drop, hplaces, padded, natOfDigits_zeros_append, natOfDigits_digitsOfNat,
    Int.negSucc_eq, zero_sub]
  rfl

/-- Written out in full a decimal stands for the same double. -/
theorem toBinary64_positionalForm (s : Bool) {c : Nat} {k : Int} (hlow : -400 ≤ k) (hhigh : k ≤ 400) :
    (positionalForm s (digitsOfNat c) k).mantissa.toBinary64 = Decimal.toBinary64 ⟨s, c, k⟩ := by
  cases k with
  | negSucc k => rw [mantissa_positionalForm_negSucc]
  | ofNat k =>
      rw [Int.ofNat_eq_natCast] at hhigh ⊢
      rw [mantissa_positionalForm_ofNat]
      by_cases hc : c = 0
      · rw [hc, Nat.zero_mul, Decimal.toBinary64, Decimal.toBinary64, if_pos rfl, if_pos rfl]
      · have hscaled : c * 10 ^ (k + 1) ≠ 0 := Nat.mul_ne_zero hc (Nat.pow_pos (by decide)).ne'
        have hten : c * 10 ^ (k + 1) * Binary64.unit = c * Nat.pow 10 k * Binary64.unit * 10 := by
          rw [Nat.pow_eq, pow_succ]
          ring
        rw [Decimal.toBinary64_ofNat hc (by omega), show (-1 : Int) = .negSucc 0 from rfl,
          Decimal.toBinary64_negSucc hscaled (by decide), hten, show Nat.pow 10 (0 + 1) = 1 * 10 from rfl,
          Binary64.round_mul_right s _ _ (by decide)]

/-! ## With an exponent -/

theorem proper_scientificForm (plus s : Bool) (c : Nat) (leading : Int) :
    (scientificForm plus s (digitsOfNat c) leading).Proper := by
  have hrun := isRun_digitsOfNat c
  have hpos := List.length_pos_iff.mpr hrun.1
  refine ⟨⟨?_, ?_⟩, ?_, ?_, ?_⟩
  · refine List.ne_nil_of_length_pos ?_
    dsimp only [scientificForm]
    rw [List.length_take]
    omega
  · exact fun d hd ↦ hrun.2 d (List.mem_of_mem_take hd)
  · intro ds hds
    dsimp only [scientificForm] at hds
    have hlength := congrArg List.length hds
    rw [List.length_take, List.length_cons] at hlength
    exact List.length_eq_zero_iff.mp (by omega)
  · intro ds hds
    dsimp only [scientificForm] at hds
    split at hds
    · cases hds
    · cases hds
      refine ⟨?_, fun d hd ↦ hrun.2 d (List.mem_of_mem_drop hd)⟩
      refine List.ne_nil_of_length_pos ?_
      rw [List.length_drop]
      omega
  · rintro e ⟨⟩
    refine ⟨?_, isRun_digitsOfNat _⟩
    intro d hd
    dsimp only at hd
    split at hd
    · cases hd
      exact Or.inr rfl
    · split at hd
      · cases hd
        exact Or.inl rfl
      · cases hd

theorem mantissa_scientificForm (plus s : Bool) (c : Nat) (leading : Int) :
    (scientificForm plus s (digitsOfNat c) leading).mantissa =
      ⟨s, c, 1 - (digitsOfNat c).length⟩ := by
  have hpos := List.length_pos_iff.mpr (isRun_digitsOfNat c).1
  have hfraction : (scientificForm plus s (digitsOfNat c) leading).fraction.getD [] =
      (digitsOfNat c).drop 1 := by
    dsimp only [scientificForm]
    split
    next h => exact (List.drop_eq_nil_of_le h).symm
    next => rfl
  rw [Written.mantissa, hfraction, Decimal.ofDigits]
  dsimp only [scientificForm]
  rw [List.take_append_drop, natOfDigits_digitsOfNat, List.length_drop]
  congr 1
  omega

/-! ## The layout of a double -/

theorem shortest_inReach (tie : Tie) (s : Bool) {m p : Nat} (h : Binary64.Canonical m p) :
    ∃ c k, Decimal.shortest tie s m p = ⟨s, c, k⟩ ∧ (c ≠ 0 ∨ k = 0) ∧ -400 ≤ k ∧ k ≤ 400 := by
  by_cases hm : m = 0
  · exact ⟨0, 0, by rw [Decimal.shortest, if_pos hm], Or.inr rfl, by decide, by decide⟩
  · obtain ⟨c, k, hshortest, hc, hlow, hhigh, -⟩ := Shortest.shortest_spec tie s h hm
    exact ⟨c, k, hshortest, Or.inl hc, by omega, by omega⟩

theorem proper_of_written? {layout : Layout} {x : Binary64} {w : Written}
    (h : layout.written? x = some w) : w.Proper := by
  cases x with
  | nan => cases h
  | infinity s => cases h
  | finite s m p hcanonical =>
      obtain rfl := Option.some.inj h
      obtain ⟨c, k, hshortest, hc, -⟩ := shortest_inReach layout.tie s hcanonical
      rw [hshortest, decimal]
      dsimp only
      split
      · exact proper_positionalForm s hc
      · exact proper_scientificForm layout.plus s c _

theorem positionalForm_parts (s : Bool) (ds : List Char) (k : Int) :
    (∃ fraction, (positionalForm s ds k).fraction = some fraction) ∧
      (positionalForm s ds k).exponent = none := by
  cases k with
  | ofNat k => exact ⟨⟨_, rfl⟩, rfl⟩
  | negSucc k => exact ⟨⟨_, rfl⟩, rfl⟩

/-- A layout without exponents writes every finite double as a decimal that stands for it. -/
theorem exists_written?_of_positional {layout : Layout} (h : ∀ k, layout.positional k) {x : Binary64}
    (hx : x.isFinite) : ∃ w, layout.written? x = some w ∧ (∃ ds, w.fraction = some ds) ∧
      w.exponent = none ∧ w.mantissa.toBinary64 = x := by
  obtain ⟨s, m, p, hcanonical, rfl⟩ := Binary64.exists_finite hx
  obtain ⟨c, k, hshortest, -, hlow, hhigh⟩ := shortest_inReach layout.tie s hcanonical
  obtain ⟨hfraction, hexponent⟩ := positionalForm_parts s (digitsOfNat c) k
  refine ⟨positionalForm s (digitsOfNat c) k, ?_, hfraction, hexponent, ?_⟩
  · rw [written?, hshortest, decimal]
    exact congrArg some (if_pos (h _))
  · rw [toBinary64_positionalForm s hlow hhigh, ← hshortest,
      Decimal.toBinary64_shortest layout.tie s hcanonical]

end Layout

end Toolpath
