import Toolpath.Proofs.Number.Middles
import Toolpath.Proofs.Program.Dropped
import Toolpath.Proofs.Program.Spacing

/-!
# Codes with a fraction

Only eight whole numbers are codes that change a mode. What counts is the double of a code and not the
number that was written, so a number with a fraction is still taken for a code where it is rounded to one.
That happens within half the distance from the code to the next double, which a fraction of fourteen places
or fewer never is.
-/

namespace Toolpath

/-! ## Numbers near a code -/

/-- The codes that change a mode. -/
def modalCodes : List Nat := [0, 1, 2, 3, 20, 21, 90, 91]

/-- Half the distance from a code to the doubles next to it, below and above, as exponents of a half. -/
def halfSteps : Nat → Nat × Nat
  | 0 => (1075, 1075)
  | 1 => (54, 53)
  | 2 => (53, 52)
  | 3 => (52, 52)
  | 20 => (49, 49)
  | 21 => (49, 49)
  | _ => (47, 47)

/-- The number is no farther from the code than half the distance to the next double. -/
def NearCode (k : Nat) (q : ℚ) : Prop :=
  k - 1 / 2 ^ (halfSteps k).1 ≤ q ∧ q ≤ k + 1 / 2 ^ (halfSteps k).2

theorem takesMiddles_code : ∀ k ∈ modalCodes, (halfSteps k).1 ≤ 1075 ∧ (halfSteps k).2 ≤ 1075 ∧
    Binary64.TakesMiddles (k * Binary64.unit : Nat) (2 ^ (1075 - (halfSteps k).1) : Nat)
      (2 ^ (1075 - (halfSteps k).2) : Nat) := by
  decide +kernel

theorem half_pow_eq {e : Nat} (he : e ≤ 1075) :
    (1 / 2 ^ e : ℚ) = (2 ^ (1075 - e) : Nat) / (2 * Binary64.unit) := by
  have hunit : (2 * Binary64.unit : ℚ) = 2 ^ (1075 - e) * 2 ^ e := by
    rw [← pow_add, Nat.sub_add_cancel he, Binary64.unit_eq, Nat.cast_pow, Nat.cast_two, ← pow_succ']
  rw [hunit, Nat.cast_pow, Nat.cast_two]
  field_simp

/-- A number is rounded to a code exactly if it is near the code. -/
theorem ticks_toBinary64_eq_code_iff {k : Nat} (hk : k ∈ modalCodes) (x : Decimal) :
    x.toBinary64.ticks = (k * Binary64.unit : Nat) ↔ NearCode k x.value := by
  obtain ⟨hlow, hhigh, hmiddles⟩ := takesMiddles_code k hk
  rw [Decimal.ticks_toBinary64_eq_iff hmiddles, NearCode, half_pow_eq hlow, half_pow_eq hhigh]
  have hunit : (0 : ℚ) < Binary64.unit := by exact_mod_cast Binary64.unit_pos
  generalize (2 ^ (1075 - (halfSteps k).1) : Nat) = g
  generalize (2 ^ (1075 - (halfSteps k).2) : Nat) = h
  generalize Binary64.unit = u at hunit ⊢
  have hg : ((2 * (k * u : Nat) - g : Int) / (2 * u) : ℚ) = k - g / (2 * u) := by
    push_cast
    field_simp
  have hh : ((2 * (k * u : Nat) + h : Int) / (2 * u) : ℚ) = k + h / (2 * u) := by
    push_cast
    field_simp
  rw [hg, hh]

/-! ## The code of a word -/

/-- The code that is read from a numeral. -/
def Numeral.code? (n : Numeral) : Option Nat := n.value?.bind Binary64.code?

theorem Numeral.code?_eq_some_iff {n : Numeral} (hn : n.Plain) {k : Nat} (hk : k ∈ modalCodes) :
    n.code? = some k ↔ NearCode k n.decimal.value := by
  have hle : ∀ k ∈ modalCodes, k ≤ 4294967295 := by decide
  have hsmall : k < 9007199254740992 := (hle k hk).trans_lt (by norm_num)
  have hticks : (Binary64.ofNat k).ticks = (k * Binary64.unit : Nat) := by
    rw [Binary64.ticks_ofNat hsmall, Nat.cast_mul]
  rw [← ticks_toBinary64_eq_code_iff hk, ← hticks, code?, Option.bind_eq_some_iff]
  constructor
  · rintro ⟨v, hv, hcode⟩
    obtain ⟨-, -, rfl⟩ := value?_eq_some_iff.mp hv
    exact (Binary64.eq_iff.mp ((Binary64.code?_eq_some_iff (hle k hk)).mp hcode)).2.2
  · intro h
    have hvalue := n.decimal.toBinary64_ne_nan
    have hcode : Binary64.ofNat k ≠ .nan := Binary64.round_ne_nan _ _ _
    have hfinite : n.decimal.toBinary64.isFinite :=
      Binary64.isFinite_of_eq (Binary64.eq_iff.mpr ⟨hcode, hvalue, h.symm⟩)
        (Binary64.ofNat_exact (Or.inl hsmall)).1
    exact ⟨_, value?_eq_some_iff.mpr ⟨hn, hfinite, rfl⟩,
      (Binary64.code?_eq_some_iff (hle k hk)).mpr (Binary64.eq_iff.mpr ⟨hvalue, hcode, h⟩)⟩

/-- With fourteen places or fewer a number is a whole number of steps of that size. -/
theorem Numeral.exists_value_eq_div {n : Numeral} {places : Nat}
    (h : (n.fraction.getD []).length ≤ places) : ∃ N : Int, n.decimal.value * 10 ^ places = N := by
  obtain ⟨r, rfl⟩ := Nat.exists_eq_add_of_le h
  refine ⟨Binary64.sign n.decimal.negative * (n.decimal.coefficient * 10 ^ r : Nat), ?_⟩
  have hexponent : n.decimal.exponent = -((n.fraction.getD []).length : Int) := zero_sub _
  rw [Decimal.value, hexponent, zpow_neg, zpow_natCast, pow_add]
  cases n.decimal.negative <;> simp [Binary64.sign] <;> field_simp

/-- A number with fourteen places or fewer that is not a code is not near one either. -/
theorem Numeral.eq_of_nearCode {n : Numeral} (hplaces : (n.fraction.getD []).length ≤ 14) {k : Nat}
    (hk : k ∈ modalCodes) (h : NearCode k n.decimal.value) : n.decimal.value = k := by
  have hsteps : ∀ k ∈ modalCodes, 47 ≤ (halfSteps k).1 ∧ 47 ≤ (halfSteps k).2 := by decide
  have hstep {e : Nat} (he : 47 ≤ e) : (1 / 2 ^ e : ℚ) * 10 ^ 14 < 1 := by
    calc
      (1 / 2 ^ e : ℚ) * 10 ^ 14 ≤ 1 / 2 ^ 47 * 10 ^ 14 := by
        gcongr
        exact one_le_two
      _ < 1 := by norm_num
  obtain ⟨N, hN⟩ := exists_value_eq_div hplaces
  obtain ⟨p, hp⟩ : ∃ p : Nat, (10 ^ 14 : ℚ) = p := ⟨10 ^ 14, by norm_num⟩
  have hlow := hstep (hsteps k hk).1
  have hhigh := hstep (hsteps k hk).2
  have hpos : (0 : ℚ) < 10 ^ 14 := by positivity
  rw [hp] at hN hlow hhigh hpos
  have hbelow := mul_le_mul_of_nonneg_right h.1 hpos.le
  have habove := mul_le_mul_of_nonneg_right h.2 hpos.le
  rw [hN, sub_mul] at hbelow
  rw [hN, add_mul] at habove
  have hbelow : (k * p : Int) < N + 1 := by exact_mod_cast (by linarith : (k * p : ℚ) < N + 1)
  have habove : N < (k * p + 1 : Int) := by exact_mod_cast (by linarith : (N : ℚ) < k * p + 1)
  obtain rfl : N = k * p := by omega
  exact mul_right_cancel₀ hpos.ne' (by rw [hN]; push_cast; rfl)

/-! ## Lines of one code -/

namespace Modal

theorem applyCode_eq_self {k : Nat} (hk : k ∉ modalCodes) (s : Modal) : s.applyCode k = s := by
  unfold applyCode
  split <;> simp_all [modalCodes]

theorem exists_applyCode_ne : ∀ k ∈ modalCodes, ∃ s : Modal, s.applyCode k ≠ s := by
  have hall : ∀ k ∈ modalCodes, ∃ s ∈ [({} : Modal), { motion := .linear, distance := .incremental }],
      s.applyCode k ≠ s := by decide
  intro k hk
  obtain ⟨s, -, hs⟩ := hall k hk
  exact ⟨s, hs⟩

theorem step_of_code {n : Numeral} {line : List Char} (h : Word.Spells [⟨'G', n⟩] line) (s : Modal) :
    (s.step line).1 = match n.code? with
      | some k => s.applyCode k
      | none => s := by
  rw [step, Block.read?_of_spells h, if_neg (List.cons_ne_nil _ _),
    ← Block.ofWords_eq_ofKept h.proper, Numeral.code?]
  change (s.apply (Block.add {} ⟨'G', n⟩)).1 = _
  unfold Block.add
  dsimp only
  cases n.value? with
  | none => rfl
  | some v => rfl

/-- A line of one code leaves every state as it is unless the number of the code is rounded to a code that
changes a mode, and then it acts as that code. So a fraction of fourteen places or fewer is never
overlooked. -/
theorem code_ignored_iff {n : Numeral} {line : List Char} (h : Word.Spells [⟨'G', n⟩] line) :
    ((∀ s : Modal, (s.step line).1 = s) ↔ ∀ k ∈ modalCodes, ¬NearCode k n.decimal.value) ∧
      (∀ k ∈ modalCodes, NearCode k n.decimal.value →
        ∀ s : Modal, (s.step line).1 = s.applyCode k) ∧
      ((n.fraction.getD []).length ≤ 14 → (∀ k ∈ modalCodes, n.decimal.value ≠ k) →
        ∀ s : Modal, (s.step line).1 = s) := by
  have hn : n.Plain := by
    cases h with
    | word _ _ _ _ hw => exact hw.digits
  have hnear {k : Nat} (hk : k ∈ modalCodes) (hnear : NearCode k n.decimal.value) (s : Modal) :
      (s.step line).1 = s.applyCode k := by
    rw [step_of_code h, (Numeral.code?_eq_some_iff hn hk).mpr hnear]
  have hfar (hfar : ∀ k ∈ modalCodes, ¬NearCode k n.decimal.value) (s : Modal) :
      (s.step line).1 = s := by
    rw [step_of_code h]
    split
    next k hcode =>
      exact applyCode_eq_self (fun hk ↦ hfar k hk ((Numeral.code?_eq_some_iff hn hk).mp hcode)) s
    next => rfl
  refine ⟨⟨fun hsame k hk hk' ↦ ?_, hfar⟩, fun k hk ↦ hnear hk, fun hplaces hne ↦ hfar ?_⟩
  · obtain ⟨s, hs⟩ := exists_applyCode_ne k hk
    exact hs (by rw [← hnear hk hk' s, hsame s])
  · exact fun k hk hk' ↦ hne k hk (Numeral.eq_of_nearCode hplaces hk hk')

/-- A fraction in the fourteenth place. -/
theorem code_ignored_iff_fourteenth :
    let n : Numeral := ⟨none, ['9', '1'], some "00000000000001".toList⟩
    let line := " g91.00000000000001".toList
    Word.Spells [⟨'G', n⟩] line ∧ (∀ k ∈ modalCodes, n.decimal.value ≠ k) ∧
      ∀ s : Modal, (s.step line).1 = s := by
  intro n line
  have hline : Word.Spells [⟨'G', n⟩] line :=
    .word [' '] 'g' (List.forall_mem_singleton.mpr (by decide)) rfl (by decide +kernel) (.blanks (by simp))
  have hne : ∀ k ∈ modalCodes, n.decimal.value ≠ k := by decide +kernel
  exact ⟨hline, hne, (code_ignored_iff hline).2.2 (by decide) hne⟩

/-- A fraction in the fifteenth place is lost when the number is rounded, and the code acts. -/
theorem code_not_ignored_fifteenth :
    let n : Numeral := ⟨none, ['9', '1'], some "000000000000001".toList⟩
    let line := "G91.000000000000001".toList
    Word.Spells [⟨'G', n⟩] line ∧ (∀ k ∈ modalCodes, n.decimal.value ≠ k) ∧
      (({} : Modal).step line).1 = { distance := .incremental } := by
  intro n line
  exact ⟨.word [] 'G' (by simp) rfl (by decide +kernel) (.blanks (by simp)), by decide +kernel,
    by decide +kernel⟩

end Modal

end Toolpath
