import Toolpath.Proofs.Job.Feed
import Toolpath.Proofs.Number.Error
import Toolpath.Proofs.Number.Exact

/-!
# Accuracy of converted feeds

A feed is converted by up to three operations, each rounded once. Two of them may use the double next
to 25.4, which is itself one rounding away from that number; but where a feed in inches is converted
for a program in inches, the same double is multiplied by and divided by, and its error cancels. So
three roundings are the most that a converted feed is away from the exact one, as long as no result is
so small that doubles have fewer digits there.
-/

namespace Toolpath

namespace Binary64

/-! ## One operation -/

/-- The double is finite and has all its digits. -/
def IsNormal (x : Binary64) : Prop := x.isFinite ∧ 4503599627370496 ≤ x.magnitude

instance : DecidablePred IsNormal := fun x ↦
  inferInstanceAs (Decidable (x.isFinite ∧ 4503599627370496 ≤ x.magnitude))

theorem value_pos_iff {x : Binary64} : 0 < x.value ↔ 0 < x.ticks := by
  rw [value, div_pos_iff_of_pos_right (by exact_mod_cast unit_pos), Int.cast_pos]

theorem value_eq_of_pos {x : Binary64} (h : 0 < x.ticks) : x.value = x.magnitude / unit := by
  rw [value, ticks_of_not_isNegative (not_isNegative_of_ticks_pos h), Int.cast_natCast]

section Operation

variable {f : Binary64 → Binary64} {n d : Nat} (hf : Scales f n d) {a : Binary64}
  (ha : 0 < a.ticks) (hnormal : (f a).IsNormal)

include hf ha hnormal

theorem Scales.isFinite_of_isNormal : a.isFinite := by
  cases a with
  | nan => exact absurd ha (lt_irrefl 0)
  | finite s m p h => rfl
  | infinity s =>
      rw [hf.infinity_eq s] at hnormal
      exact hnormal.1

/-- A positive double is scaled as its magnitude is rounded. -/
theorem Scales.ticks_eq_magnitude_round : (f a).ticks = (round false (a.magnitude * n) d).magnitude := by
  have hpositive := ticks_of_not_isNegative (not_isNegative_of_ticks_pos ha)
  have hsign : decide (((a.magnitude * n : Nat) : Int) < 0) = false := decide_eq_false (by omega)
  rw [hf.ticks_eq (hf.isFinite_of_isNormal ha hnormal), hpositive, ← Nat.cast_mul, nearest, hsign,
    Int.natAbs_natCast, ticks_of_not_isNegative (isNegative_round _ _ _)]

theorem Scales.ticks_pos : 0 < (f a).ticks := by
  have hfull := hnormal.2
  have hticks := hf.ticks_eq_magnitude_round ha hnormal
  rw [← natAbs_ticks] at hfull
  omega

/-- A normal result is one rounding away from the exact one. -/
theorem Scales.close : Close 1 (f a).value (a.value * (n / d)) := by
  have hunit : (0 : ℚ) < unit := by exact_mod_cast unit_pos
  have hticks := hf.ticks_eq_magnitude_round ha hnormal
  have hmagnitude : (f a).magnitude = (round false (a.magnitude * n) d).magnitude := by
    rw [← natAbs_ticks, hticks, Int.natAbs_natCast]
  have hfinite : (round false (a.magnitude * n) d).isFinite := by
    rw [isFinite_iff (round_ne_nan _ _ _), natAbs_ticks, ← hmagnitude]
    exact magnitude_lt_horizon hnormal.1
  have hround := close_round_of_full false hf.pos (le_horizon_of_isFinite_round hf.pos hfinite)
    (hmagnitude ▸ hnormal.2)
  have hexact : a.value * (n / d) = (a.magnitude * n : Nat) / d / unit := by
    rw [value_eq_of_pos ha]
    push_cast
    ring
  rw [value_eq_of_pos (hf.ticks_pos ha hnormal), hmagnitude, hexact]
  exact hround.div_right hunit.le

end Operation

section Constant

variable {c : Binary64} (hc : c.isFinite) (hpos : 0 < c.ticks) {a : Binary64} (ha : 0 < a.value)

include hc hpos ha

theorem close_mul (h : (a * c).IsNormal) :
    0 < (a * c).value ∧ Close 1 (a * c).value (a.value * c.value) := by
  have hscales := scales_mul hc hpos
  rw [value_pos_iff] at ha ⊢
  rw [value_eq_of_pos hpos]
  exact ⟨hscales.ticks_pos ha h, hscales.close ha h⟩

theorem close_div (h : (a / c).IsNormal) : Close 1 (a / c).value (a.value / c.value) := by
  have hclose := (scales_div hc hpos).close (value_pos_iff.mp ha) h
  rwa [← inv_div, ← value_eq_of_pos hpos, ← div_eq_mul_inv] at hclose

end Constant

end Binary64

/-! ## Exact conversion -/

/-- Millimetres in one of the unit. -/
def LengthUnit.factor : LengthUnit → ℚ
  | .millimetre => 1
  | .inch => 127 / 5

namespace FeedUnit

open Binary64

/-- Millimetres per minute in one of the unit. -/
def factor : FeedUnit → ℚ
  | millimetresPerMinute => 1
  | millimetresPerSecond => 60
  | inchesPerMinute => 127 / 5
  | inchesPerSecond => 1524

def exact (u : FeedUnit) (q : ℚ) (p : LengthUnit) : ℚ := q * u.factor / p.factor

/-- What is computed on the way to a converted feed, the feed included. -/
def results (u : FeedUnit) (v : Binary64) (p : LengthUnit) : List Binary64 :=
  (match u with
    | inchesPerSecond => [v * millimetresPerInch]
    | _ => []) ++ [u.toMillimetresPerMinute v, u.convert v (some p)]

/-- A feed in millimetres per minute, where an inch has the given number of millimetres. -/
def scaled (inch : ℚ) : FeedUnit → ℚ → ℚ
  | millimetresPerMinute, q => q
  | millimetresPerSecond, q => q * 60
  | inchesPerMinute, q => q * inch
  | inchesPerSecond, q => q * inch * 60

theorem scaled_eq (u : FeedUnit) (q : ℚ) : u.scaled (127 / 5) q = q * u.factor := by
  cases u with
  | millimetresPerMinute => rw [scaled, factor, mul_one]
  | millimetresPerSecond => rfl
  | inchesPerMinute => rfl
  | inchesPerSecond =>
      rw [scaled, factor, mul_assoc]
      norm_num

/-! ## The double next to 25.4 -/

theorem close_millimetresPerInch : Close 1 millimetresPerInch.value (127 / 5) := by
  have hunit : (0 : ℚ) < unit := by exact_mod_cast unit_pos
  have hround : millimetresPerInch = round false (254 * unit) 10 :=
    Decimal.toBinary64_negSucc_eq false 254 0
  have hclose := close_round false (a := 254 * unit) (d := 10) (by decide) (by decide +kernel)
    (by decide +kernel)
  have hvalue := hclose.div_right hunit.le
  have hexact : ((254 * unit : Nat) : ℚ) / (10 : Nat) / unit = 127 / 5 := by
    push_cast
    field_simp
    norm_num
  rwa [← hround, ← value_eq_of_pos ticks_millimetresPerInch_pos, hexact] at hvalue

/-! ## Roundings -/

/-- How often a feed in millimetres per minute has been rounded. -/
def roundings : FeedUnit → Nat
  | millimetresPerMinute => 0
  | millimetresPerSecond => 1
  | inchesPerMinute => 1
  | inchesPerSecond => 2

section Positive

variable (u : FeedUnit) {q : ℚ} (hq : 0 < q)

include hq

theorem exact_pos (p : LengthUnit) : 0 < u.exact q p := by
  have hfactor : 0 < u.factor := by cases u <;> norm_num [factor]
  have hlength : 0 < p.factor := by cases p <;> norm_num [LengthUnit.factor]
  exact div_pos (mul_pos hq hfactor) hlength

/-- The double next to 25.4 adds an error of its own. -/
theorem close_scaled :
    Close (3 - u.roundings) (u.scaled millimetresPerInch.value q) (u.exact q .millimetre) := by
  have hinch : Close 1 (q * millimetresPerInch.value) (q * (127 / 5)) := by
    rw [mul_comm q, mul_comm q]
    exact close_millimetresPerInch.mul_right hq.le
  have hpos := u.exact_pos hq .millimetre
  have hexact : u.exact q .millimetre = u.scaled (127 / 5) q := by
    rw [exact, LengthUnit.factor, div_one, scaled_eq]
  rw [hexact] at hpos ⊢
  cases u <;> simp only [scaled, roundings] at hpos ⊢
  case millimetresPerMinute => exact (Close.refl q).mono (by decide) hpos
  case millimetresPerSecond => exact (Close.refl (q * 60)).mono (by decide) hpos
  case inchesPerMinute => exact hinch.mono (by decide) hpos
  case inchesPerSecond => exact hinch.mul_right (by norm_num)

/-- From inches to inches the double next to 25.4 cancels. -/
theorem close_scaled_div : Close (2 - u.roundings)
    (u.scaled millimetresPerInch.value q / millimetresPerInch.value) (u.exact q .inch) := by
  have hc := close_millimetresPerInch.pos (by norm_num)
  have hpos := u.exact_pos hq .inch
  have hdivided {r : ℚ} (hr : 0 < r) : Close 1 (r / millimetresPerInch.value) (r / (127 / 5)) := by
    have hdiv := (Close.refl r).div hr.le hr.le hc (by norm_num) close_millimetresPerInch
    rwa [zero_add] at hdiv
  have hexact : u.exact q .inch = u.scaled (127 / 5) q / (127 / 5) := by
    rw [exact, LengthUnit.factor, scaled_eq]
  have hcancel {c r : ℚ} (hc : 0 < c) : r * c / c = r := mul_div_cancel_right₀ r hc.ne'
  rw [hexact] at hpos ⊢
  cases u <;> simp only [scaled, roundings] at hpos ⊢
  case millimetresPerMinute => exact (hdivided hq).mono (by decide) hpos
  case millimetresPerSecond => exact hdivided (mul_pos hq (by norm_num))
  case inchesPerMinute =>
    rw [hcancel hc, hcancel (by norm_num)] at *
    exact (Close.refl q).mono (by decide) hpos
  case inchesPerSecond =>
    rw [mul_right_comm, hcancel hc, mul_right_comm, hcancel (by norm_num)]
    exact .refl (q * 60)

end Positive

theorem close_toMillimetresPerMinute (u : FeedUnit) {v : Binary64} (hv : 0 < v.value)
    {p : LengthUnit} (h : ∀ x ∈ u.results v p, x.IsNormal) :
    0 < (u.toMillimetresPerMinute v).value ∧ Close u.roundings (u.toMillimetresPerMinute v).value
      (u.scaled millimetresPerInch.value v.value) := by
  have hinch (hnormal : (v * millimetresPerInch).IsNormal) :=
    close_mul (by decide +kernel) ticks_millimetresPerInch_pos hv hnormal
  have hsixty : (60 : Binary64).value = 60 := by
    have hticks : (60 : Binary64).ticks = 60 * unit := by decide +kernel
    have hunit : (unit : ℚ) ≠ 0 := by exact_mod_cast unit_pos.ne'
    rw [value, hticks]
    push_cast
    field_simp
  have hsecond {w : Binary64} (hw : 0 < w.value) (hnormal : (w * 60).IsNormal) :=
    close_mul (c := 60) (by decide +kernel) (by decide +kernel) hw hnormal
  have hlast : (u.toMillimetresPerMinute v).IsNormal := h _ (by simp [results])
  cases u with
  | millimetresPerMinute => exact ⟨hv, .refl _⟩
  | millimetresPerSecond =>
      have hclose := hsecond hv hlast
      rwa [hsixty] at hclose
  | inchesPerMinute => exact hinch hlast
  | inchesPerSecond =>
      obtain ⟨hpos, hclose⟩ := hinch (h _ (by simp [results]))
      obtain ⟨hpos', hclose'⟩ := hsecond hpos hlast
      rw [hsixty] at hclose'
      exact ⟨hpos', hclose'.trans (hclose.mul_right (by norm_num))⟩

/-- A converted feed is three roundings away from the exact one at most. -/
theorem close_convert (u : FeedUnit) {v : Binary64} (hv : 0 < v.value) {p : LengthUnit}
    (h : ∀ x ∈ u.results v p, x.IsNormal) :
    Close 3 (u.convert v (some p)).value (u.exact v.value p) := by
  obtain ⟨hpos, hclose⟩ := u.close_toMillimetresPerMinute hv h
  have hfew : u.roundings ≤ 2 := by cases u <;> decide
  cases p with
  | millimetre =>
      have htotal := hclose.trans (u.close_scaled hv)
      rwa [Nat.add_sub_cancel' (by omega)] at htotal
  | inch =>
      have hc := value_pos_iff.mpr ticks_millimetresPerInch_pos
      have hlast : (u.toMillimetresPerMinute v / millimetresPerInch).IsNormal :=
        h _ (by simp [results, convert])
      have hdiv := close_div (by decide +kernel) ticks_millimetresPerInch_pos hpos hlast
      have htotal := (hdiv.trans (hclose.div_right hc.le)).trans (u.close_scaled_div hv)
      have hthree : 1 + u.roundings + (2 - u.roundings) = 3 := by omega
      rwa [hthree] at htotal

/-! ## Main result -/

/-- A positive feed is converted to within one part in `2 ^ 51` of the exact conversion as long as all
results have all their digits. Converting keeps the order of all feeds, and without a unit of the
program a feed stays as it was entered. -/
theorem convert_accurate (u : FeedUnit) :
    (∀ (v : Binary64) (p : LengthUnit), Binary64.lt 0 v → (∀ x ∈ u.results v p, x.IsNormal) →
      |(u.convert v (some p)).value - u.exact v.value p| ≤ u.exact v.value p / 2 ^ 51) ∧
    (∀ (v w : Binary64) (p : Option LengthUnit), v.le w → (u.convert v p).le (u.convert w p)) ∧
    ∀ v : Binary64, u.convert v none = v := by
  refine ⟨fun v p hlt hnormal ↦ ?_, fun v w p hle ↦ u.convert_mono p hle, fun v ↦ rfl⟩
  have hv : 0 < v.value := by
    rw [value_pos_iff, ← Binary64.ticks_zero]
    exact (Binary64.lt_iff.mp hlt).2.2
  exact (u.close_convert hv hnormal).abs_sub_le (u.exact_pos hv p)

/-- A tenth of an inch per second, in an inch program and in a metric one. -/
theorem convert_accurate_tenth :
    let v := (Decimal.mk false 1 (-1)).toBinary64
    Binary64.lt 0 v ∧ ∀ p, (∀ x ∈ inchesPerSecond.results v p, x.IsNormal) ∧
      |(inchesPerSecond.convert v (some p)).value - inchesPerSecond.exact v.value p| ≤
        inchesPerSecond.exact v.value p / 2 ^ 51 := by
  intro v
  have hv : Binary64.lt 0 v := by decide +kernel
  have hnormal : ∀ p, ∀ x ∈ inchesPerSecond.results v p, x.IsNormal := by
    intro p
    cases p <;> decide +kernel
  exact ⟨hv, fun p ↦ ⟨hnormal p, (convert_accurate _).1 v p hv (hnormal p)⟩⟩

end FeedUnit

end Toolpath
