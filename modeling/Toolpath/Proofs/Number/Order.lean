import Mathlib.Algebra.Order.Ring.Int
import Mathlib.Tactic
import Toolpath.Number.Arithmetic

/-!
# The order of doubles

All comparisons go by the number of ticks. The infinities stand at the horizon, one step beyond the
largest finite double, and a double other than a zero is determined by its ticks.
-/

namespace Toolpath.Binary64

/-- The distance at which the infinities stand, in ticks. -/
def horizon : Nat := 2 ^ 2098

theorem horizon_eq : horizon = 9007199254740992 * 2 ^ 2045 := by
  decide +kernel

theorem horizon_pos : 0 < horizon := by
  decide +kernel

theorem unit_eq : unit = 2 ^ 1074 := by
  decide +kernel

theorem unit_pos : 0 < unit := by
  decide +kernel

/-! ## Kinds of doubles -/

@[simp] theorem isNaN_eq_false {x : Binary64} : x.isNaN = false ↔ x ≠ .nan := by
  cases x <;> simp [isNaN]

@[simp] theorem isNaN_eq_true {x : Binary64} : x.isNaN = true ↔ x = .nan := by
  cases x <;> simp [isNaN]

theorem exists_finite {x : Binary64} (h : x.isFinite) : ∃ s m p hc, x = .finite s m p hc := by
  cases x with
  | nan => simp [isFinite] at h
  | infinity s => simp [isFinite] at h
  | finite s m p hc => exact ⟨s, m, p, hc, rfl⟩

theorem ne_nan_of_isFinite {x : Binary64} (h : x.isFinite) : x ≠ .nan := by
  rintro rfl
  simp [isFinite] at h

@[simp] theorem isFinite_zero : isFinite 0 = true := rfl

@[simp] theorem zero_ne_nan : (0 : Binary64) ≠ .nan := by
  decide

/-! ## Ticks -/

@[simp] theorem magnitude_nan : magnitude .nan = 0 := rfl

@[simp] theorem magnitude_infinity (s : Bool) : (infinity s).magnitude = horizon := by
  cases s <;> decide +kernel

@[simp] theorem magnitude_finite (s : Bool) (m p : Nat) (h : Canonical m p) :
    (finite s m p h).magnitude = m * 2 ^ p :=
  Nat.shiftLeft_eq m p

@[simp] theorem ticks_nan : ticks .nan = 0 := rfl

@[simp] theorem ticks_zero : ticks 0 = 0 := rfl

theorem natAbs_ticks (x : Binary64) : x.ticks.natAbs = x.magnitude := by
  unfold ticks
  split <;> simp

def sign (negative : Bool) : Int := if negative then -1 else 1

theorem ticks_eq_sign_mul (x : Binary64) : x.ticks = sign x.isNegative * x.magnitude := by
  unfold ticks sign
  split <;> simp

theorem ticks_of_isNegative {x : Binary64} (h : x.isNegative = true) :
    x.ticks = -(x.magnitude : Int) := by
  simp [ticks, h]

theorem ticks_of_not_isNegative {x : Binary64} (h : x.isNegative = false) :
    x.ticks = x.magnitude := by
  simp [ticks, h]

theorem mul_two_pow_lt {m n p q : Nat} (hm : m < n) (hp : p ≤ q) : m * 2 ^ p < n * 2 ^ q :=
  Nat.mul_lt_mul_of_lt_of_le hm (Nat.pow_le_pow_right (by decide) hp) (Nat.two_pow_pos q)

theorem mul_two_pow_le {m n p q : Nat} (hm : m ≤ n) (hp : p ≤ q) : m * 2 ^ p ≤ n * 2 ^ q :=
  Nat.mul_le_mul hm (Nat.pow_le_pow_right (by decide) hp)

theorem magnitude_lt_horizon {x : Binary64} (h : x.isFinite) : x.magnitude < horizon := by
  obtain ⟨s, m, p, hc, rfl⟩ := exists_finite h
  rw [magnitude_finite, horizon_eq]
  exact mul_two_pow_lt hc.1 hc.2.1

theorem magnitude_le_horizon (x : Binary64) : x.magnitude ≤ horizon := by
  cases x with
  | nan => exact Nat.zero_le _
  | infinity s => exact (magnitude_infinity s).le
  | finite s m p hc => exact (magnitude_lt_horizon rfl).le

theorem isFinite_iff {x : Binary64} (hx : x ≠ .nan) :
    x.isFinite = true ↔ x.ticks.natAbs < horizon := by
  rw [natAbs_ticks]
  constructor
  · exact magnitude_lt_horizon
  · intro h
    cases x with
    | nan => exact absurd rfl hx
    | infinity s => simp at h
    | finite s m p hc => rfl

/-- A number of ticks has one coefficient and one shift. -/
theorem Canonical.unique {m p n q : Nat} (h : Canonical m p) (h' : Canonical n q)
    (heq : m * 2 ^ p = n * 2 ^ q) : m = n ∧ p = q := by
  wlog hle : p ≤ q generalizing m p n q
  · obtain ⟨hm, hp⟩ := this h' h heq.symm (by omega)
    exact ⟨hm.symm, hp.symm⟩
  obtain ⟨k, rfl⟩ := Nat.exists_eq_add_of_le hle
  have hm : m = n * 2 ^ k := by
    apply Nat.eq_of_mul_eq_mul_right (Nat.two_pow_pos p)
    rw [heq, pow_add]
    ring
  -- A shift that is not needed would lengthen the coefficient beyond its width.
  rcases Nat.eq_zero_or_pos k with rfl | hk
  · simpa using hm
  · have hn : 4503599627370496 ≤ n := h'.2.2.resolve_right (by omega)
    have hk2 : 2 ^ 1 ≤ 2 ^ k := Nat.pow_le_pow_right (by decide) hk
    have hlt := h.1
    have : 4503599627370496 * 2 ^ 1 ≤ n * 2 ^ k := Nat.mul_le_mul hn hk2
    omega

/-- Doubles with the same ticks differ in the sign of a zero at most. -/
theorem eq_of_ticks_eq {x y : Binary64} (hx : x ≠ .nan) (hy : y ≠ .nan)
    (h : x.ticks = y.ticks) (hs : x.isNegative = y.isNegative) : x = y := by
  have hm : x.magnitude = y.magnitude := by
    rw [← natAbs_ticks, ← natAbs_ticks, h]
  cases x with
  | nan => exact absurd rfl hx
  | infinity s =>
      cases y with
      | nan => exact absurd rfl hy
      | infinity t => simpa [isNegative] using hs
      | finite t n q hc =>
          rw [magnitude_infinity] at hm
          exact absurd hm (magnitude_lt_horizon rfl).ne'
  | finite s m p hc =>
      cases y with
      | nan => exact absurd rfl hy
      | infinity t =>
          rw [magnitude_infinity] at hm
          exact absurd hm (magnitude_lt_horizon rfl).ne
      | finite t n q hc' =>
          rw [magnitude_finite, magnitude_finite] at hm
          obtain ⟨rfl, rfl⟩ := hc.unique hc' hm
          simpa [isNegative] using hs

theorem isNegative_of_ticks_neg {x : Binary64} (h : x.ticks < 0) : x.isNegative = true := by
  by_contra hs
  rw [ticks_of_not_isNegative (by simpa using hs)] at h
  omega

theorem not_isNegative_of_ticks_pos {x : Binary64} (h : 0 < x.ticks) : x.isNegative = false := by
  by_contra hs
  rw [ticks_of_isNegative (by simpa using hs)] at h
  omega

/-! ## Comparisons -/

theorem le_iff {a b : Binary64} : a.le b = true ↔ a ≠ .nan ∧ b ≠ .nan ∧ a.ticks ≤ b.ticks := by
  simp [le, and_assoc]

theorem lt_iff {a b : Binary64} : a.lt b = true ↔ a ≠ .nan ∧ b ≠ .nan ∧ a.ticks < b.ticks := by
  simp [lt, and_assoc]

theorem eq_iff {a b : Binary64} : a.eq b = true ↔ a ≠ .nan ∧ b ≠ .nan ∧ a.ticks = b.ticks := by
  simp [eq, and_assoc]

protected theorem le_trans {a b c : Binary64} (hab : a.le b) (hbc : b.le c) : a.le c := by
  obtain ⟨ha, -, hab⟩ := le_iff.mp hab
  obtain ⟨-, hc, hbc⟩ := le_iff.mp hbc
  exact le_iff.mpr ⟨ha, hc, hab.trans hbc⟩

theorem eq_refl {a : Binary64} (ha : a ≠ .nan) : a.eq a = true :=
  eq_iff.mpr ⟨ha, ha, rfl⟩

theorem isFinite_of_le {a b c : Binary64} (hab : a.le b) (hbc : b.le c) (ha : a.isFinite)
    (hc : c.isFinite) : b.isFinite := by
  obtain ⟨han, hbn, hle⟩ := le_iff.mp hab
  obtain ⟨-, hcn, hle'⟩ := le_iff.mp hbc
  rw [isFinite_iff han] at ha
  rw [isFinite_iff hcn] at hc
  rw [isFinite_iff hbn]
  omega

theorem isFinite_of_eq {a b : Binary64} (h : a.eq b) (ha : a.isFinite) : b.isFinite := by
  obtain ⟨han, hbn, ht⟩ := eq_iff.mp h
  rw [isFinite_iff han, ht] at ha
  exact (isFinite_iff hbn).mpr ha

/-! ## Negation -/

@[simp] theorem magnitude_neg (x : Binary64) : x.neg.magnitude = x.magnitude := by
  cases x <;> rfl

theorem isNegative_neg {x : Binary64} (h : x ≠ .nan) : x.neg.isNegative = !x.isNegative := by
  cases x with
  | nan => exact absurd rfl h
  | infinity s => rfl
  | finite s m p hc => rfl

@[simp] theorem ticks_neg (x : Binary64) : x.neg.ticks = -x.ticks := by
  by_cases hx : x = .nan
  · subst hx
    rfl
  · have hs := isNegative_neg hx
    cases h : x.isNegative with
    | false =>
        rw [ticks_of_isNegative (by rw [hs, h]; rfl), ticks_of_not_isNegative h, magnitude_neg]
    | true =>
        rw [ticks_of_not_isNegative (by rw [hs, h]; rfl), ticks_of_isNegative h, magnitude_neg]
        simp

@[simp] theorem isFinite_neg (x : Binary64) : x.neg.isFinite = x.isFinite := by
  cases x <;> rfl

@[simp] theorem neg_eq_nan {x : Binary64} : x.neg = .nan ↔ x = .nan := by
  cases x <;> simp [neg]

/-! ## The lesser and the greater -/

theorem ticks_min {a b : Binary64} (ha : a ≠ .nan) (hb : b ≠ .nan) :
    (a.min b).ticks = Min.min a.ticks b.ticks := by
  have ha' := isNaN_eq_false.mpr ha
  have hb' := isNaN_eq_false.mpr hb
  by_cases h : a.ticks ≤ b.ticks
  · simp [Binary64.min, ha', hb', h]
  · simp [Binary64.min, ha', hb', h, min_eq_right (not_le.mp h).le]

theorem ticks_max {a b : Binary64} (ha : a ≠ .nan) (hb : b ≠ .nan) :
    (a.max b).ticks = Max.max a.ticks b.ticks := by
  have ha' := isNaN_eq_false.mpr ha
  have hb' := isNaN_eq_false.mpr hb
  by_cases h : b.ticks ≤ a.ticks
  · simp [Binary64.max, ha', hb', h]
  · simp [Binary64.max, ha', hb', h, max_eq_right (not_le.mp h).le]

theorem min_eq_or (a b : Binary64) : a.min b = a ∨ a.min b = b := by
  unfold Binary64.min
  split
  · exact Or.inr rfl
  · split
    · exact Or.inl rfl
    · exact Or.inr rfl

theorem max_eq_or (a b : Binary64) : a.max b = a ∨ a.max b = b := by
  unfold Binary64.max
  split
  · exact Or.inr rfl
  · split
    · exact Or.inl rfl
    · exact Or.inr rfl

theorem min_ne_nan {a b : Binary64} (ha : a ≠ .nan) (hb : b ≠ .nan) : a.min b ≠ .nan := by
  rcases min_eq_or a b with h | h <;> rwa [h]

theorem max_ne_nan {a b : Binary64} (ha : a ≠ .nan) (hb : b ≠ .nan) : a.max b ≠ .nan := by
  rcases max_eq_or a b with h | h <;> rwa [h]

protected theorem min_le_left {a b : Binary64} (ha : a ≠ .nan) (hb : b ≠ .nan) : (a.min b).le a := by
  refine le_iff.mpr ⟨min_ne_nan ha hb, ha, ?_⟩
  rw [ticks_min ha hb]
  omega

protected theorem min_le_right {a b : Binary64} (ha : a ≠ .nan) (hb : b ≠ .nan) : (a.min b).le b := by
  refine le_iff.mpr ⟨min_ne_nan ha hb, hb, ?_⟩
  rw [ticks_min ha hb]
  omega

protected theorem le_max_left {a b : Binary64} (ha : a ≠ .nan) (hb : b ≠ .nan) : a.le (a.max b) := by
  refine le_iff.mpr ⟨ha, max_ne_nan ha hb, ?_⟩
  rw [ticks_max ha hb]
  omega

protected theorem le_max_right {a b : Binary64} (ha : a ≠ .nan) (hb : b ≠ .nan) : b.le (a.max b) := by
  refine le_iff.mpr ⟨hb, max_ne_nan ha hb, ?_⟩
  rw [ticks_max ha hb]
  omega

end Toolpath.Binary64
