import Toolpath.Proofs.Number.Nearest
import Toolpath.Proofs.Number.Selection

/-!
# Products and quotients with a positive constant

Multiplying by a positive constant and dividing by one scale a double: the exact result is rounded
once, infinities stay what they are, and the order is kept because rounding keeps it.
-/

namespace Toolpath.Binary64

/-! ## The order with the infinities -/

theorem le_refl {a : Binary64} (ha : a ≠ .nan) : a.le a :=
  le_iff.mpr ⟨ha, ha, le_rfl⟩

theorem le_infinity_false {a : Binary64} (ha : a ≠ .nan) : a.le (.infinity false) := by
  have hle := natAbs_ticks_le_horizon a
  refine le_iff.mpr ⟨ha, by simp, ?_⟩
  rw [ticks_infinity_false]
  omega

theorem infinity_true_le {a : Binary64} (ha : a ≠ .nan) : (infinity true).le a := by
  have hle := natAbs_ticks_le_horizon a
  refine le_iff.mpr ⟨by simp, ha, ?_⟩
  rw [ticks_infinity_true]
  omega

theorem eq_infinity_false_of_le {b : Binary64} (h : (infinity false).le b) :
    b = .infinity false := by
  obtain ⟨-, hb, hle⟩ := le_iff.mp h
  rw [ticks_infinity_false] at hle
  cases b with
  | nan => exact absurd rfl hb
  | infinity s =>
      cases s with
      | false => rfl
      | true =>
          rw [ticks_infinity_true] at hle
          have := horizon_pos
          omega
  | finite s m p hc =>
      have := (isFinite_iff hb).mp rfl
      omega

theorem eq_infinity_true_of_le {a : Binary64} (h : a.le (.infinity true)) :
    a = .infinity true := by
  obtain ⟨ha, -, hle⟩ := le_iff.mp h
  rw [ticks_infinity_true] at hle
  cases a with
  | nan => exact absurd rfl ha
  | infinity s =>
      cases s with
      | true => rfl
      | false =>
          rw [ticks_infinity_false] at hle
          have := horizon_pos
          omega
  | finite s m p hc =>
      have := (isFinite_iff ha).mp rfl
      omega

/-! ## Scaling -/

/-- The operation multiplies by the positive quotient of two integers and rounds once. -/
structure Scales (f : Binary64 → Binary64) (n d : Nat) : Prop where
  pos : 0 < d
  ne_nan : ∀ {a}, a ≠ .nan → f a ≠ .nan
  ticks_eq : ∀ {a}, a.isFinite → (f a).ticks = (nearest (a.ticks * n) d).ticks
  infinity_eq : ∀ s, f (.infinity s) = .infinity s

theorem Scales.mono {f : Binary64 → Binary64} {n d : Nat} (hf : Scales f n d) {a b : Binary64}
    (h : a.le b) : (f a).le (f b) := by
  obtain ⟨ha, hb, hle⟩ := le_iff.mp h
  have hfa := hf.ne_nan ha
  have hfb := hf.ne_nan hb
  rcases Bool.eq_false_or_eq_true a.isFinite with hfina | hinfa
  · rcases Bool.eq_false_or_eq_true b.isFinite with hfinb | hinfb
    · refine le_iff.mpr ⟨hfa, hfb, ?_⟩
      rw [hf.ticks_eq hfina, hf.ticks_eq hfinb]
      exact nearest_mono hf.pos hf.pos (by gcongr)
    · cases b with
      | nan => exact absurd rfl hb
      | finite s m p hc => cases hinfb
      | infinity s =>
          cases s with
          | false =>
              rw [hf.infinity_eq]
              exact le_infinity_false hfa
          | true =>
              rw [eq_infinity_true_of_le h]
              exact le_refl (hf.ne_nan (by simp))
  · cases a with
    | nan => exact absurd rfl ha
    | finite s m p hc => cases hinfa
    | infinity s =>
        cases s with
        | false =>
            rw [eq_infinity_false_of_le h]
            exact le_refl (hf.ne_nan (by simp))
        | true =>
            rw [hf.infinity_eq]
            exact infinity_true_le hfb

theorem ticks_round_zero (s : Bool) (d : Nat) : (round s 0 d).ticks = 0 := by
  have hzero : roundHalfEven 0 (d * 2 ^ shiftOf (0 / d)) = 0 := by simp [roundHalfEven]
  have hmag : (round s 0 d).magnitude = 0 := by
    rw [magnitude_round, coefficientOf, hzero, zero_mul, Nat.zero_min]
  rw [← Int.natAbs_eq_zero, natAbs_ticks, hmag]

/-- Up to the sign of a zero a signed quotient is rounded as the nearest one. -/
theorem ticks_round_eq_ticks_nearest (s : Bool) (a d : Nat) :
    (round s a d).ticks = (nearest (sign s * a) d).ticks := by
  rcases Nat.eq_zero_or_pos a with rfl | ha
  · rw [ticks_round_zero, Nat.cast_zero, mul_zero, nearest, Int.natAbs_zero, ticks_round_zero]
  · have hside : decide (sign s * a < 0) = s := by cases s <;> simp [sign, ha]
    have habs : (sign s * a : Int).natAbs = a := by cases s <;> simp [sign]
    rw [nearest, hside, habs]

theorem ticks_round_magnitude_mul (x : Binary64) (n d : Nat) :
    (round x.isNegative (x.magnitude * n) d).ticks = (nearest (x.ticks * n) d).ticks := by
  rw [ticks_round_eq_ticks_nearest, ticks_eq_sign_mul x, Nat.cast_mul, mul_assoc]

theorem exists_finite_of_pos {c : Binary64} (hc : c.isFinite) (hpos : 0 < c.ticks) :
    ∃ n q h, c = .finite false n q h := by
  obtain ⟨t, n, q, h, rfl⟩ := exists_finite hc
  obtain rfl : t = false := not_isNegative_of_ticks_pos hpos
  exact ⟨n, q, h, rfl⟩

theorem magnitude_ne_zero_of_pos {c : Binary64} (hpos : 0 < c.ticks) : c.magnitude ≠ 0 := by
  rw [← natAbs_ticks]
  omega

theorem Scales.of_round {f : Binary64 → Binary64} {n d : Nat} (hd : 0 < d)
    (hfinite : ∀ {a}, a.isFinite → f a = round a.isNegative (a.magnitude * n) d)
    (hinf : ∀ s, f (.infinity s) = .infinity s) : Scales f n d where
  pos := hd
  ne_nan {a} ha := by
    cases a with
    | nan => exact absurd rfl ha
    | infinity s => simp [hinf]
    | finite s m p hm =>
        rw [hfinite rfl]
        exact round_ne_nan _ _ _
  ticks_eq {a} ha := by
    rw [hfinite ha]
    exact ticks_round_magnitude_mul a _ _
  infinity_eq := hinf

theorem scales_mul {c : Binary64} (hc : c.isFinite) (hpos : 0 < c.ticks) :
    Scales (· * c) c.magnitude unit := by
  have hne := magnitude_ne_zero_of_pos hpos
  obtain ⟨n, q, h, rfl⟩ := exists_finite_of_pos hc hpos
  refine .of_round unit_pos ?_ fun s ↦ ?_
  · intro a ha
    obtain ⟨s, m, p, hm, rfl⟩ := exists_finite ha
    change mul _ _ = _
    rw [mul, Bool.bne_false, isNegative]
  · change mul _ _ = _
    rw [mul, if_neg hne, isNegative, Bool.bne_false]
    simp

theorem scales_div {c : Binary64} (hc : c.isFinite) (hpos : 0 < c.ticks) :
    Scales (· / c) unit c.magnitude := by
  have hne := magnitude_ne_zero_of_pos hpos
  obtain ⟨n, q, h, rfl⟩ := exists_finite_of_pos hc hpos
  refine .of_round (Nat.pos_of_ne_zero hne) ?_ fun s ↦ ?_
  · intro a ha
    obtain ⟨s, m, p, hm, rfl⟩ := exists_finite ha
    change div _ _ = _
    rw [div, if_neg hne, Bool.bne_false, isNegative]
  · change div _ _ = _
    rw [div, Bool.bne_false]

end Toolpath.Binary64
