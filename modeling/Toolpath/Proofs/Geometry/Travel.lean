import Toolpath.Proofs.Geometry.Sweep

/-!
# Distances along a sweep

How far a direction is from the start of a sweep is counted along the way of the sweep, and the test
of the sweep compares this distance with the length of the whole sweep. Ticks make both exact. The test
adds a turn beyond the seam and rounds, so that it may pass a direction there that lies past the end by
one place, but it refuses none that the sweep meets.
-/

namespace Toolpath

namespace Binary64

/-! ## Sums within two turns -/

/-- The largest double below sixteen. -/
def belowSixteen : Binary64 := .finite false 9007199254740991 1025 (by decide)

theorem eight_quarters_le_belowSixteen : 8 * quarter ≤ belowSixteen.ticks := by
  decide +kernel

/-- Within two turns a sum is rounded by half a place of the doubles below sixteen. -/
theorem abs_ticks_nearest_sub_le {a : Int} (h0 : 0 ≤ a) (h : a ≤ 8 * quarter) :
    2 ^ 50 * |(nearest a 1).ticks - a| ≤ unit := by
  have hlow : 0 ≤ (nearest a 1).ticks := by
    simpa using le_ticks_nearest_of_le one_pos (a := a) (x := 0) (by simpa using h0)
  have hhigh : (nearest a 1).ticks ≤ belowSixteen.ticks := by
    refine ticks_nearest_le_of_le one_pos ?_
    have := eight_quarters_le_belowSixteen
    push_cast
    omega
  have hmag : (nearest a 1).magnitude ≤ 9007199254740991 * 2 ^ 1025 := by
    have hbelow : belowSixteen.magnitude = 9007199254740991 * 2 ^ 1025 := magnitude_finite ..
    rw [← hbelow, ← natAbs_ticks, ← natAbs_ticks]
    omega
  have hfinite : (nearest a 1).isFinite := by
    rw [isFinite_iff (nearest_ne_nan a 1), natAbs_ticks, horizon_eq]
    exact hmag.trans_lt (mul_two_pow_lt (by norm_num) (by norm_num))
  obtain ⟨m, p, hm, -, hfull, hhalf⟩ := exists_coefficient_nearest one_pos hfinite
  have hp : p ≤ 1025 := by
    by_contra hlt
    have hgrid := mul_two_pow_le (hfull (by omega)) (show 1025 + 1 ≤ p by omega)
    rw [pow_succ, ← hm] at hgrid
    have hpos := Nat.two_pow_pos 1025
    omega
  have hplace := mul_two_pow_le (le_refl 1) hp
  have hunit : unit = 562949953421312 * 2 ^ 1025 := by decide +kernel
  rw [Nat.cast_one, mul_one, one_mul] at hhalf
  generalize 2 ^ p = q at hhalf hplace
  generalize 2 ^ 1025 = g at hplace hunit
  omega

/-- Numbers that rounding brings out of order are at most one place apart. -/
theorem sub_le_of_ticks_nearest_le {a b : Int} (ha : 0 ≤ a) (ha' : a ≤ 8 * quarter)
    (hb : 0 ≤ b) (hb' : b ≤ 8 * quarter) (h : (nearest a 1).ticks ≤ (nearest b 1).ticks) :
    2 ^ 49 * (a - b) ≤ unit := by
  have herra := abs_ticks_nearest_sub_le ha ha'
  have herrb := abs_ticks_nearest_sub_le hb hb'
  rw [Int.abs_eq_natAbs] at herra herrb
  omega

/-- A full turn more keeps the order. -/
theorem ticks_nearest_add_turn_mono {a b : Int} (h : a ≤ b) :
    (nearest (a + 4 * quarter) 1).ticks ≤ (nearest (b + 4 * quarter) 1).ticks :=
  nearest_mono one_pos one_pos (by omega)

end Binary64

namespace Arc

open Binary64

/-! ## Distances -/

/-- An angle of the turn that begins at zero. -/
def WithinTurn (angle : Binary64) : Prop := (0 : Binary64).le angle ∧ angle.lt .tau

instance (angle : Binary64) : Decidable (WithinTurn angle) :=
  inferInstanceAs (Decidable (_ ∧ _))

/-- How far `theta` is from `start`, in ticks. -/
def travel (clockwise : Bool) (start theta : Binary64) : Int :=
  (if clockwise then start.ticks - theta.ticks else theta.ticks - start.ticks) % tau.ticks

/-- The length of the sweep in ticks. Equal angles make a full turn. -/
def sweep (clockwise : Bool) (start finish : Binary64) : Int :=
  if start.ticks = finish.ticks then tau.ticks else travel clockwise start finish

/-- The sweep ends outside the turn that it starts in. -/
def CrossesSeam (clockwise : Bool) (start finish : Binary64) : Prop :=
  if clockwise then start.ticks - sweep clockwise start finish < 0
  else tau.ticks ≤ start.ticks + sweep clockwise start finish

/-- The end of a sweep that comes first in the counter-clockwise direction. -/
def nearEnd (clockwise : Bool) (start finish : Binary64) : Binary64 :=
  if clockwise then finish else start

/-- The end of a sweep that lies further on in the counter-clockwise direction. -/
def farEnd (clockwise : Bool) (start finish : Binary64) : Binary64 :=
  if clockwise then start else finish

variable {a b theta : Binary64}

theorem WithinTurn.bounds (h : WithinTurn theta) :
    theta.isFinite ∧ 0 ≤ theta.ticks ∧ theta.ticks < 4 * quarter := by
  obtain ⟨hlow, hhigh⟩ := h
  obtain ⟨-, htheta, hlow⟩ := (le_iff ..).mp hlow
  obtain ⟨-, hturn, hhigh⟩ := (lt_iff ..).mp hhigh
  have hturn := (isFinite_iff hturn).mp isFinite_tau
  rw [ticks_zero] at hlow
  rw [ticks_tau] at hhigh hturn
  exact ⟨(isFinite_iff htheta).mpr (by omega), hlow, hhigh⟩

theorem withinTurn_normalize (h : theta.isFinite) : WithinTurn (normalize theta) := by
  have hn := ne_nan_of_isFinite (isFinite_normalize h)
  obtain ⟨h0, hturn⟩ := normalize_bounds h
  exact ⟨le_iff.mpr ⟨zero_ne_nan, hn, h0⟩,
    lt_iff.mpr ⟨hn, ne_nan_of_isFinite isFinite_tau, hturn⟩⟩

theorem sub_emod_turn {x y t : Int} (hx0 : 0 ≤ x) (hx : x < t) (hy0 : 0 ≤ y) (hy : y < t) :
    (x - y) % t = if y ≤ x then x - y else x - y + t := by
  split
  · exact Int.emod_eq_of_lt (by omega) (by omega)
  · rw [← Int.add_emod_right, Int.emod_eq_of_lt (by omega) (by omega)]

theorem travel_false (ha : WithinTurn a) (ht : WithinTurn theta) :
    travel false a theta =
      if a.ticks ≤ theta.ticks then theta.ticks - a.ticks
      else theta.ticks - a.ticks + 4 * quarter := by
  obtain ⟨-, ha0, ha⟩ := ha.bounds
  obtain ⟨-, ht0, ht⟩ := ht.bounds
  exact ticks_tau ▸ sub_emod_turn ht0 (ticks_tau ▸ ht) ha0 (ticks_tau ▸ ha)

theorem travel_true (a theta : Binary64) : travel true a theta = travel false theta a := rfl

section Ends

variable (clockwise : Bool) {start finish : Binary64} (hs : WithinTurn start)
  (hf : WithinTurn finish)
include hs hf

theorem withinTurn_nearEnd : WithinTurn (nearEnd clockwise start finish) := by
  cases clockwise with
  | false => exact hs
  | true => exact hf

theorem withinTurn_farEnd : WithinTurn (farEnd clockwise start finish) := by
  cases clockwise with
  | false => exact hf
  | true => exact hs

theorem crossesSeam_iff : CrossesSeam clockwise start finish ↔
      (farEnd clockwise start finish).ticks ≤ (nearEnd clockwise start finish).ticks := by
  obtain ⟨-, hs0, hs1⟩ := hs.bounds
  obtain ⟨-, hf0, hf1⟩ := hf.bounds
  unfold CrossesSeam sweep nearEnd farEnd
  cases clockwise with
  | false =>
      rw [travel_false hs hf, ticks_tau]
      simp only [Bool.false_eq_true, ↓reduceIte]
      split_ifs <;> omega
  | true =>
      rw [travel_true, travel_false hf hs, ticks_tau]
      simp only [↓reduceIte]
      split_ifs <;> omega

variable (ht : WithinTurn theta)
include ht

/-- The sweep meets a direction within the turn that it starts in, or in the next one if it ends
there. -/
theorem travel_le_sweep_iff : travel clockwise start theta ≤ sweep clockwise start finish ↔
    let near := nearEnd clockwise start finish
    let far := farEnd clockwise start finish
    (near.ticks ≤ theta.ticks ∧ (theta.ticks ≤ far.ticks ∨ far.ticks ≤ near.ticks)) ∨
      (far.ticks ≤ near.ticks ∧ theta.ticks ≤ far.ticks) := by
  obtain ⟨-, hs0, hs1⟩ := hs.bounds
  obtain ⟨-, hf0, hf1⟩ := hf.bounds
  obtain ⟨-, ht0, ht1⟩ := ht.bounds
  unfold sweep nearEnd farEnd
  cases clockwise with
  | false =>
      rw [travel_false hs ht, travel_false hs hf, ticks_tau]
      simp only [Bool.false_eq_true, ↓reduceIte]
      split <;> split <;> omega
  | true =>
      rw [travel_true, travel_true, travel_false ht hs, travel_false hf hs, ticks_tau]
      simp only [↓reduceIte]
      split <;> split <;> omega

/-- The test meets the same directions, except that in the next turn it compares rounded sums. -/
theorem sweepContains_iff : sweepContains start finish theta clockwise = true ↔
    let near := nearEnd clockwise start finish
    let far := farEnd clockwise start finish
    (near.ticks ≤ theta.ticks ∧ (theta.ticks ≤ far.ticks ∨ far.ticks ≤ near.ticks)) ∨
      (far.ticks ≤ near.ticks ∧ (nearest (theta.ticks + 4 * quarter) 1).ticks ≤
        (nearest (far.ticks + 4 * quarter) 1).ticks) := by
  have hcontains : sweepContains start finish theta clockwise =
      sweepContains (nearEnd clockwise start finish) (farEnd clockwise start finish) theta false := by
    cases clockwise with
    | false => rfl
    | true => exact sweepContains_true start finish theta
  have hnear := withinTurn_nearEnd clockwise hs hf
  have hfar := withinTurn_farEnd clockwise hs hf
  rw [hcontains]
  generalize nearEnd clockwise start finish = near at hnear ⊢
  generalize farEnd clockwise start finish = far at hfar ⊢
  obtain ⟨hnfin, hn0, hn1⟩ := hnear.bounds
  obtain ⟨hffin, hf0, hf1⟩ := hfar.bounds
  obtain ⟨htfin, ht0, ht1⟩ := ht.bounds
  have hturn (c : Int) (hc : 0 ≤ c) : 4 * quarter ≤ (nearest (c + 4 * quarter) 1).ticks := by
    have := quarters_le_ticks_nearest (k := 4) (by norm_num) (a := c + 4 * quarter)
      (by push_cast; omega)
    simpa using this
  have hturnf := hturn far.ticks hf0
  have hturnt := hturn theta.ticks ht0
  rw [sweepContains_false_iff hnfin hffin htfin]
  unfold sweepEnd
  dsimp only
  split <;> omega

end Ends

/-- The test of the sweep passes every direction that is at most as far from the start as the sweep
is long. It passes others only beyond the seam, past the far end by the rounding of two sums. -/
theorem sweepContains_travel {start finish theta : Binary64} (clockwise : Bool)
    (hs : WithinTurn start) (hf : WithinTurn finish) (ht : WithinTurn theta) :
    (travel clockwise start theta ≤ sweep clockwise start finish →
      sweepContains start finish theta clockwise = true) ∧
    (sweepContains start finish theta clockwise = true →
      travel clockwise start theta ≤ sweep clockwise start finish ∨
        CrossesSeam clockwise start finish ∧
          (farEnd clockwise start finish).ticks < theta.ticks ∧
          2 ^ 49 * (theta.ticks - (farEnd clockwise start finish).ticks) ≤ unit) := by
  rw [sweepContains_iff clockwise hs hf ht, travel_le_sweep_iff clockwise hs hf ht,
    crossesSeam_iff clockwise hs hf]
  dsimp only
  constructor
  · rintro (hturn | ⟨hseam, hle⟩)
    · exact Or.inl hturn
    · exact Or.inr ⟨hseam, ticks_nearest_add_turn_mono hle⟩
  · rintro (hturn | ⟨hseam, hle⟩)
    · exact Or.inl (Or.inl hturn)
    · rcases le_or_gt theta.ticks (farEnd clockwise start finish).ticks with hmet | hpast
      · exact Or.inl (Or.inr ⟨hseam, hmet⟩)
      · obtain ⟨-, hfar0, hfar1⟩ := (withinTurn_farEnd clockwise hs hf).bounds
        obtain ⟨-, ht0, ht1⟩ := ht.bounds
        have hround := sub_le_of_ticks_nearest_le (by omega) (by omega) (by omega) (by omega) hle
        exact Or.inr ⟨hseam, hpast, by rwa [add_sub_add_right_eq_sub] at hround⟩

/-- From one to zero the sweep meets zero, and the test passes two to the minus 55 as well. -/
theorem sweepContains_travel_past_seam :
    let theta : Binary64 := .finite false 4503599627370496 967 (by decide)
    WithinTurn 1 ∧ WithinTurn 0 ∧ WithinTurn theta ∧ sweepContains 1 0 0 false ∧
      sweepContains 1 0 theta false ∧ ¬travel false 1 theta ≤ sweep false 1 0 ∧
      CrossesSeam false 1 0 ∧ 2 ^ 49 * (theta.ticks - ticks 0) ≤ unit := by
  intro theta
  have hone : WithinTurn 1 := by decide +kernel
  have hzero : WithinTurn 0 := by decide +kernel
  have ht : WithinTurn theta := by decide +kernel
  have hmet := (sweepContains_travel false hone hzero hzero).1 (by decide +kernel)
  have hpassed : sweepContains 1 0 theta false := by decide +kernel
  have hbeyond : ¬travel false 1 theta ≤ sweep false 1 0 := by decide +kernel
  obtain ⟨hseam, -, hnear⟩ :=
    ((sweepContains_travel false hone hzero ht).2 hpassed).resolve_left hbeyond
  exact ⟨hone, hzero, ht, hmet, hpassed, hbeyond, hseam, hnear⟩

end Arc

end Toolpath
