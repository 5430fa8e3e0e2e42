import Toolpath.Number.Shortest
import Toolpath.Proofs.Number.Nearest

/-!
# The shortest decimal reads back

A quotient that lies in the interval of a double rounds to it, with the ends of the interval where the
coefficient is even. The search for the shortest decimal only takes points of the interval, and it
ends within its bound because the finest grid that is tried is no wider than the smaller half of the
interval. So the shortest decimal reads back as the double that it was found for.
-/

namespace Toolpath

/-! ## Powers of ten and of two -/

theorem ten_pow_le_two_pow {k e : Nat} (h : 196 * k ≤ 59 * e) : 10 ^ k ≤ 2 ^ e := by
  refine (Nat.pow_le_pow_iff_left (by decide : 59 ≠ 0)).mp ?_
  calc
    (10 ^ k) ^ 59 = (10 ^ 59) ^ k := by rw [← pow_mul, ← pow_mul, Nat.mul_comm]
    _ ≤ (2 ^ 196) ^ k := Nat.pow_le_pow_left (by norm_num) k
    _ = 2 ^ (196 * k) := (pow_mul 2 196 k).symm
    _ ≤ 2 ^ (59 * e) := Nat.pow_le_pow_right (by decide) h
    _ = (2 ^ e) ^ 59 := by rw [← pow_mul, Nat.mul_comm]

theorem two_pow_le_ten_pow {k e : Nat} (h : 28 * e ≤ 93 * k) : 2 ^ e ≤ 10 ^ k := by
  refine (Nat.pow_le_pow_iff_left (by decide : 28 ≠ 0)).mp ?_
  calc
    (2 ^ e) ^ 28 = 2 ^ (28 * e) := by rw [← pow_mul, Nat.mul_comm]
    _ ≤ 2 ^ (93 * k) := Nat.pow_le_pow_right (by decide) h
    _ = (2 ^ 93) ^ k := pow_mul 2 93 k
    _ ≤ (10 ^ 28) ^ k := Nat.pow_le_pow_left (by norm_num) k
    _ = (10 ^ k) ^ 28 := by rw [← pow_mul, ← pow_mul, Nat.mul_comm]

namespace Binary64

/-! ## The interval of a double -/

theorem shiftOf_eq {n p : Nat} (hlt : n < 9007199254740992 * 2 ^ p)
    (hle : p ≠ 0 → 4503599627370496 * 2 ^ p ≤ n) : shiftOf n = p := by
  have hlog : n.log2 < 53 + p := by
    by_cases h0 : n = 0
    · subst h0
      simp
    · rw [Nat.log2_lt h0, pow_add]
      exact hlt
  unfold shiftOf
  by_cases hp : p = 0
  · omega
  · have hn := hle hp
    have hlog' : 52 + p ≤ n.log2 := by
      rw [Nat.le_log2 (by have := Nat.two_pow_pos p; omega), pow_add]
      exact hn
    omega

theorem isHalfEven_natCast_iff {m a d : Nat} : IsHalfEven m a d ↔
    2 * (m * d) ≤ 2 * a + d ∧ 2 * a ≤ 2 * (m * d) + d ∧
      (2 * (m * d) = 2 * a + d ∨ 2 * a = 2 * (m * d) + d → m % 2 = 0) := by
  rw [IsHalfEven, ← Nat.cast_mul, Int.abs_eq_natAbs]
  omega

/-- A quotient goes to the coefficient that is nearest to it on the grid that it is rounded on. -/
theorem round_eq_place_of_isHalfEven (s : Bool) {a d m p : Nat} (hd : 0 < d)
    (hlt : a < 9007199254740992 * 2 ^ p * d) (hle : p ≠ 0 → 4503599627370496 * 2 ^ p * d ≤ a)
    (h : IsHalfEven m a (d * 2 ^ p)) : round s a d = place s m p := by
  have hshift : shiftOf (a / d) = p := by
    refine shiftOf_eq ?_ fun hp ↦ ?_
    · exact (Nat.div_lt_iff_lt_mul hd).mpr hlt
    · exact (Nat.le_div_iff_mul_le hd).mpr (hle hp)
  have hpos := Nat.mul_pos hd (Nat.two_pow_pos p)
  have hcoefficient : roundHalfEven a (d * 2 ^ p) = m := by
    exact_mod_cast (isHalfEven_roundHalfEven hpos a).unique hpos h
  rw [round_eq_place, hshift, coefficientOf, hshift, hcoefficient]

theorem place_canonical (s : Bool) {m p : Nat} (h : Canonical m p) :
    place s m p = .finite s m p h := by
  have hm := h.1
  unfold place
  simp only [show m ≠ 9007199254740992 by omega, if_false, h, dif_pos]

theorem place_carry (s : Bool) {p : Nat} (h : Canonical 4503599627370496 (p + 1)) :
    place s 9007199254740992 p = .finite s 4503599627370496 (p + 1) h := by
  unfold place
  simp only [if_true, h, dif_pos]

end Binary64

namespace Shortest

/-- A quotient, in quarters of a tick, lies in the interval. -/
def Interval.Contains (i : Interval) (n d : Nat) : Prop :=
  if i.closed then i.low * d ≤ n ∧ n ≤ i.high * d else i.low * d < n ∧ n < i.high * d

/-- How far the interval reaches down, in quarters of a tick. -/
def reach (m p : Nat) : Nat := if m = 4503599627370496 ∧ 0 < p then 2 ^ p else 2 * 2 ^ p

theorem reach_le (m p : Nat) : reach m p ≤ 2 * 2 ^ p := by
  unfold reach
  split <;> omega

theorem two_pow_le_reach (m p : Nat) : 2 ^ p ≤ reach m p := by
  unfold reach
  split <;> omega

theorem interval_eq (m p : Nat) : interval m p =
    ⟨4 * (m * 2 ^ p) - reach m p, 4 * (m * 2 ^ p), 4 * (m * 2 ^ p) + 2 * 2 ^ p, decide (m % 2 = 0)⟩ := by
  unfold interval reach
  simp only [Nat.shiftLeft_eq, one_mul]

/-- The ends count only for an even coefficient. -/
theorem contains_interval_iff {m p n d : Nat} : (interval m p).Contains n d ↔
    (4 * (m * 2 ^ p) - reach m p) * d ≤ n ∧ n ≤ (4 * (m * 2 ^ p) + 2 * 2 ^ p) * d ∧
      (m % 2 ≠ 0 → n ≠ (4 * (m * 2 ^ p) - reach m p) * d ∧
        n ≠ (4 * (m * 2 ^ p) + 2 * 2 ^ p) * d) := by
  rw [interval_eq, Interval.Contains]
  simp only [decide_eq_true_eq]
  split <;> omega

/-- The interval in quarters of a grid step. -/
theorem contains_interval_iff_steps {m p n d : Nat} : (interval m p).Contains n d ↔
    4 * (m * (d * 2 ^ p)) - reach m p * d ≤ n ∧ n ≤ 4 * (m * (d * 2 ^ p)) + 2 * (d * 2 ^ p) ∧
      (m % 2 ≠ 0 → n ≠ 4 * (m * (d * 2 ^ p)) - reach m p * d ∧
        n ≠ 4 * (m * (d * 2 ^ p)) + 2 * (d * 2 ^ p)) := by
  have hmid : 4 * (m * 2 ^ p) * d = 4 * (m * (d * 2 ^ p)) := by ring
  have hhigh : (4 * (m * 2 ^ p) + 2 * 2 ^ p) * d = 4 * (m * (d * 2 ^ p)) + 2 * (d * 2 ^ p) := by ring
  rw [contains_interval_iff, Nat.sub_mul, hmid, hhigh]

/-- Below a coefficient that has just grown to its full width the grid is twice as fine. -/
theorem round_of_contains_below (s : Bool) {p : Nat} (hc : Binary64.Canonical 4503599627370496 p)
    (hp : 0 < p) {a d : Nat} (hd : 0 < d) (hlt : a < 4503599627370496 * (d * 2 ^ p))
    (h : (interval 4503599627370496 p).Contains (4 * a) d) :
    Binary64.round s a d = .finite s 4503599627370496 p hc := by
  obtain ⟨hlow, -, -⟩ := contains_interval_iff_steps.mp h
  rw [reach, if_pos ⟨rfl, hp⟩, Nat.mul_comm _ d] at hlow
  obtain ⟨q, rfl⟩ := Nat.exists_eq_add_of_lt hp
  have htwo : d * 2 ^ (0 + q + 1) = 2 * (d * 2 ^ q) := by
    rw [zero_add, pow_succ]
    ring
  rw [htwo] at hlow hlt
  have hcomm (k : Nat) : k * 2 ^ q * d = k * (d * 2 ^ q) := by ring
  rw [Binary64.round_eq_place_of_isHalfEven (m := 9007199254740992) (p := q) s hd]
  · simp only [zero_add] at hc ⊢
    exact Binary64.place_carry s hc
  · rw [hcomm]
    omega
  · intro _
    rw [hcomm]
    omega
  · rw [Binary64.isHalfEven_natCast_iff]
    omega

theorem round_of_contains (s : Bool) {m p : Nat} (hc : Binary64.Canonical m p) {a d : Nat}
    (hd : 0 < d) (h : (interval m p).Contains (4 * a) d) :
    Binary64.round s a d = .finite s m p hc := by
  by_cases hbelow : m = 4503599627370496 ∧ 0 < p ∧ a < m * (d * 2 ^ p)
  · obtain ⟨rfl, hp, hlt⟩ := hbelow
    exact round_of_contains_below s hc hp hd hlt h
  · rw [contains_interval_iff_steps] at h
    have hodd := hc.1
    have hpos := Nat.mul_pos hd (Nat.two_pow_pos p)
    have hcomm (k : Nat) : k * 2 ^ p * d = k * (d * 2 ^ p) := by ring
    have hreach : reach m p * d ≤ 2 * (d * 2 ^ p) := by
      rw [← hcomm]
      exact Nat.mul_le_mul_right d (reach_le m p)
    rw [Binary64.round_eq_place_of_isHalfEven (m := m) (p := p) s hd]
    · exact Binary64.place_canonical s hc
    · have htop : m * (d * 2 ^ p) ≤ 9007199254740991 * (d * 2 ^ p) := Nat.mul_le_mul_right _ (by omega)
      rw [hcomm]
      omega
    · intro hp
      rw [hcomm]
      rcases (hc.2.2.resolve_right hp).eq_or_lt with rfl | hm
      · omega
      · have hstep : 4503599627370497 * (d * 2 ^ p) ≤ m * (d * 2 ^ p) := Nat.mul_le_mul_right _ hm
        omega
    · rw [Binary64.isHalfEven_natCast_iff]
      omega

/-! ## The search -/

theorem four_mul_unit : 4 * Binary64.unit = 2 ^ (2 + 1074) := by
  rw [Binary64.unit, Nat.shiftLeft_eq, one_mul, show 4 = 2 ^ 2 from rfl, ← pow_add]

theorem tenPower_fst_pos (k : Int) : 0 < (tenPower k).1 := by
  have hunit : 0 < 4 * Binary64.unit := Nat.mul_pos (by decide) Binary64.unit_pos
  cases k with
  | ofNat k => exact Nat.mul_pos hunit (Nat.pow_pos (by decide))
  | negSucc k => exact hunit

theorem tenPower_snd_pos (k : Int) : 0 < (tenPower k).2 := by
  cases k with
  | ofNat k => exact Nat.one_pos
  | negSucc k => exact Nat.pow_pos (by decide)

instance (i : Interval) (n d : Nat) : Decidable (i.Contains n d) :=
  inferInstanceAs (Decidable (if i.closed then i.low * d ≤ n ∧ n ≤ i.high * d
    else i.low * d < n ∧ n < i.high * d))

theorem decide_contains (i : Interval) (n d : Nat) : decide (i.Contains n d) =
    if i.closed then decide (i.low * d ≤ n) && decide (n ≤ i.high * d)
    else decide (i.low * d < n) && decide (n < i.high * d) := by
  unfold Interval.Contains
  split <;> simp

theorem contains_of_onGrid? {tie : Tie} {i : Interval} {k : Int} {c : Nat}
    (h : onGrid? tie i k = some c) : i.Contains (c * (tenPower k).1) (tenPower k).2 := by
  unfold onGrid? at h
  dsimp only at h
  simp only [← decide_contains, Bool.and_eq_true, decide_eq_true_eq] at h
  generalize i.mid * (tenPower k).2 / (tenPower k).1 = below at h
  split at h
  next hboth =>
    obtain rfl := Option.some.inj h
    split
    all_goals split
    · exact hboth.2
    · exact hboth.1
    · exact hboth.2
    · exact hboth.1
  next =>
    split at h
    next hbelow =>
      obtain rfl := Option.some.inj h
      exact hbelow
    next =>
      split at h
      next habove =>
        obtain rfl := Option.some.inj h
        exact habove
      next => cases h

theorem isSome_onGrid? (tie : Tie) {i : Interval} {k : Int}
    (h : i.Contains (i.mid * (tenPower k).2 / (tenPower k).1 * (tenPower k).1) (tenPower k).2) :
    (onGrid? tie i k).isSome := by
  unfold onGrid?
  dsimp only
  simp only [← decide_contains, decide_eq_true h, Bool.true_and, if_true]
  split <;> rfl

/-- The search takes a point of the interval if one of the grids that it tries has one. -/
theorem search_spec {tie : Tie} {i : Interval} {fuel : Nat} {k : Int} {j : Nat} (hj : j < fuel)
    (h : (onGrid? tie i (k - j)).isSome) {c : Nat} {e : Int} (hsearch : search tie i fuel k = (c, e)) :
    i.Contains (c * (tenPower e).1) (tenPower e).2 ∧ k - fuel < e ∧ e ≤ k := by
  induction fuel generalizing k j with
  | zero => exact absurd hj (Nat.not_lt_zero j)
  | succ fuel ih =>
      rw [search] at hsearch
      split at hsearch
      next d hd =>
        obtain ⟨rfl, rfl⟩ := Prod.mk.inj hsearch
        exact ⟨contains_of_onGrid? hd, by omega, le_rfl⟩
      next hnone =>
        cases j with
        | zero =>
            rw [Nat.cast_zero, sub_zero, hnone] at h
            cases h
        | succ j =>
            have hstep : k - (j + 1 : Nat) = k - 1 - j := by push_cast; ring
            rw [hstep] at h
            obtain ⟨hcontains, hlow, hhigh⟩ := ih (Nat.lt_of_succ_lt_succ hj) h hsearch
            exact ⟨hcontains, by push_cast; omega, by omega⟩

/-- A grid that is no wider than the reach of the interval has a point in it. -/
theorem contains_below_mid {m p : Nat} {k : Int} (h : (tenPower k).1 ≤ reach m p * (tenPower k).2) :
    (interval m p).Contains ((interval m p).mid * (tenPower k).2 / (tenPower k).1 * (tenPower k).1)
      (tenPower k).2 := by
  have hnum := tenPower_fst_pos k
  have hden := tenPower_snd_pos k
  have hmid : (interval m p).mid = 4 * (m * 2 ^ p) := by rw [interval_eq]
  have hfloor := Nat.div_mul_le_self (4 * (m * 2 ^ p) * (tenPower k).2) (tenPower k).1
  have hnext := Nat.lt_div_mul_add hnum (a := 4 * (m * 2 ^ p) * (tenPower k).2)
  have hstep := Nat.mul_pos (Nat.two_pow_pos p) hden
  have hreach : reach m p * (tenPower k).2 ≤ 2 * (2 ^ p * (tenPower k).2) := by
    rw [← Nat.mul_assoc]
    exact Nat.mul_le_mul_right _ (reach_le m p)
  have hodd : m % 2 ≠ 0 → 4 * (2 ^ p * (tenPower k).2) ≤ 4 * (m * 2 ^ p) * (tenPower k).2 := by
    intro hm
    rw [← Nat.mul_assoc]
    exact Nat.mul_le_mul_right _ (Nat.mul_le_mul_left _ (Nat.le_mul_of_pos_left _ (by omega)))
  rw [contains_interval_iff, hmid, Nat.sub_mul, Nat.add_mul, Nat.mul_assoc 2]
  generalize 4 * (m * 2 ^ p) * (tenPower k).2 = mid at *
  generalize mid / (tenPower k).1 * (tenPower k).1 = below at *
  omega

/-- The magnitude of a double has as many binary digits as its coefficient and its shift allow. -/
theorem log2_magnitude_le {m p : Nat} (h : Binary64.Canonical m p) : (m <<< p).log2 ≤ p + 52 := by
  have hlt : m * 2 ^ p < 2 ^ 53 * 2 ^ p := Nat.mul_lt_mul_of_pos_right h.1 (Nat.two_pow_pos p)
  rw [Nat.shiftLeft_eq]
  by_cases h0 : m * 2 ^ p = 0
  · rw [h0, Nat.log2_zero]
    exact Nat.zero_le _
  · rw [← pow_add, ← Nat.log2_lt h0] at hlt
    omega

/-- The last grid that is tried is fine enough. -/
theorem tenPower_le_reach {m p : Nat} (h : Binary64.Canonical m p) :
    (tenPower (coarsest m p - 19)).1 ≤ reach m p * (tenPower (coarsest m p - 19)).2 := by
  refine le_trans ?_ (Nat.mul_le_mul_right _ (two_pow_le_reach m p))
  have hp := h.2.1
  have hlog := log2_magnitude_le h
  have hk : coarsest m p - 19 ≤ ((p : Int) - 1022) * 30103 / 100000 - 18 := by
    unfold coarsest
    omega
  generalize coarsest m p - 19 = k at hk
  cases k with
  | ofNat k =>
      rw [Int.ofNat_eq_natCast] at hk
      have hten : 10 ^ k ≤ 2 ^ (p - 1076) := ten_pow_le_two_pow (by omega)
      have hsum : 2 + 1074 + (p - 1076) = p := by omega
      calc
        4 * Binary64.unit * Nat.pow 10 k ≤ 2 ^ (2 + 1074) * 2 ^ (p - 1076) := by
          rw [four_mul_unit]
          exact Nat.mul_le_mul_left _ hten
        _ = 2 ^ p * 1 := by rw [← pow_add, hsum, mul_one]
  | negSucc k =>
      have hten : 2 ^ (1076 - p) ≤ 10 ^ (k + 1) := two_pow_le_ten_pow (by omega)
      calc
        4 * Binary64.unit ≤ 2 ^ (p + (1076 - p)) := by
          rw [four_mul_unit]
          exact Nat.pow_le_pow_right (by decide) (by omega)
        _ ≤ 2 ^ p * Nat.pow 10 (k + 1) := by
          rw [pow_add]
          exact Nat.mul_le_mul_left _ hten

/-- The shortest decimal of a double lies in its interval, and its power of ten is in reach. -/
theorem shortest_spec (tie : Tie) (s : Bool) {m p : Nat} (h : Binary64.Canonical m p) (hm : m ≠ 0) :
    ∃ c k, Decimal.shortest tie s m p = ⟨s, c, k⟩ ∧ c ≠ 0 ∧ -345 ≤ k ∧ k ≤ 310 ∧
      (interval m p).Contains (c * (tenPower k).1) (tenPower k).2 := by
  have hp := h.2.1
  have hlog := log2_magnitude_le h
  have hsome := isSome_onGrid? tie (contains_below_mid (tenPower_le_reach h))
  rcases hsearch : search tie (interval m p) 20 (coarsest m p) with ⟨c, k⟩
  obtain ⟨hcontains, hlow, hhigh⟩ := search_spec (by decide : 19 < 20) hsome hsearch
  unfold coarsest at hlow hhigh
  refine ⟨c, k, by rw [Decimal.shortest, if_neg hm, hsearch], ?_, by omega, by omega, hcontains⟩
  rintro rfl
  rw [contains_interval_iff, Nat.zero_mul] at hcontains
  have hreach := reach_le m p
  have htwo := Nat.two_pow_pos p
  have hstep := Nat.mul_le_mul_right (2 ^ p) (Nat.one_le_iff_ne_zero.mpr hm)
  have hlowest : 0 < 4 * (m * 2 ^ p) - reach m p := by omega
  have := Nat.mul_pos hlowest (tenPower_snd_pos k)
  omega

/-! ## The number of digits -/

theorem tenPower_succ (k : Int) :
    (tenPower (k + 1)).1 * (tenPower k).2 = 10 * (tenPower k).1 * (tenPower (k + 1)).2 := by
  cases k with
  | ofNat k =>
      rw [show Int.ofNat k + 1 = .ofNat (k + 1) from rfl]
      dsimp only [tenPower]
      rw [Nat.pow_eq, Nat.pow_eq, pow_succ]
      ring
  | negSucc k =>
      cases k with
      | zero =>
          rw [show Int.negSucc 0 + 1 = .ofNat 0 from rfl]
          dsimp only [tenPower]
          rw [Nat.pow_eq, Nat.pow_eq]
          ring
      | succ k =>
          rw [show Int.negSucc (k + 1) + 1 = .negSucc k from rfl]
          dsimp only [tenPower]
          rw [Nat.pow_eq, Nat.pow_eq, pow_succ]
          ring

/-- Nothing was found on the grid before the one that the search ends on. -/
theorem onGrid?_of_search {tie : Tie} {i : Interval} {fuel : Nat} {k : Int} {c : Nat} {e : Int}
    (h : search tie i fuel k = (c, e)) (he : e < k) : onGrid? tie i (e + 1) = none := by
  induction fuel generalizing k with
  | zero =>
      obtain ⟨-, rfl⟩ := Prod.mk.inj h
      exact absurd he (lt_irrefl k)
  | succ fuel ih =>
      rw [search] at h
      split at h
      next d hd =>
        obtain ⟨-, rfl⟩ := Prod.mk.inj h
        exact absurd he (lt_irrefl k)
      next hnone =>
        rcases eq_or_lt_of_le (Int.le_sub_one_of_lt he) with rfl | hlt
        · rwa [sub_add_cancel]
        · exact ih h hlt

/-- The first grid that is tried is not finer than the doubles. -/
theorem two_pow_le_tenPower_coarsest {m p : Nat} (h : Binary64.Canonical m p) (hm : m ≠ 0) :
    2 ^ p * (tenPower (coarsest m p)).2 ≤ (tenPower (coarsest m p)).1 := by
  have hp := h.2.1
  have hlog := log2_magnitude_le h
  have hlow : p ≤ (m <<< p).log2 := by
    rw [Nat.shiftLeft_eq]
    exact (Nat.le_log2 (Nat.mul_ne_zero hm (Nat.two_pow_pos p).ne')).mpr
      (Nat.le_mul_of_pos_left _ (Nat.pos_of_ne_zero hm))
  have hk : coarsest m p = (((m <<< p).log2 : Int) - 1074) * 30103 / 100000 + 1 := rfl
  generalize coarsest m p = k at hk
  cases k with
  | ofNat k =>
      rw [Int.ofNat_eq_natCast] at hk
      have hten : 2 ^ (p - 1075) ≤ 10 ^ k := two_pow_le_ten_pow (by omega)
      calc
        2 ^ p * 1 ≤ 2 ^ (2 + 1074 + (p - 1075)) := by
          rw [mul_one]
          exact Nat.pow_le_pow_right (by decide) (by omega)
        _ ≤ 4 * Binary64.unit * Nat.pow 10 k := by
          rw [four_mul_unit, pow_add]
          exact Nat.mul_le_mul_left _ hten
  | negSucc k =>
      have hten : 10 ^ (k + 1) ≤ 2 ^ (2 + 1074 - p) := ten_pow_le_two_pow (by omega)
      calc
        2 ^ p * Nat.pow 10 (k + 1) ≤ 2 ^ p * 2 ^ (2 + 1074 - p) := Nat.mul_le_mul_left _ hten
        _ = 4 * Binary64.unit := by
          rw [four_mul_unit, ← pow_add]
          congr 1
          omega

/-- A grid that is ten times as wide as the one found has no point in the interval, unless it is
coarser than all that are searched. -/
theorem two_pow_le_of_search {tie : Tie} {m p c : Nat} {k : Int} (h : Binary64.Canonical m p)
    (hm : m ≠ 0) (hsearch : search tie (interval m p) 20 (coarsest m p) = (c, k))
    (hhigh : k ≤ coarsest m p) : 2 ^ p * (tenPower k).2 ≤ 10 * (tenPower k).1 := by
  rcases eq_or_lt_of_le hhigh with rfl | hlt
  · exact (two_pow_le_tenPower_coarsest h hm).trans (Nat.le_mul_of_pos_left _ (by decide))
  · have hnone := onGrid?_of_search hsearch hlt
    have hwide : ¬(tenPower (k + 1)).1 ≤ reach m p * (tenPower (k + 1)).2 := fun hle ↦ by
      have hsome := isSome_onGrid? tie (contains_below_mid hle)
      rw [hnone] at hsome
      cases hsome
    refine le_of_mul_le_mul_right ?_ (tenPower_snd_pos (k + 1))
    calc
      2 ^ p * (tenPower k).2 * (tenPower (k + 1)).2 ≤
          reach m p * (tenPower (k + 1)).2 * (tenPower k).2 := by
        rw [Nat.mul_right_comm]
        exact Nat.mul_le_mul_right _ (Nat.mul_le_mul_right _ (two_pow_le_reach m p))
      _ ≤ (tenPower (k + 1)).1 * (tenPower k).2 := Nat.mul_le_mul_right _ (not_le.mp hwide).le
      _ = 10 * (tenPower k).1 * (tenPower (k + 1)).2 := tenPower_succ k

theorem shortest_coefficient_lt (tie : Tie) (s : Bool) {m p : Nat} (h : Binary64.Canonical m p) :
    (Decimal.shortest tie s m p).coefficient < 10 ^ 18 := by
  by_cases hm : m = 0
  · rw [Decimal.shortest, if_pos hm]
    exact Nat.pow_pos (by decide)
  have hsome := isSome_onGrid? tie (contains_below_mid (tenPower_le_reach h))
  rcases hsearch : search tie (interval m p) 20 (coarsest m p) with ⟨c, k⟩
  obtain ⟨hcontains, -, hhigh⟩ := search_spec (by decide : 19 < 20) hsome hsearch
  rw [Decimal.shortest, if_neg hm, hsearch]
  have hm53 := h.1
  have hle : c ≤ (4 * m + 2) * 10 := by
    refine le_of_mul_le_mul_right ?_ (tenPower_fst_pos k)
    calc
      c * (tenPower k).1 ≤ (4 * (m * 2 ^ p) + 2 * 2 ^ p) * (tenPower k).2 :=
        (contains_interval_iff.mp hcontains).2.1
      _ = (4 * m + 2) * (2 ^ p * (tenPower k).2) := by ring
      _ ≤ (4 * m + 2) * (10 * (tenPower k).1) :=
        Nat.mul_le_mul_left _ (two_pow_le_of_search h hm hsearch hhigh)
      _ = (4 * m + 2) * 10 * (tenPower k).1 := by ring
  change c < 10 ^ 18
  omega

end Shortest

namespace Decimal

theorem toBinary64_ofNat {s : Bool} {c k : Nat} (hc : c ≠ 0) (hk : k ≤ 400) :
    toBinary64 ⟨s, c, k⟩ = .round s (c * Nat.pow 10 k * Binary64.unit) 1 := by
  rw [toBinary64]
  dsimp only
  rw [if_neg hc, if_neg (by omega), if_neg (by omega)]

theorem toBinary64_negSucc {s : Bool} {c k : Nat} (hc : c ≠ 0) (hk : k < 400) :
    toBinary64 ⟨s, c, .negSucc k⟩ = .round s (c * Binary64.unit) (Nat.pow 10 (k + 1)) := by
  rw [toBinary64]
  dsimp only
  rw [if_neg hc, if_neg (by omega), if_neg (by omega)]

/-- The shortest decimal of a double reads back as that double. -/
theorem toBinary64_shortest (tie : Tie) (s : Bool) {m p : Nat} (h : Binary64.Canonical m p) :
    (shortest tie s m p).toBinary64 = .finite s m p h := by
  by_cases hm : m = 0
  · have hp : p = 0 := h.2.2.resolve_left (by omega)
    subst hm hp
    rfl
  · obtain ⟨c, k, hshortest, hc, hlow, hhigh, hcontains⟩ := Shortest.shortest_spec tie s h hm
    rw [hshortest]
    cases k with
    | ofNat k =>
        rw [Int.ofNat_eq_natCast] at hhigh ⊢
        rw [toBinary64_ofNat hc (by omega)]
        refine Shortest.round_of_contains s h Nat.one_pos ?_
        have hfour : 4 * (c * Nat.pow 10 k * Binary64.unit) = c * (4 * Binary64.unit * Nat.pow 10 k) := by
          ring
        rw [hfour]
        exact hcontains
    | negSucc k =>
        rw [toBinary64_negSucc hc (by omega)]
        refine Shortest.round_of_contains s h (Nat.pow_pos (by decide)) ?_
        have hfour : 4 * (c * Binary64.unit) = c * (4 * Binary64.unit) := by ring
        rw [hfour]
        exact hcontains

end Decimal

end Toolpath
