import Toolpath.Proofs.Number.Order

/-!
# Folds that select

The lesser and the greater of two doubles are one selection in two directions. A fold of it passes
over absent numbers and ends at a member with the least key, unless the start is as good. The infinity
on the far side is a start that no number loses to.
-/

namespace Toolpath.Binary64

theorem natAbs_ticks_le_horizon (x : Binary64) : x.ticks.natAbs ≤ horizon := by
  rw [natAbs_ticks]
  exact magnitude_le_horizon x

@[simp] theorem ticks_infinity_false : (infinity false).ticks = horizon := by
  rw [ticks_of_not_isNegative rfl, magnitude_infinity]

@[simp] theorem ticks_infinity_true : (infinity true).ticks = -(horizon : Int) := by
  rw [ticks_of_isNegative rfl, magnitude_infinity]

/-- The operation takes, of two numbers, the one with the lesser key, and passes over an absent one.
No key exceeds that of the start. -/
structure Selects (f : Binary64 → Binary64 → Binary64) (key : Binary64 → Int) (start : Binary64) :
    Prop where
  skip : ∀ a, f a .nan = a
  eq_or : ∀ a b, f a b = a ∨ f a b = b
  key_eq : ∀ {a b}, a ≠ .nan → b ≠ .nan → key (f a b) = Min.min (key a) (key b)
  ticks_eq : ∀ {a b}, key a = key b → a.ticks = b.ticks
  start_ne_nan : start ≠ .nan
  key_le_start : ∀ a, key a ≤ key start

theorem selects_min : Selects Binary64.min ticks (.infinity false) where
  skip a := by cases a <;> simp [Binary64.min, isNaN]
  eq_or := min_eq_or
  key_eq := ticks_min
  ticks_eq h := h
  start_ne_nan := by decide
  key_le_start a := by
    have := natAbs_ticks_le_horizon a
    rw [ticks_infinity_false]
    omega

theorem selects_max : Selects Binary64.max (fun x ↦ -x.ticks) (.infinity true) where
  skip a := by cases a <;> simp [Binary64.max, isNaN]
  eq_or := max_eq_or
  key_eq ha hb := by
    rw [ticks_max ha hb]
    exact (min_neg_neg _ _).symm
  ticks_eq := neg_inj.mp
  start_ne_nan := by decide
  key_le_start a := by
    have := natAbs_ticks_le_horizon a
    rw [ticks_infinity_true]
    omega

namespace Selects

variable {f : Binary64 → Binary64 → Binary64} {key : Binary64 → Int} {start a : Binary64}
  {xs ys : List Binary64}

theorem foldl_ne_nan (h : Selects f key start) (ha : a ≠ .nan) (xs : List Binary64) :
    xs.foldl f a ≠ .nan := by
  induction xs generalizing a with
  | nil => exact ha
  | cons x xs ih =>
      apply ih
      by_cases hx : x = .nan
      · rwa [hx, h.skip]
      · rcases h.eq_or a x with hs | hs <;> rwa [hs]

theorem foldl_eq_or_mem (h : Selects f key start) (a : Binary64) (xs : List Binary64) :
    xs.foldl f a = a ∨ xs.foldl f a ∈ xs := by
  induction xs generalizing a with
  | nil => exact Or.inl rfl
  | cons x xs ih =>
      rcases ih (f a x) with hs | hs
      · rw [List.foldl_cons, hs]
        rcases h.eq_or a x with hx | hx
        · exact Or.inl hx
        · exact Or.inr (by rw [hx]; exact List.mem_cons_self)
      · exact Or.inr (List.mem_cons_of_mem x hs)

theorem le_key_foldl_iff (h : Selects f key start) (ha : a ≠ .nan) (xs : List Binary64) (t : Int) :
    t ≤ key (xs.foldl f a) ↔ t ≤ key a ∧ ∀ x ∈ xs, x ≠ .nan → t ≤ key x := by
  induction xs generalizing a with
  | nil => simp
  | cons x xs ih =>
      rw [List.foldl_cons, List.forall_mem_cons]
      by_cases hx : x = .nan
      · rw [hx, h.skip, ih ha]
        simp
      · have hs : f a x ≠ .nan := by
          rcases h.eq_or a x with hs | hs <;> rwa [hs]
        rw [ih hs, h.key_eq ha hx, le_min_iff, and_assoc]
        simp [hx]

theorem key_foldl_le (h : Selects f key start) (ha : a ≠ .nan) {x : Binary64} (hx : x ∈ xs)
    (hn : x ≠ .nan) : key (xs.foldl f a) ≤ key x :=
  ((h.le_key_foldl_iff ha xs _).mp le_rfl).2 x hx hn

theorem key_foldl_le_self (h : Selects f key start) (ha : a ≠ .nan) (xs : List Binary64) :
    key (xs.foldl f a) ≤ key a :=
  ((h.le_key_foldl_iff ha xs _).mp le_rfl).1

/-- The start does not outlast a number. -/
theorem exists_eq_foldl (h : Selects f key start) (hne : xs ≠ []) (hxs : ∀ x ∈ xs, x ≠ .nan) :
    ∃ x ∈ xs, x.eq (xs.foldl f start) := by
  have hn := h.foldl_ne_nan h.start_ne_nan xs
  rcases h.foldl_eq_or_mem start xs with hs | hs
  · obtain ⟨x, hx⟩ := List.exists_mem_of_ne_nil xs hne
    have hle := h.key_foldl_le h.start_ne_nan hx (hxs x hx)
    rw [hs] at hle ⊢
    exact ⟨x, hx, eq_iff.mpr ⟨hxs x hx, h.start_ne_nan,
      h.ticks_eq (le_antisymm (h.key_le_start x) hle)⟩⟩
  · exact ⟨_, hs, eq_refl hn⟩

/-- Only the set of the members counts. -/
theorem ticks_foldl_congr (h : Selects f key start) (ha : a ≠ .nan)
    (hxy : ∀ x, x ∈ xs ↔ x ∈ ys) : (xs.foldl f a).ticks = (ys.foldl f a).ticks := by
  apply h.ticks_eq
  apply eq_of_forall_le_iff
  intro t
  rw [h.le_key_foldl_iff ha, h.le_key_foldl_iff ha]
  simp only [hxy]

/-- A fold from elsewhere selects once more from there and the fold from the start. -/
theorem ticks_foldl (h : Selects f key start) (ha : a ≠ .nan) (xs : List Binary64) :
    (xs.foldl f a).ticks = (f a (xs.foldl f start)).ticks := by
  apply h.ticks_eq
  rw [h.key_eq ha (h.foldl_ne_nan h.start_ne_nan xs)]
  apply eq_of_forall_le_iff
  intro t
  rw [le_min_iff, h.le_key_foldl_iff ha, h.le_key_foldl_iff h.start_ne_nan]
  constructor
  · rintro ⟨hta, hxs⟩
    exact ⟨hta, hta.trans (h.key_le_start a), hxs⟩
  · rintro ⟨hta, -, hxs⟩
    exact ⟨hta, hxs⟩

end Selects

end Toolpath.Binary64
