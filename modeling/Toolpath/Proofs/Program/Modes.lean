import Toolpath.Proofs.Number.Whole
import Toolpath.Proofs.Program.Contiguous

/-!
# Groups of modes

The modes come in three groups, and one mode of each group is in force. A code of a group puts its mode
into force and leaves the other groups alone; no other code and no target changes a mode. So a run ends
in the mode of the last code of the group, in the order of the text, or in the one it started with.
-/

namespace Toolpath

/-- The motion that a code of its group puts into force. -/
def Motion.ofCode : Nat → Motion
  | 0 => .rapid
  | 1 => .linear
  | 2 => .arc true
  | _ => .arc false

def Distance.ofCode : Nat → Distance
  | 90 => .absolute
  | _ => .incremental

/-- A mode of a state that the codes of a group set, each to its own value, and that nothing else
sets. -/
structure ModeGroup (μ : Type) where
  codes : List Nat
  mode : Modal → μ
  ofCode : Nat → μ
  codes_le : ∀ n ∈ codes, n ≤ 4294967295
  mode_applyCode : ∀ s n, mode (s.applyCode n) = if n ∈ codes then ofCode n else mode s
  mode_moved : ∀ (s : Modal) p, mode { s with position := p } = mode s

def motionGroup : ModeGroup Motion where
  codes := [0, 1, 2, 3]
  mode := Modal.motion
  ofCode := Motion.ofCode
  codes_le := by decide
  mode_applyCode s n := by
    unfold Modal.applyCode
    split <;> simp_all [Motion.ofCode]
  mode_moved _ _ := rfl

def distanceGroup : ModeGroup Distance where
  codes := [90, 91]
  mode := Modal.distance
  ofCode := Distance.ofCode
  codes_le := by decide
  mode_applyCode s n := by
    unfold Modal.applyCode
    split <;> simp_all [Distance.ofCode]
  mode_moved _ _ := rfl

def unitGroup : ModeGroup (Option LengthUnit) where
  codes := [20, 21]
  mode := Modal.unit
  ofCode := LengthUnit.ofCode?
  codes_le := by decide
  mode_applyCode s n := by
    unfold Modal.applyCode
    split <;> simp_all [LengthUnit.ofCode?]
  mode_moved _ _ := rfl

theorem Modal.eq_of_modes {s t : Modal} (hposition : s.position = t.position)
    (hmotion : s.motion = t.motion) (hdistance : s.distance = t.distance)
    (hunit : s.unit = t.unit) : s = t := by
  cases s
  cases t
  simp_all

/-! ## The last code of a group -/

/-- The number among the given ones that a value equals. -/
def among? (ns : List Nat) (v : Binary64) : Option Nat := ns.find? fun n ↦ v.eq (.ofNat n)

/-- The last of some values that equals one of the given numbers, as that number. -/
def lastAmong (ns : List Nat) (vs : List Binary64) : Option Nat := (vs.filterMap (among? ns)).getLast?

theorem lastAmong_append (ns : List Nat) (vs us : List Binary64) :
    lastAmong ns (vs ++ us) = (lastAmong ns us).or (lastAmong ns vs) := by
  rw [lastAmong, List.filterMap_append, List.getLast?_append]
  rfl

theorem lastAmong_singleton (ns : List Nat) (v : Binary64) : lastAmong ns [v] = among? ns v := by
  cases h : among? ns v <;> simp [lastAmong, h]

theorem mem_of_among? {ns : List Nat} {v : Binary64} {n : Nat} (h : among? ns v = some n) :
    n ∈ ns ∧ v.eq (.ofNat n) = true :=
  ⟨List.mem_of_find?_eq_some h, List.find?_some (p := fun n ↦ v.eq (.ofNat n)) h⟩

/-- A double equals no other whole number than its code. -/
theorem among?_eq {ns : List Nat} (hns : ∀ n ∈ ns, n ≤ 4294967295) (v : Binary64) :
    among? ns v = v.code?.filter (· ∈ ns) := by
  -- Two numbers of the group that equal the value would both be its code.
  have hsound {k : Nat} (h : among? ns v = some k) : k ∈ ns ∧ v.code? = some k := by
    obtain ⟨hk, heq⟩ := mem_of_among? h
    exact ⟨hk, (Binary64.code?_eq_some_iff (hns k hk)).mpr heq⟩
  apply Option.ext
  intro n
  rw [Option.filter_eq_some_iff, decide_eq_true_iff]
  refine ⟨fun h ↦ (hsound h).symm, ?_⟩
  rintro ⟨hcode, hn⟩
  have heq := (Binary64.code?_eq_some_iff (hns n hn)).mp hcode
  cases h : among? ns v with
  | none => exact absurd heq (List.find?_eq_none.mp h n hn)
  | some k => rw [← hcode, (hsound h).2]

namespace ModeGroup

variable {μ : Type} (g : ModeGroup μ)

/-- The mode in force after some values: that of the last one in the group. -/
def after (vs : List Binary64) (m : μ) : μ := ((lastAmong g.codes vs).map g.ofCode).getD m

theorem after_append (vs us : List Binary64) (m : μ) :
    g.after (vs ++ us) m = g.after us (g.after vs m) := by
  unfold after
  rw [lastAmong_append]
  cases lastAmong g.codes us <;> rfl

theorem mode_applyValue (s : Modal) (v : Binary64) :
    g.mode (s.applyValue v) = g.after [v] (g.mode s) := by
  rw [after, lastAmong_singleton, among?_eq g.codes_le, Modal.applyValue]
  cases v.code? with
  | none => rfl
  | some n =>
      dsimp only
      rw [g.mode_applyCode, Option.filter_some]
      by_cases hn : n ∈ g.codes <;> simp [hn]

theorem mode_applyCodes (s : Modal) (vs : List Binary64) :
    g.mode (s.applyCodes vs) = g.after vs (g.mode s) := by
  induction vs generalizing s with
  | nil => rfl
  | cons v vs ih =>
      rw [← List.singleton_append, after_append, ← mode_applyValue, ← ih]
      rfl

theorem mode_step (s : Modal) (line : List Char) :
    g.mode (s.step line).1 = g.after (Word.keptOf 'G' (Word.ofLine line)) (g.mode s) := by
  rcases s.step_words line with ⟨-, -, hs⟩ | ⟨-, hs, -⟩
  · rw [hs, mode_applyCodes]
  · rw [hs, g.mode_moved, mode_applyCodes]

theorem mode_run (s : Modal) (ls : List (List Char)) :
    g.mode (s.run ls) = g.after (Word.keptOf 'G' (ls.flatMap Word.ofLine)) (g.mode s) := by
  induction ls generalizing s with
  | nil => rfl
  | cons l ls ih =>
      rw [Modal.run_cons, ih, mode_step, List.flatMap_cons, Word.keptOf_append, after_append]

end ModeGroup

end Toolpath
