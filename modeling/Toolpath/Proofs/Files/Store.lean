import Mathlib.Tactic
import Toolpath.Files.Store
import Toolpath.Job.Sink

/-!
# A file that was written

Every piece of a path is looked up in a directory, and a file is never put in place of one. So the
paths that led somewhere before a file was written lead there afterwards, and the file is read back
from the path that it was written to.
-/

namespace Toolpath

theorem textOf?_bytesOf (s : String) : Files.textOf? (bytesOf s) = some s := by
  unfold Files.textOf? bytesOf String.fromUTF8?
  simp only [String.toUTF8_eq_toByteArray, Array.toArray_toList]
  rw [dif_pos s.isValidUTF8]
  rfl

namespace Files

variable {fs written : Files} {path : String} {place : List String}

/-- One piece of a path is followed from a directory only. -/
theorem walk_cons_eq_ok_iff {start goal : List String} {p : String} {ps : List String} :
    fs.walk start (p :: ps) = .ok goal ↔ fs.node start = some .directory ∧
      ((FilePath.isVoid p ∧ fs.walk start ps = .ok goal) ∨
        (¬FilePath.isVoid p ∧ p = ".." ∧ fs.walk start.dropLast ps = .ok goal) ∨
        (¬FilePath.isVoid p ∧ p ≠ ".." ∧ p.utf8ByteSize ≤ 255 ∧
          fs.walk (start ++ [p]) ps = .ok goal)) := by
  rw [walk]
  split
  next hnode => simp [hnode]
  next hnode => simp [hnode]
  next hnode =>
    rw [hnode]
    split
    next hvoid => simp [hvoid]
    next hvoid =>
      split
      next hup =>
        subst hup
        simp [hvoid]
      next hup =>
        split
        next hlong => simp [hvoid, hup, Nat.not_le.mpr hlong]
        next hshort => simp [hvoid, hup, Nat.not_lt.mp hshort]

@[simp] theorem node_put_self (n : Node) : (fs.put place n).node place = some n := if_pos rfl

theorem node_put_of_ne {q : List String} (h : q ≠ place) (n : Node) :
    (fs.put place n).node q = fs.node q := if_neg h

theorem walk_put {n : Node} (hplace : fs.node place ≠ some .directory) {start goal : List String}
    {ps : List String} (h : fs.walk start ps = .ok goal) :
    (fs.put place n).walk start ps = .ok goal := by
  induction ps generalizing start with
  | nil => exact h
  | cons p ps ih =>
      obtain ⟨hnode, hwalk⟩ := walk_cons_eq_ok_iff.mp h
      have hne : start ≠ place := fun heq ↦ hplace (heq ▸ hnode)
      refine walk_cons_eq_ok_iff.mpr ⟨(node_put_of_ne hne n).trans hnode, ?_⟩
      exact hwalk.imp (And.imp_right ih)
        (Or.imp (And.imp_right (And.imp_right ih)) (And.imp_right (And.imp_right (And.imp_right ih))))

theorem target_eq_ok_iff : fs.target path = .ok place ↔
    pathFault? path = none ∧ (splitTrailing (FilePath.pieces path)).2 = false ∧
      fs.walk (fs.origin (FilePath.pieces path)) (FilePath.pieces path) = .ok place ∧
      fs.node place ≠ some .directory := by
  unfold target
  cases hfault : pathFault? path with
  | some e => simp
  | none =>
      rcases hsplit : splitTrailing (FilePath.pieces path) with ⟨kept, _ | _⟩
      · simp only [hsplit, Bool.false_eq_true, if_false, Bool.false_or, true_and]
        cases fs.walk (fs.origin (FilePath.pieces path)) (FilePath.pieces path) with
        | error e => simp [bind, Except.bind]
        | ok q =>
            simp only [bind, Except.bind, Except.ok.injEq, decide_eq_true_iff]
            split
            next hdirectory =>
              refine ⟨nofun, ?_⟩
              rintro ⟨rfl, hplace⟩
              exact absurd hdirectory hplace
            next hplace =>
              exact ⟨fun h ↦ ⟨Except.ok.inj h, Except.ok.inj h ▸ hplace⟩, fun h ↦ congrArg _ h.1⟩
      · simp only [hsplit, Bool.true_or, if_true, bind, Except.bind, Bool.true_eq_false, false_and,
          and_false, iff_false]
        split <;> exact nofun

theorem write_eq_ok_iff {bytes : List UInt8} : fs.write path bytes = .ok written ↔
    ∃ place, fs.target path = .ok place ∧ fs.put place (.file bytes) = written := by
  rw [write]
  cases fs.target path with
  | error e => simp [bind, Except.bind]
  | ok place => simp [bind, Except.bind]

/-- A file can be put in place of what a path leads to only if that is no directory. -/
theorem resolve_of_target (h : fs.target path = .ok place) :
    fs.resolve path = .ok place ∧ fs.node place ≠ some .directory := by
  obtain ⟨hfault, -, hwalk, hplace⟩ := target_eq_ok_iff.mp h
  refine ⟨?_, hplace⟩
  rw [resolve, hfault]
  exact hwalk

theorem resolve_put {n : Node} (hplace : fs.node place ≠ some .directory) {goal : List String}
    (h : fs.resolve path = .ok goal) : (fs.put place n).resolve path = .ok goal := by
  unfold resolve at h ⊢
  cases hfault : pathFault? path with
  | some e => simp [hfault] at h
  | none =>
      rw [hfault] at h
      exact walk_put hplace h

theorem read_eq_ok_iff {text : String} : fs.read path = .ok text ↔
    ∃ place bytes, fs.resolve path = .ok place ∧ fs.node place = some (.file bytes) ∧
      textOf? bytes = some text := by
  unfold read
  cases fs.resolve path with
  | error e => simp [bind, Except.bind]
  | ok place =>
      simp only [bind, Except.bind, Except.ok.injEq, exists_and_left, exists_eq_left']
      split
      next hnode => simp [hnode]
      next hnode => simp [hnode]
      next bytes hnode =>
        rw [hnode]
        cases htext : textOf? bytes with
        | none => simp [htext]
        | some t => simp [htext]

theorem read_put_self (hplace : fs.node place ≠ some .directory) (h : fs.resolve path = .ok place)
    (text : String) : (fs.put place (.file (bytesOf text))).read path = .ok text :=
  read_eq_ok_iff.mpr
    ⟨place, _, resolve_put hplace h, node_put_self _, textOf?_bytesOf text⟩

theorem read_put_of_ne {text : String} (hplace : fs.node place ≠ some .directory)
    (h : fs.read path = .ok text) (hne : fs.resolve path ≠ .ok place) (n : Node) :
    (fs.put place n).read path = .ok text := by
  obtain ⟨goal, bytes, hgoal, hnode, htext⟩ := read_eq_ok_iff.mp h
  have hother : goal ≠ place := fun heq ↦ hne (heq ▸ hgoal)
  exact read_eq_ok_iff.mpr
    ⟨goal, bytes, resolve_put hplace hgoal, (node_put_of_ne hother n).trans hnode, htext⟩

/-- What was written is read back from the same path. -/
theorem read_write {text : String} (h : fs.write path (bytesOf text) = .ok written) :
    written.read path = .ok text := by
  obtain ⟨place, htarget, hput⟩ := write_eq_ok_iff.mp h
  obtain ⟨hresolve, hplace⟩ := resolve_of_target htarget
  rw [← hput]
  exact read_put_self hplace hresolve text

end Files

end Toolpath
