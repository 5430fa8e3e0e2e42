import Toolpath.Proofs.Job.Written

/-!
# Writers with a limit

A writer that runs out of room has taken the text of the commands up to there, also where that is inside
a command. A writer is flushed only after it took the whole text, so at most one failure is reported: the
lack of room, or the flush. A job passes it on with its text.
-/

namespace Toolpath

namespace Writer

/-- A line that fits leaves room for the rest, and one that does not ends the writing. -/
theorem writeLines_cons {w : Writer} {n : Nat} (hroom : w.room = some n) (c : String)
    (cs : List String) :
    let line := bytesOf (c ++ "\n")
    let rest : Writer :=
      { w with written := w.written ++ line.take n, room := some (n - line.length) }
    w.writeLines (c :: cs) =
      if line.length ≤ n then rest.writeLines cs else (rest, .error (.io w.full)) := by
  intro line rest
  rw [writeLines, write, hroom]
  dsimp only
  by_cases hfits : line.length ≤ n
  · rw [if_pos hfits, if_pos hfits]
  · rw [if_neg hfits, if_neg hfits]

theorem writeLines_limited {w : Writer} {n : Nat} (hroom : w.room = some n)
    (commands : List String) :
    let bytes := bytesOf (unlines commands)
    (w.writeLines commands).1.written = w.written ++ bytes.take n ∧
      (w.writeLines commands).2 =
        if bytes.length ≤ n then w.flush else .error (.io w.full) := by
  intro bytes
  induction commands generalizing w n with
  | nil => simp [bytes, writeLines, unlines, bytesOf]
  | cons c cs ih =>
      have hbytes : bytes = bytesOf (c ++ "\n") ++ bytesOf (unlines cs) := bytesOf_unlines_cons c cs
      rw [writeLines_cons hroom, hbytes, List.take_append, List.length_append]
      generalize bytesOf (c ++ "\n") = line
      by_cases hfits : line.length ≤ n
      · rw [if_pos hfits, ← List.append_assoc]
        obtain ⟨hwritten, hresult⟩ := ih (w := { w with
          written := w.written ++ line.take n, room := some (n - line.length) }) rfl
        refine ⟨hwritten, hresult.trans ?_⟩
        have hrest : (bytesOf (unlines cs)).length ≤ n - line.length ↔
            line.length + (bytesOf (unlines cs)).length ≤ n := by omega
        simp only [hrest]
        rfl
      · have hnone : n - line.length = 0 := by omega
        have hfull : ¬line.length + (bytesOf (unlines cs)).length ≤ n := by omega
        rw [if_neg hfits, if_neg hfull, hnone, List.take_zero, List.append_nil]
        exact ⟨rfl, rfl⟩

theorem flush_eq_ok_iff {w : Writer} : w.flush = .ok () ↔ w.flushFails = false := by
  cases h : w.flushFails <;> simp [flush, h]

theorem flush_eq_error_iff {w : Writer} {f : Failure} :
    w.flush = .error f ↔ w.flushFails = true ∧ f = .io w.unflushed := by
  cases h : w.flushFails <;> simp [flush, h, eq_comm]

/-- A writer with room for `n` bytes has taken the first `n` bytes of the commands, each with a line feed
after it. It succeeds exactly if these are all bytes and flushing succeeds. A job that hands it the
commands succeeds then, and otherwise reports the failure of the writer. -/
theorem execute_limited {w : Writer} {n : Nat} (hroom : w.room = some n) (commands : List String) :
    let bytes := bytesOf (unlines commands)
    let after := Sink.writing.execute commands w
    after.1.written = w.written ++ bytes.take (min n bytes.length) ∧
      (after.2 = .ok () ↔ bytes.length ≤ n ∧ w.flushFails = false) ∧
      (∀ f, after.2 = .error f ↔ (n < bytes.length ∧ f = .io w.full) ∨
        (bytes.length ≤ n ∧ w.flushFails = true ∧ f = .io w.unflushed)) ∧
      ∀ (j : Job) (report : Report), j.Prepares report → report.commands = commands →
        (j.run .writing w).sink = after.1 ∧
        ((j.run .writing w).result = .ok report ↔ after.2 = .ok ()) ∧
        ∀ text, (j.run .writing w).result = .error (.fault (.execution ("I/O error: " ++ text))) ↔
          after.2 = .error (.io text) := by
  intro bytes after
  obtain ⟨hwritten, hresult⟩ := writeLines_limited hroom commands
  change after.1.written = _ at hwritten
  change after.2 = if bytes.length ≤ n then w.flush else .error (.io w.full) at hresult
  have hok : after.2 = .ok () ↔ bytes.length ≤ n ∧ w.flushFails = false := by
    rw [hresult, ← flush_eq_ok_iff]
    split <;> simp_all
  have herror (f : Failure) : after.2 = .error f ↔ (n < bytes.length ∧ f = .io w.full) ∨
      (bytes.length ≤ n ∧ w.flushFails = true ∧ f = .io w.unflushed) := by
    rw [hresult, ← flush_eq_error_iff]
    split
    next hfits => simp [hfits]
    next hfull => simp [hfull, Nat.lt_of_not_le hfull, eq_comm]
  refine ⟨?_, hok, herror, fun j report hprepares hcommands ↦ ?_⟩
  · rw [hwritten, List.take_eq_take_min]
  · obtain ⟨hsink, hrun⟩ :=
      Job.run_of_prepare_eq_ok (Job.prepare_eq_ok_iff.mpr hprepares) .writing w
    rw [hcommands] at hsink hrun
    refine ⟨hsink, ?_⟩
    rw [hrun, (rfl : (Sink.writing.execute commands w).2 = after.2)]
    cases hafter : after.2 with
    | ok u => simp
    | error f =>
        -- Both failures of a writer are passed on with the text they have.
        have hio : ∃ text, f = .io text := by
          rcases (herror f).mp hafter with ⟨-, rfl⟩ | ⟨-, -, rfl⟩
          · exact ⟨_, rfl⟩
          · exact ⟨_, rfl⟩
        obtain ⟨text, rfl⟩ := hio
        simp [Failure.wrap, Failure.message, Failure.causes, eq_comm]

/-- The room ends inside the second command, and the flush that would fail is not reached. -/
theorem execute_limited_inside_command :
    let j : Job := { program := .ok "G1 X1 Y1", position := .ok .origin, feedText := "100" }
    let w : Writer := { room := some 6, flushFails := true }
    (j.run .writing w).sink.written = bytesOf "G90\nG0" ∧
      (j.run .writing w).result = .error (.fault (.execution "I/O error: disk full")) := by
  intro j w
  let commands := ["G90", "G0 X0.000 Y0.000", "G1 F100.0 X1.000 Y0.000", "G1 F100.0 X1.000 Y1.000",
    "G1 F100.0 X0.000 Y1.000", "G1 F100.0 X0.000 Y0.000", "G0 X0.000 Y0.000", "#1000=100 M221", "M30"]
  have hprepares : j.Prepares ⟨Frame.ofProgram "G1 X1 Y1", .origin, 100, commands⟩ :=
    Job.prepare_eq_ok_iff.mp (by decide +kernel)
  obtain ⟨hwritten, -, herror, hjob⟩ := execute_limited (w := w) rfl commands
  obtain ⟨hsink, -, hfailed⟩ := hjob j _ hprepares rfl
  refine ⟨?_, (hfailed "disk full").mpr ((herror _).mpr (Or.inl ⟨by decide +kernel, rfl⟩))⟩
  rw [hsink, hwritten]
  decide +kernel

end Writer

end Toolpath
