import Toolpath.Proofs.CommandLine.Output

/-!
# What a failed command leaves behind

A command that fails before it opens its output leaves all files as they are. After that the output file
is empty, and it stays empty when the job fails, whatever it held before. Other files never change.
-/

namespace Toolpath

namespace Request

variable {r : Request} {fs : Files} {directory : Option String}

/-- The settings cannot be loaded, or the output file cannot be made. -/
def StopsEarly (r : Request) (fs : Files) (directory : Option String) : Prop :=
  (¬∃ s, Settings.loadOrDefault fs directory r.settingsPath = .ok s) ∨
    ∃ path ∈ r.outputPath, ¬∃ place, fs.target path = .ok place

theorem stopsEarly_iff : r.StopsEarly fs directory ↔
    (∃ b, r.settings fs directory = .error b) ∨ ∃ b, r.openOutput fs = .error b := by
  unfold StopsEarly settings openOutput Destination.create
  refine or_congr ?_ ?_
  · cases Settings.loadOrDefault fs directory r.settingsPath <;> simp
  · cases r.outputPath with
    | none => simp
    | some path => cases htarget : fs.target path <;> simp [htarget]

theorem files_of_stopsEarly (h : r.StopsEarly fs directory) : (r.run fs directory).files = fs := by
  rcases run_cases r fs directory with ⟨b, -, hrun⟩ | ⟨s, b, -, -, hrun⟩ |
    ⟨s, opened, destination, hsettings, hopen, -⟩
  · rw [hrun, stopped]
  · rw [hrun, stopped]
  · rcases stopsEarly_iff.mp h with ⟨b, hb⟩ | ⟨b, hb⟩
    · rw [hsettings] at hb
      cases hb
    · rw [hopen] at hb
      cases hb

/-- A job that fails leaves the files as they were when its output was opened. -/
theorem openOutput_of_status_eq_one (h : (r.run fs directory).status = 1)
    (hlate : ¬r.StopsEarly fs directory) :
    ∃ destination, r.openOutput fs = .ok ((r.run fs directory).files, destination) := by
  rw [stopsEarly_iff, not_or, not_exists, not_exists] at hlate
  rcases run_cases r fs directory with ⟨b, hb, -⟩ | ⟨s, b, -, hb, -⟩ |
    ⟨s, opened, destination, -, hopen, hrun⟩
  · exact absurd hb (hlate.1 b)
  · exact absurd hb (hlate.2 b)
  · refine ⟨destination, ?_⟩
    rw [hrun] at h ⊢
    cases hperform : (r.form.perform (r.job opened s)).2 with
    | error f => exact hopen
    | ok bytes =>
        rw [hperform] at h
        cases h

/-! ## Main result -/

/-- A command that fails leaves its output file as it was exactly if it fails before it opens the file,
or if the file was empty. It leaves the file empty otherwise, and all other places as they were. -/
theorem lookup?_output_eq_iff {path : String} (hpath : r.outputPath = some path)
    (h : (r.run fs directory).status = 1) :
    ((r.run fs directory).files.lookup? path = fs.lookup? path ↔
        r.StopsEarly fs directory ∨ fs.lookup? path = some (.file [])) ∧
      (¬r.StopsEarly fs directory → (r.run fs directory).files.lookup? path = some (.file [])) ∧
      ∀ place, fs.resolve path ≠ .ok place → (r.run fs directory).files.node place = fs.node place := by
  by_cases hearly : r.StopsEarly fs directory
  · rw [files_of_stopsEarly hearly]
    exact ⟨iff_of_true rfl (Or.inl hearly), fun hlate ↦ absurd hearly hlate, fun _ _ ↦ rfl⟩
  · obtain ⟨destination, hopen⟩ := openOutput_of_status_eq_one h hearly
    rcases openOutput_eq_ok_iff.mp hopen with ⟨hnone, -, -⟩ | ⟨q, place, hq, htarget, hput, -⟩
    · rw [hpath] at hnone
      cases hnone
    · obtain rfl : path = q := Option.some.inj (hpath.symm.trans hq)
      obtain ⟨hresolve, hplace⟩ := Files.resolve_of_target htarget
      have hempty : (r.run fs directory).files.lookup? path = some (.file []) := by
        rw [← hput, Files.lookup?, Files.resolve_put hplace hresolve]
        exact Files.node_put_self _
      refine ⟨?_, fun _ ↦ hempty, fun other hother ↦ ?_⟩
      · rw [hempty, or_iff_right hearly, eq_comm]
      · rw [← hput]
        apply Files.node_put_of_ne
        rintro rfl
        exact hother hresolve

/-- Settings that cannot be loaded are found before the output is opened. -/
theorem lookup?_output_eq_iff_settings :
    let fs := (Files.bare ["work"]).put ["work", "out.nc"] (.file (bytesOf "M30\n"))
    let r := { writingTo "out.nc" with settingsPath := some "shop.yaml" }
    ofArguments ["part.nc", "--config", "shop.yaml", "-o", "out.nc"] = .ok r ∧
      r.outputPath = some "out.nc" ∧ (r.run fs none).status = 1 ∧
      (r.run fs none).files.lookup? "out.nc" = fs.lookup? "out.nc" := by
  intro fs r
  have harguments : ofArguments ["part.nc", "--config", "shop.yaml", "-o", "out.nc"] = .ok r := by
    decide +kernel
  have hstatus : (r.run fs none).status = 1 := by decide +kernel
  have hearly : r.StopsEarly fs none := stopsEarly_iff.mpr (Or.inl ⟨_, rfl⟩)
  exact ⟨harguments, rfl, hstatus, (lookup?_output_eq_iff rfl hstatus).1.mpr (Or.inl hearly)⟩

/-- A program that is missing is found when the output is empty already. -/
theorem lookup?_output_ne_missing_program :
    let fs := (Files.bare ["work"]).put ["work", "out.nc"] (.file (bytesOf "M30\n"))
    let r := writingTo "out.nc"
    ofArguments ["part.nc", "-o", "out.nc"] = .ok r ∧ r.outputPath = some "out.nc" ∧
      (r.run fs none).status = 1 ∧ (r.run fs none).files.lookup? "out.nc" ≠ fs.lookup? "out.nc" := by
  intro fs r
  have harguments : ofArguments ["part.nc", "-o", "out.nc"] = .ok r := by decide +kernel
  have hstatus : (r.run fs none).status = 1 := by decide +kernel
  have hbefore : fs.lookup? "out.nc" ≠ some (.file []) := by decide +kernel
  have hafter : (r.run fs none).files.lookup? "out.nc" = some (.file []) := by decide +kernel
  exact ⟨harguments, rfl, hstatus, fun h ↦ hbefore (h.symm.trans hafter)⟩

end Request

end Toolpath
