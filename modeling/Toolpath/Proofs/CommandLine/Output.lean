import Toolpath.Proofs.CommandLine.Run

/-!
# What a command produces

A command empties its output file before it reads its program. So it frames the program that was there
when it started, unless the output path leads to the program: then it frames an empty program.
-/

namespace Toolpath

/-! ## The program that is read -/

theorem Job.programFile_eq_ok_iff {fs : Files} {path text : String} :
    programFile fs path = .ok text ↔ fs.read path = .ok text := by
  unfold programFile
  constructor
  · intro h
    split at h
    · split at h
      next hread => rw [hread, Except.ok.inj h]
      next => cases h
    · cases h
  · intro h
    obtain ⟨place, bytes, hresolve, hnode, -⟩ := Files.read_eq_ok_iff.mp h
    have hfile : fs.isFile path := by
      unfold Files.isFile Files.lookup?
      rw [hresolve]
      simp only [hnode]
    rw [if_pos hfile, h]

namespace Request

variable {r : Request} {fs opened : Files} {directory : Option String} {destination : Destination}

/-- The output path leads to where the program is. -/
def Overwrites (r : Request) (fs : Files) : Prop :=
  ∃ path, r.outputPath = some path ∧ fs.resolve path = fs.resolve r.program

theorem read_program_opened {text : String} (hread : fs.read r.program = .ok text)
    (hopen : r.openOutput fs = .ok (opened, destination)) :
    (r.Overwrites fs → opened.read r.program = .ok "") ∧
      (¬r.Overwrites fs → opened.read r.program = .ok text) := by
  rcases openOutput_eq_ok_iff.mp hopen with
    ⟨hnone, rfl, -⟩ | ⟨path, place, hpath, htarget, rfl, -⟩
  · refine ⟨?_, fun _ ↦ hread⟩
    rintro ⟨path, hpath, -⟩
    simp [hnone] at hpath
  · -- The output is made at its place, so the program is empty then exactly if it stands there.
    obtain ⟨hresolve, hplace⟩ := Files.resolve_of_target htarget
    have hoverwrites : r.Overwrites fs ↔ fs.resolve r.program = .ok place := by
      simp [Overwrites, hpath, hresolve, eq_comm]
    rw [hoverwrites]
    exact ⟨fun h ↦ Files.read_put_self hplace h "", fun h ↦ Files.read_put_of_ne hplace hread h _⟩

/-! ## The text that is produced -/

/-- The text of what is printed, or of the output file if there is one. -/
def produced? (r : Request) (a : Aftermath) : Option String :=
  match r.outputPath with
  | none => Files.textOf? a.output
  | some path =>
    match a.files.read path with
    | .ok text => some text
    | .error _ => none

theorem status_eq_zero_of_read {text : String} (hread : fs.read r.program = .ok text)
    (hsettings : ∃ s, Settings.loadOrDefault fs directory r.settingsPath = .ok s)
    (hopen : ∃ opened, r.openOutput fs = .ok opened) (hfeed : FeedAccepted (trimmed r.feedText)) :
    (r.run fs directory).status = 0 := by
  obtain ⟨s, hsettings⟩ := hsettings
  obtain ⟨⟨opened, destination⟩, hopen⟩ := hopen
  obtain ⟨hempty, hsame⟩ := read_program_opened hread hopen
  have hprogram : ∃ seen, (r.job opened s).program = .ok seen := by
    by_cases hoverwrites : r.Overwrites fs
    · exact ⟨_, Job.programFile_eq_ok_iff.mpr (hempty hoverwrites)⟩
    · exact ⟨_, Job.programFile_eq_ok_iff.mpr (hsame hoverwrites)⟩
  obtain ⟨report, hprepares⟩ := Job.exists_prepares_iff.mpr ⟨hprogram, ⟨r.position, rfl⟩, hfeed⟩
  exact status_eq_zero_iff.mpr ⟨s, opened, destination, _, settings_eq_ok_iff.mpr hsettings, hopen,
    ReportForm.perform_eq_ok_iff.mpr ⟨report, hprepares, rfl⟩⟩

theorem produced?_of_status_eq_zero (hform : r.form = .text) (h : (r.run fs directory).status = 0) :
    ∃ s opened destination report,
      Settings.loadOrDefault fs directory r.settingsPath = .ok s ∧
        r.openOutput fs = .ok (opened, destination) ∧ (r.job opened s).Prepares report ∧
        r.produced? (r.run fs directory) = some (unlines report.commands) := by
  obtain ⟨s, opened, destination, bytes, hsettings, hopen, hperform⟩ := status_eq_zero_iff.mp h
  obtain ⟨-, hleft⟩ := run_of_perform hsettings hopen hperform
  obtain ⟨report, hprepares, rfl⟩ := ReportForm.perform_eq_ok_iff.mp hperform
  rw [hform, ReportForm.bytes] at hleft
  refine ⟨s, opened, destination, report, settings_eq_ok_iff.mp hsettings, hopen, hprepares, ?_⟩
  unfold produced?
  rcases openOutput_eq_ok_iff.mp hopen with
    ⟨hpath, rfl, rfl⟩ | ⟨path, place, hpath, htarget, rfl, rfl⟩
  · rw [hpath, (Prod.mk.inj hleft).2]
    exact textOf?_bytesOf _
  · obtain ⟨hresolve, hplace⟩ := Files.resolve_of_target htarget
    have hempty : (fs.put place (.file [])).node place ≠ some .directory := by simp
    have hread := Files.read_put_self hempty (Files.resolve_put hplace hresolve)
      (unlines report.commands)
    rw [hpath, (Prod.mk.inj hleft).1]
    dsimp only
    rw [hread]

/-- A command that succeeds produces what its settings compose for the frame of the program that it
read. That program is empty if the output path leads to it, and otherwise it is as it was. -/
theorem produced?_of_read {text : String} (hform : r.form = .text)
    (hread : fs.read r.program = .ok text) (h : (r.run fs directory).status = 0) :
    ∃ s seen feed commands, Settings.loadOrDefault fs directory r.settingsPath = .ok s ∧
      (r.Overwrites fs → seen = "") ∧ (¬r.Overwrites fs → seen = text) ∧
      compose s (Frame.ofProgram seen) r.position r.feedText = .ok (feed, commands) ∧
      r.produced? (r.run fs directory) = some (unlines commands) := by
  obtain ⟨s, opened, destination, report, hload, hopen, ⟨⟨seen, hseen, hframe⟩, hstart, hcomposed⟩,
    hproduced⟩ := produced?_of_status_eq_zero hform h
  have hseen : opened.read r.program = .ok seen := Job.programFile_eq_ok_iff.mp hseen
  have hstart : r.position = report.start := Except.ok.inj hstart
  rw [hframe, ← hstart] at hcomposed
  obtain ⟨hempty, hsame⟩ := read_program_opened hread hopen
  exact ⟨s, seen, report.feed, report.commands, hload,
    fun hoverwrites ↦ Except.ok.inj (hseen.symm.trans (hempty hoverwrites)),
    fun hoverwrites ↦ Except.ok.inj (hseen.symm.trans (hsame hoverwrites)), hcomposed, hproduced⟩

/-! ## A folder with one program -/

def folder (text : String) : Files :=
  (Files.bare ["work"]).put ["work", "part.nc"] (.file (bytesOf text))

def writingTo (path : String) : Request where
  program := "part.nc"
  position := .origin
  feedText := ""
  settingsPath := none
  form := .text
  outputPath := some path
  jsonEvents := false

theorem read_folder (text : String) : (folder text).read "part.nc" = .ok text :=
  Files.read_put_self (by decide) (by decide +kernel) text

theorem status_writingTo {text path : String} {place : List String}
    (h : (folder text).target path = .ok place) :
    ((writingTo path).run (folder text) none).status = 0 := by
  have hblank : trimmed "" = "" := by decide +kernel
  exact status_eq_zero_of_read (read_folder text) ⟨.default, rfl⟩
    ⟨_, openOutput_eq_ok_iff.mpr (Or.inr ⟨path, place, rfl, h, rfl, rfl⟩)⟩ (Or.inl hblank)

/-! ## Main result -/

/-- A command that succeeds produces the commands that its settings compose for the frame of its program
as it was, unless its output path leads to the program and the program has another outline than an empty
one: then it produces those for an empty program. -/
theorem produced?_eq_iff {text : String} (hform : r.form = .text)
    (hread : fs.read r.program = .ok text) (h : (r.run fs directory).status = 0) :
    ∃ s feed commands, Settings.loadOrDefault fs directory r.settingsPath = .ok s ∧
      compose s (Frame.ofProgram text) r.position r.feedText = .ok (feed, commands) ∧
      (r.produced? (r.run fs directory) = some (unlines commands) ↔
        (r.Overwrites fs → (Frame.ofProgram text).outline = (Frame.ofProgram "").outline)) ∧
      (r.Overwrites fs → ∃ feed commands,
        compose s (Frame.ofProgram "") r.position r.feedText = .ok (feed, commands) ∧
        r.produced? (r.run fs directory) = some (unlines commands)) := by
  obtain ⟨s, seen, feed', produced, hload, hempty, hsame, hcomposed, hproduced⟩ :=
    produced?_of_read hform hread h
  obtain ⟨⟨feed, commands⟩, hcommands⟩ :=
    (feedAccepted_iff_exists_compose s (Frame.ofProgram text) r.position).mp
      ((feedAccepted_iff_exists_compose _ _ _).mpr ⟨_, hcomposed⟩)
  refine ⟨s, feed, commands, hload, hcommands, ?_, fun hoverwrites ↦ ?_⟩
  · rw [hproduced, Option.some.injEq, eq_comm, unlines_compose_eq_iff hcommands hcomposed]
    by_cases hoverwrites : r.Overwrites fs
    · rw [hempty hoverwrites, forall_prop_of_true hoverwrites]
    · rw [hsame hoverwrites, forall_prop_of_false hoverwrites]
      exact iff_true_intro rfl
  · rw [hempty hoverwrites] at hcomposed
    exact ⟨_, _, hcomposed, hproduced⟩

theorem produced?_eq_iff_elsewhere :
    let text := "G21\nG1 X4 Y2"
    let fs := folder text
    let r := writingTo "out.nc"
    ofArguments ["part.nc", "-o", "out.nc"] = .ok r ∧ r.form = .text ∧
      fs.read r.program = .ok text ∧ (r.run fs none).status = 0 ∧
      ∃ s feed commands, Settings.loadOrDefault fs none r.settingsPath = .ok s ∧
        compose s (Frame.ofProgram text) r.position r.feedText = .ok (feed, commands) ∧
        r.produced? (r.run fs none) = some (unlines commands) := by
  intro text fs r
  have harguments : ofArguments ["part.nc", "-o", "out.nc"] = .ok r := by decide +kernel
  have htarget : fs.target "out.nc" = .ok ["work", "out.nc"] := by decide +kernel
  have hstatus : (r.run fs none).status = 0 := status_writingTo htarget
  have helsewhere : ¬r.Overwrites fs := by
    rintro ⟨path, hpath, hplace⟩
    obtain rfl := Option.some.inj hpath
    revert hplace
    decide +kernel
  obtain ⟨s, feed, commands, hload, hcomposed, hproduced, -⟩ :=
    produced?_eq_iff rfl (read_folder text) hstatus
  exact ⟨harguments, rfl, read_folder text, hstatus, s, feed, commands, hload, hcomposed,
    hproduced.mpr fun h ↦ absurd h helsewhere⟩

/-- A program that is written to its own place is gone before it is read. -/
theorem produced?_ne_in_place :
    let text := "G21\nG1 X4 Y2"
    let fs := folder text
    let r := writingTo "part.nc"
    ofArguments ["part.nc", "-o", "part.nc"] = .ok r ∧ r.form = .text ∧
      fs.read r.program = .ok text ∧ (r.run fs none).status = 0 ∧
      ∃ s feed commands, Settings.loadOrDefault fs none r.settingsPath = .ok s ∧
        compose s (Frame.ofProgram text) r.position r.feedText = .ok (feed, commands) ∧
        r.produced? (r.run fs none) ≠ some (unlines commands) := by
  intro text fs r
  have harguments : ofArguments ["part.nc", "-o", "part.nc"] = .ok r := by decide +kernel
  have htarget : fs.target "part.nc" = .ok ["work", "part.nc"] := by decide +kernel
  have hstatus : (r.run fs none).status = 0 := status_writingTo htarget
  obtain ⟨s, seen, feed', produced, hload, hempty, -, hseen, hproduced⟩ :=
    produced?_of_read rfl (read_folder text) hstatus
  obtain rfl := hempty ⟨"part.nc", rfl, rfl⟩
  obtain ⟨⟨feed, commands⟩, hcomposed⟩ :=
    (feedAccepted_iff_exists_compose s (Frame.ofProgram text) r.position).mp
      ((feedAccepted_iff_exists_compose _ _ _).mpr ⟨_, hseen⟩)
  have hunit : (Frame.ofProgram text).outline.unit ≠ (Frame.ofProgram "").outline.unit := by
    decide +kernel
  refine ⟨harguments, rfl, read_folder text, hstatus, s, feed, commands, hload, hcomposed, ?_⟩
  rw [hproduced, ne_eq, Option.some.injEq, unlines_compose_eq_iff hseen hcomposed]
  exact fun h ↦ hunit (congrArg Outline.unit h.symm)

end Request

end Toolpath
