import Toolpath.CommandLine.Run
import Toolpath.Proofs.Job.Written

/-!
# How a command ends

A command ends at its settings, at its output file, or with its job. Its job fails before it comes to
the commands or not at all, and the form of the report does not decide which.
-/

namespace Toolpath

/-! ## The job of a command -/

/-- What a report is in each form. -/
def ReportForm.bytes (r : Report) : ReportForm → List UInt8
  | text => bytesOf (unlines r.commands)
  | json => bytesOf r.jsonText

/-- A job succeeds in both forms or fails in both, with the same events. -/
theorem ReportForm.perform_cases (j : Job) :
    (∃ report, j.Prepares report ∧
      ∀ form : ReportForm, form.perform j = (j.prepare.1 ++ [.framed report], .ok (form.bytes report))) ∨
      ∃ e, j.FailsEarly e ∧ ∀ form : ReportForm, form.perform j = (j.prepare.1, .error e) := by
  rcases j.prepare_cases with ⟨report, hprepares, hprepare⟩ | ⟨e, hearly, hprepare⟩
  · refine Or.inl ⟨report, hprepares, fun form ↦ ?_⟩
    have hprepare : j.prepare = (j.prepare.1, .ok report) := Prod.ext rfl hprepare
    have hwriting : j.run .writing {} =
        ⟨{ written := bytesOf (unlines report.commands) }, j.prepare.1 ++ [.framed report], .ok report⟩ := by
      rw [Job.run, hprepare]
      simp only [Sink.writing, Writer.writeLines_unlimited, List.nil_append]
    have hrecording : j.run .recording [] =
        ⟨[report.commands], j.prepare.1 ++ [.framed report], .ok report⟩ := by
      rw [Job.run, hprepare]
      rfl
    cases form with
    | text => rw [perform, hwriting, bytes, Except.map]
    | json => rw [perform, hrecording, bytes, Except.map]
  · refine Or.inr ⟨e, hearly, fun form ↦ ?_⟩
    have hprepare : j.prepare = (j.prepare.1, .error e) := Prod.ext rfl hprepare
    have hrun {σ : Type} (sink : Sink σ) (state : σ) :
        j.run sink state = ⟨state, j.prepare.1, .error e⟩ := by
      rw [Job.run, hprepare]
    cases form with
    | text => rw [perform, hrun, Except.map]
    | json => rw [perform, hrun, Except.map]

theorem ReportForm.perform_eq_ok_iff {form : ReportForm} {j : Job} {bytes : List UInt8} :
    (form.perform j).2 = .ok bytes ↔ ∃ report, j.Prepares report ∧ bytes = form.bytes report := by
  rcases perform_cases j with ⟨report, hprepares, hperform⟩ | ⟨e, hearly, hperform⟩
  · rw [hperform, Except.ok.injEq]
    constructor
    · rintro rfl
      exact ⟨report, hprepares, rfl⟩
    · rintro ⟨t, ht, rfl⟩
      rw [ht.unique hprepares]
  · rw [hperform]
    exact ⟨nofun, fun ⟨report, hprepares, _⟩ ↦ absurd hearly (hprepares.not_failsEarly e)⟩

/-! ## Settings and output -/

/-- The files and what is printed once bytes have gone to a destination. -/
def Destination.deliver (fs : Files) (bytes : List UInt8) : Destination → Files × List UInt8
  | printed => (fs, bytes)
  | file place => (fs.put place (.file bytes), [])

namespace Request

variable {r : Request} {fs opened : Files} {directory : Option String} {destination : Destination}

theorem settings_eq_ok_iff {s : Settings} : r.settings fs directory = .ok s ↔
    Settings.loadOrDefault fs directory r.settingsPath = .ok s := by
  unfold settings
  cases Settings.loadOrDefault fs directory r.settingsPath <;> simp

theorem openOutput_eq_ok_iff : r.openOutput fs = .ok (opened, destination) ↔
    (r.outputPath = none ∧ fs = opened ∧ .printed = destination) ∨
      ∃ path place, r.outputPath = some path ∧ fs.target path = .ok place ∧
        fs.put place (.file []) = opened ∧ .file place = destination := by
  unfold openOutput Destination.create
  cases r.outputPath with
  | none => simp
  | some path => cases htarget : fs.target path <;> simp [htarget]

/-! ## The end of a command -/

/-- What a command that did not get to its job leaves behind. -/
def stopped (fs : Files) (b : Breakdown) : Aftermath := ⟨fs, [], [], some b⟩

/-- What a command leaves behind once its job is done, one way or the other. -/
def finished (r : Request) (opened : Files) (destination : Destination) (events : List JobEvent) :
    Except Failure (List UInt8) → Aftermath
  | .error f => ⟨opened, [], events, some ⟨"framing " ++ r.program, f.causes⟩⟩
  | .ok bytes =>
    ⟨(destination.deliver opened bytes).1, (destination.deliver opened bytes).2, events, none⟩

theorem run_of_settings_eq_error {b : Breakdown} (h : r.settings fs directory = .error b) :
    r.run fs directory = stopped fs b := by
  rw [run, h, stopped]

theorem run_of_openOutput_eq_error {s : Settings} {b : Breakdown}
    (hsettings : r.settings fs directory = .ok s) (h : r.openOutput fs = .error b) :
    r.run fs directory = stopped fs b := by
  rw [run, hsettings, h, stopped]

theorem run_of_openOutput_eq_ok {s : Settings} (hsettings : r.settings fs directory = .ok s)
    (hopen : r.openOutput fs = .ok (opened, destination)) :
    r.run fs directory = r.finished opened destination (r.form.perform (r.job opened s)).1
      (r.form.perform (r.job opened s)).2 := by
  rw [run, hsettings, hopen]
  dsimp only
  rcases r.form.perform (r.job opened s) with ⟨events, f | bytes⟩
  · cases destination <;> rfl
  · cases destination <;> rfl

/-- A command ends at its settings, at its output, or with its job. -/
theorem run_cases (r : Request) (fs : Files) (directory : Option String) :
    (∃ b, r.settings fs directory = .error b ∧ r.run fs directory = stopped fs b) ∨
      (∃ s b, r.settings fs directory = .ok s ∧ r.openOutput fs = .error b ∧
        r.run fs directory = stopped fs b) ∨
      ∃ s opened destination, r.settings fs directory = .ok s ∧
        r.openOutput fs = .ok (opened, destination) ∧
        r.run fs directory = r.finished opened destination (r.form.perform (r.job opened s)).1
          (r.form.perform (r.job opened s)).2 := by
  cases hsettings : r.settings fs directory with
  | error b => exact Or.inl ⟨b, rfl, run_of_settings_eq_error hsettings⟩
  | ok s =>
      refine Or.inr ?_
      cases hopen : r.openOutput fs with
      | error b => exact Or.inl ⟨s, b, rfl, rfl, run_of_openOutput_eq_error hsettings hopen⟩
      | ok pair => exact Or.inr ⟨s, pair.1, pair.2, rfl, rfl, run_of_openOutput_eq_ok hsettings hopen⟩

theorem run_of_perform {s : Settings} {bytes : List UInt8} (hsettings : r.settings fs directory = .ok s)
    (hopen : r.openOutput fs = .ok (opened, destination))
    (hperform : (r.form.perform (r.job opened s)).2 = .ok bytes) :
    (r.run fs directory).status = 0 ∧
      ((r.run fs directory).files, (r.run fs directory).output) = destination.deliver opened bytes := by
  rw [run_of_openOutput_eq_ok hsettings hopen, hperform]
  exact ⟨rfl, rfl⟩

/-- A command succeeds exactly if its settings load, its output opens and its job succeeds. -/
theorem status_eq_zero_iff : (r.run fs directory).status = 0 ↔
    ∃ s opened destination bytes, r.settings fs directory = .ok s ∧
      r.openOutput fs = .ok (opened, destination) ∧
      (r.form.perform (r.job opened s)).2 = .ok bytes := by
  constructor
  · intro h
    rcases run_cases r fs directory with ⟨b, -, hrun⟩ | ⟨s, b, -, -, hrun⟩ |
      ⟨s, opened, destination, hsettings, hopen, hrun⟩
    · rw [hrun] at h
      cases h
    · rw [hrun] at h
      cases h
    · cases hperform : (r.form.perform (r.job opened s)).2 with
      | error f =>
          rw [hrun, hperform] at h
          cases h
      | ok bytes => exact ⟨s, opened, destination, bytes, hsettings, hopen, hperform⟩
  · rintro ⟨s, opened, destination, bytes, hsettings, hopen, hperform⟩
    exact (run_of_perform hsettings hopen hperform).1

end Request

end Toolpath
