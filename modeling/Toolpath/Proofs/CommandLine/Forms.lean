import Toolpath.Proofs.CommandLine.Output
import Toolpath.Proofs.Json.Records

/-!
# The forms of a report

A command that prints its report ends the same way in both forms. The commands that stand in the
document are those that are printed as text, whatever characters they have.
-/

namespace Toolpath

namespace Report

variable (r : Report)

theorem printable_toJson : r.toJson.Printable := by
  apply Json.printable_record
  simp [jsonFields, Json.printable_ofString, Json.printable_ofDouble, Json.printable_texts,
    Frame.printable_toJson, Point.printable_toJson]

/-- The line feed at the end of the text does not matter. -/
theorem read?_jsonText : Json.read? r.jsonText = some r.toJson :=
  Json.read?_render_append Json.blank_pretty r.printable_toJson (by simp [Json.isSpace])

theorem field?_toJson {α : Type} {name : String} (v : Json)
    (h : (name, v) ∈ [("version", .ofString version), ("unit_mode", .ofString (unitLabel r.frame.unit))] ++
      r.jsonFields) (read : Json → Option α) : r.toJson.field? name read = read v := by
  refine Json.field?_record ?_ h read
  simp [jsonFields]

theorem commands_toJson :
    r.toJson.field? "commands" (Json.toList? Json.toText?) = some r.commands := by
  rw [r.field?_toJson (.array (r.commands.map .ofString)) (by simp [jsonFields])]
  exact Json.toList?_map (fun text ↦ by rfl) r.commands

theorem unit_toJson :
    r.toJson.field? "frame" (Json.field? "unit_mode" LengthUnit.ofJson?) = some r.frame.unit := by
  rw [r.field?_toJson r.frame.toJson (by simp [jsonFields]), Frame.toJson,
    Json.field?_record (by simp) (v := LengthUnit.toJson r.frame.unit) (by simp)]
  exact LengthUnit.ofJson?_toJson r.frame.unit

theorem unitLabel_toJson :
    r.toJson.field? "unit_mode" Json.toText? = some (unitLabel r.frame.unit) := by
  rw [r.field?_toJson (.ofString (unitLabel r.frame.unit)) (by simp)]
  rfl

end Report

theorem unitLabel_ne_none_iff (u : Option LengthUnit) : unitLabel u ≠ "none" ↔ ∃ v, u = some v := by
  rcases u with _ | u
  · simp [unitLabel]
  · cases u <;> simp [unitLabel, LengthUnit.name]

namespace Request

/-- A command that prints leaves the files as they are, and how it ends does not depend on the form of
the report. -/
theorem run_printed_cases {r : Request} (hprinted : r.outputPath = none) (fs : Files)
    (directory : Option String) :
    (∃ events b, ∀ form, { r with form := form }.run fs directory = ⟨fs, [], events, some b⟩) ∨
      ∃ j report events, Job.Prepares j report ∧ ∀ form : ReportForm,
        { r with form := form }.run fs directory = ⟨fs, form.bytes report, events, none⟩ := by
  have hopen (form : ReportForm) : { r with form := form }.openOutput fs = .ok (fs, .printed) :=
    openOutput_eq_ok_iff.mpr (Or.inl ⟨hprinted, rfl, rfl⟩)
  cases hsettings : r.settings fs directory with
  | error b => exact Or.inl ⟨[], b, fun _ ↦ run_of_settings_eq_error hsettings⟩
  | ok s =>
      -- Settings and job are the same in every form, so one run stands for both.
      have hrun (form : ReportForm) : { r with form := form }.run fs directory =
          finished r fs .printed (form.perform (r.job fs s)).1 (form.perform (r.job fs s)).2 :=
        run_of_openOutput_eq_ok hsettings (hopen form)
      rcases ReportForm.perform_cases (r.job fs s) with ⟨report, hprepares, hperform⟩ | ⟨e, -, hperform⟩
      · refine Or.inr ⟨r.job fs s, report, (r.job fs s).prepare.1 ++ [.framed report], hprepares,
          fun form ↦ ?_⟩
        rw [hrun, hperform, finished, Destination.deliver]
      · refine Or.inl ⟨(r.job fs s).prepare.1, ⟨"framing " ++ r.program, e.causes⟩, fun form ↦ ?_⟩
        rw [hrun, hperform, finished]

/-! ## Main result -/

/-- A command that prints its report ends in the same way in both forms. If it succeeds, the document
holds the commands that are printed as text, and it names the unit of its frame, which the first command
selects if there is one. -/
theorem forms_agree {r : Request} (hprinted : r.outputPath = none) (fs : Files)
    (directory : Option String) :
    let text := { r with form := .text }.run fs directory
    let json := { r with form := .json }.run fs directory
    (text.status = json.status ∧ text.files = json.files ∧ text.events = json.events ∧
      text.breakdown = json.breakdown) ∧
    (text.status = 0 → ∃ document commands unit,
      (Files.textOf? json.output).bind Json.read? = some document ∧
      document.field? "commands" (Json.toList? Json.toText?) = some commands ∧
      text.output = bytesOf (unlines commands) ∧
      document.field? "frame" (Json.field? "unit_mode" LengthUnit.ofJson?) = some unit ∧
      document.field? "unit_mode" Json.toText? = some (unitLabel unit) ∧
      (∀ u : LengthUnit, commands.head? = some u.command ↔ unit = some u) ∧
      ((∃ u : LengthUnit, commands.head? = some u.command) ↔ unitLabel unit ≠ "none")) := by
  intro text json
  rcases run_printed_cases hprinted fs directory with
    ⟨events, b, hrun⟩ | ⟨j, report, events, hprepares, hrun⟩
  · have htext : text = ⟨fs, [], events, some b⟩ := hrun .text
    have hjson : json = ⟨fs, [], events, some b⟩ := hrun .json
    rw [htext, hjson]
    exact ⟨⟨rfl, rfl, rfl, rfl⟩, nofun⟩
  · have htext : text = ⟨fs, bytesOf (unlines report.commands), events, none⟩ := hrun .text
    have hjson : json = ⟨fs, bytesOf report.jsonText, events, none⟩ := hrun .json
    have hstatus : text.status = 0 ∧ json.status = 0 := by
      rw [htext, hjson]
      exact ⟨rfl, rfl⟩
    have hhead := head?_compose_eq_iff hprepares.composed
    refine ⟨⟨hstatus.1.trans hstatus.2.symm, ?_⟩, fun _ ↦ ?_⟩
    · rw [htext, hjson]
      exact ⟨rfl, rfl, rfl⟩
    · refine ⟨report.toJson, report.commands, report.frame.unit, ?_, report.commands_toJson, ?_,
        report.unit_toJson, report.unitLabel_toJson, hhead, ?_⟩
      · rw [hjson, textOf?_bytesOf, Option.bind_some, report.read?_jsonText]
      · rw [htext]
      · rw [unitLabel_ne_none_iff]
        exact exists_congr hhead

/-- The call of the settings holds characters that a document escapes. -/
theorem forms_agree_quoted_call :
    let fs := (folder "G21\nG1 X4 Y2").put ["work", "shop.toml"]
      (.file (bytesOf "[frame]\nrestore_feed_macro = 'M98 \"\\F\"'\n"))
    let r : Request := { writingTo "" with
      feedText := "100", settingsPath := some "shop.toml", outputPath := none }
    let text := { r with form := .text }.run fs none
    let json := { r with form := .json }.run fs none
    ofArguments ["part.nc", "--feed", "100", "--config", "shop.toml"] =
        .ok { r with form := .text } ∧
      ofArguments ["part.nc", "--feed", "100", "--config", "shop.toml", "--format", "json"] =
        .ok { r with form := .json } ∧
      text.output = bytesOf (unlines ["G21", "G90", "G0 X0.000 Y0.000",
        "G1 F2540.0 X4.000 Y0.000", "G1 F2540.0 X4.000 Y2.000", "G1 F2540.0 X0.000 Y2.000",
        "G1 F2540.0 X0.000 Y0.000", "G0 X0.000 Y0.000", "#1000=100 M98 \"\\F\"", "M30"]) ∧
      text.status = 0 ∧ ∃ document commands,
        (Files.textOf? json.output).bind Json.read? = some document ∧
        document.field? "commands" (Json.toList? Json.toText?) = some commands ∧
        text.output = bytesOf (unlines commands) := by
  intro fs r text json
  have htext : ofArguments ["part.nc", "--feed", "100", "--config", "shop.toml"] =
      .ok { r with form := .text } := by
    decide +kernel
  have hjson : ofArguments ["part.nc", "--feed", "100", "--config", "shop.toml", "--format", "json"] =
      .ok { r with form := .json } := by
    decide +kernel
  have hstatus : text.status = 0 := by decide +kernel
  obtain ⟨document, commands, unit, hread, hcommands, hprinted, -⟩ :=
    (forms_agree (r := r) rfl fs none).2 hstatus
  exact ⟨htext, hjson, by decide +kernel, hstatus, document, commands, hread, hcommands, hprinted⟩

end Request

end Toolpath
