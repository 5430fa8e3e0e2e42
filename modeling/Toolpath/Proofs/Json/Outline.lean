import Toolpath.Json.Records
import Toolpath.Proofs.Json.Records

/-!
# Outlines kept as JSON documents

The commands of an outline may be any texts. Each is put between quotes with what would end it, or what
may not stand there, escaped, and the list of them has the same items in either layout. So an outline
is read as it was written, and a layout can be exchanged for another by way of the outline.
-/

namespace Toolpath

theorem Json.blank_compact : compact.Blank :=
  ⟨fun _ ↦ List.forall_mem_nil _, List.forall_mem_nil _⟩

namespace Outline

open Json (Spacing compact pretty)

variable (o : Outline)

/-! ## The document -/

theorem printable_toJson : o.toJson.Printable := by
  apply Json.printable_record
  simp only [List.forall_mem_cons]
  exact ⟨LengthUnit.printable_toJson o.unit, Json.printable_texts o.commands, List.forall_mem_nil _⟩

/-- No field is left out, not even a unit that is not there, so both parts are given by name. -/
theorem ofJson?_toJson : ofJson? o.toJson = some o := by
  have hparts : o.toJson.parts? ["unit_mode", "commands"] = some
      ⟨[some (LengthUnit.toJson o.unit), some (.array (o.commands.map .ofString))], false⟩ :=
    Json.parts?_record _ _
  have hunit : LengthUnit.ofJson? (LengthUnit.toJson o.unit) = some o.unit :=
    LengthUnit.ofJson?_toJson o.unit
  have hcommand : ∀ text : String, Json.toText? (.ofString text) = some text := fun _ ↦ rfl
  have hcommands : Json.toList? Json.toText? (.array (o.commands.map .ofString)) = some o.commands :=
    Json.toList?_map hcommand o.commands
  simp [ofJson?, hparts, Parts.optional, Parts.required, Parts.field, hunit, hcommands]

/-! ## The text -/

/-- The text of the document, laid out with the given spacing. -/
def jsonText (s : Spacing) : String := Json.render s o.toJson

def ofJsonText? (text : String) : Option Outline := (Json.read? text).bind ofJson?

/-- Any layout that sets fields and items apart by blanks will do, with any blanks behind it. -/
theorem ofJsonText?_append {s : Spacing} (hs : s.Blank) {blanks : String}
    (hblanks : ∀ c ∈ blanks.toList, Json.isSpace c) :
    ofJsonText? (o.jsonText s ++ blanks) = some o := by
  rw [ofJsonText?, jsonText, Json.read?_render_append hs o.printable_toJson hblanks,
    Option.bind_some, ofJson?_toJson]

theorem ofJsonText?_of_blank {s : Spacing} (hs : s.Blank) : ofJsonText? (o.jsonText s) = some o := by
  have hread : ofJsonText? (o.jsonText s ++ "") = some o := o.ofJsonText?_append hs (by simp)
  rwa [String.append_empty] at hread

/-- The text of an outline, compact or with a line for each item, is read as that outline, and the one
layout is turned into the other by reading and writing again. -/
theorem ofJsonText?_jsonText :
    ofJsonText? (o.jsonText compact) = some o ∧ ofJsonText? (o.jsonText pretty) = some o ∧
      (ofJsonText? (o.jsonText pretty)).map (jsonText · compact) = some (o.jsonText compact) ∧
      (ofJsonText? (o.jsonText compact)).map (jsonText · pretty) = some (o.jsonText pretty) := by
  have hcompact : ofJsonText? (o.jsonText compact) = some o := o.ofJsonText?_of_blank Json.blank_compact
  have hpretty : ofJsonText? (o.jsonText pretty) = some o := o.ofJsonText?_of_blank Json.blank_pretty
  refine ⟨hcompact, hpretty, ?_, ?_⟩
  · rw [hpretty, Option.map_some]
  · rw [hcompact, Option.map_some]

/-- No two outlines have the same text. -/
theorem jsonText_injective {s : Spacing} (hs : s.Blank) : Function.Injective (jsonText · s) := by
  intro o o' h
  have hread : some o = some o' := by
    rw [← o.ofJsonText?_of_blank hs, ← o'.ofJsonText?_of_blank hs]
    exact congrArg ofJsonText? h
  exact Option.some.inj hread

example : jsonText ⟨some .inch, ["\"\\\n\x01\x7f", "", "𝄞"]⟩ compact =
    "\x7b\"unit_mode\":\"inch\",\"commands\":[\"\\\"\\\\\\n\\u0001\x7f\",\"\",\"𝄞\"]\x7d" := by
  decide +kernel

end Outline

end Toolpath
