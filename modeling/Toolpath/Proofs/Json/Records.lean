import Toolpath.Json.Records
import Toolpath.Proofs.Json.Reader
import Toolpath.Proofs.Record.Parts

/-!
# Fields of a record

A field of a written record is read by its name, wherever it stands among the others, as long as no
two fields have one name. A list that was written item by item is read item by item.
-/

namespace Toolpath

namespace Json

/-! ## Reading fields -/

variable {α β : Type}

/-- Items that are all read back are read back together. -/
theorem mapM_map_eq_some {read : β → Option α} {write : α → β} (h : ∀ a, read (write a) = some a)
    (as : List α) : (as.map write).mapM read = some as := by
  induction as with
  | nil => rfl
  | cons a as ih =>
      rw [List.map_cons, List.mapM_cons, h, ih]
      rfl

theorem toList?_map {read : Json → Option α} {write : α → Json} (h : ∀ a, read (write a) = some a)
    (as : List α) : toList? read (.array (as.map write)) = some as := mapM_map_eq_some h as

theorem namedFields?_named (fields : List (String × Json)) :
    namedFields? (fields.map fun (k, v) ↦ (some k, v)) = some fields := by
  unfold namedFields?
  apply mapM_map_eq_some
  exact fun _ ↦ rfl

/-- The parts of a written record are those of its fields. -/
theorem parts?_record (names : List String) (fields : List (String × Json)) :
    parts? names (record fields) = Parts.ofNamed? names fields := by
  rw [record, parts?, namedFields?_named, Option.bind_some]

/-- The field with a name, whatever other fields the record has. -/
def field? (name : String) (read : Json → Option α) (v : Json) : Option α :=
  (v.parts? [name]).bind fun p ↦ p.required 0 read

theorem field?_record {fields : List (String × Json)} (hkeys : (fields.map (·.1)).Nodup)
    {name : String} {v : Json} (h : (name, v) ∈ fields) (read : Json → Option α) :
    field? name read (record fields) = read v := by
  rw [field?, parts?_record, Parts.ofNamed?_of_mem hkeys h, Option.bind_some]
  rfl

/-! ## Documents -/

/-- A document as it is written: fields, in a layout that sets them apart by blanks. -/
structure Sheet where
  spacing : Spacing
  blank : spacing.Blank
  fields : List (String × Json)
  printable : ∀ f ∈ fields, f.2.Printable

def Sheet.text (d : Sheet) : String := render d.spacing (.record d.fields)

theorem Sheet.read?_text (d : Sheet) : read? d.text = some (.record d.fields) :=
  read?_render d.blank (printable_record d.printable)

end Json

/-! ## The document of a report -/

theorem LengthUnit.ofJson?_toJson (u : Option LengthUnit) : ofJson? (toJson u) = some u := by
  rcases u with _ | u
  · rfl
  · cases u <;> decide

theorem LengthUnit.printable_toJson (u : Option LengthUnit) : (toJson u).Printable := by
  cases u with
  | none => exact .null
  | some u => exact Json.printable_ofString u.name

theorem Point.printable_toJson (p : Point) : p.toJson.Printable :=
  Json.printable_record (by simp [Json.printable_ofDouble])

theorem Box.printable_toJson (b : Box) : b.toJson.Printable :=
  Json.printable_record (by simp [Point.printable_toJson])

theorem Tally.printable_toJson (t : Tally) : t.toJson.Printable :=
  Json.printable_record (by simp [Json.printable_ofNat])

theorem Frame.printable_toJson (f : Frame) : f.toJson.Printable := by
  apply Json.printable_record
  simp [Box.printable_toJson, LengthUnit.printable_toJson, Tally.printable_toJson]

theorem Json.printable_texts (texts : List String) : Printable (.array (texts.map ofString)) := by
  refine .array fun v hv ↦ ?_
  obtain ⟨text, -, rfl⟩ := List.mem_map.mp hv
  exact printable_ofString text

end Toolpath
