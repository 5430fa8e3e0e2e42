import Toolpath.Proofs.Files.Store
import Toolpath.Proofs.Job.Feed
import Toolpath.Proofs.Record.Parts
import Toolpath.Settings.Store

/-!
# Saved settings

Saving fails for settings that are not valid, for a path without a format, and where the file cannot
be written; there is no other failure. What was saved is loaded by decoding the text that was encoded,
so a format keeps settings exactly if its decoder undoes its encoder.
-/

namespace Toolpath.Settings

/-! ## The parts of a record of settings -/

section Fields

variable {α : Type} {feed unit back parameter ending : α} {call : Option α}

/-- The fields in the order in which they are written. -/
def fieldsOf (feed unit back parameter : α) (call : Option α) (ending : α) : List (String × α) :=
  [("default_feed_rate", feed), ("feed_units", unit), ("return_to_start", back),
    ("restore_feed_parameter", parameter)] ++
    (match call with
      | some call => [("restore_feed_macro", call)]
      | none => []) ++
    [("end_program", ending)]

theorem ofNamed?_fieldsOf :
    Parts.ofNamed? keys (fieldsOf feed unit back parameter call ending) =
      some ⟨[some feed, some unit, some back, some parameter, call, some ending], false⟩ := by
  cases call <;> simp [Parts.ofNamed?, fieldsOf, keys]

variable {r : Readers α} {s : Settings}

/-- A call that has no field is no call. -/
theorem ofParts?_fields (hunit : r.feedUnit unit = some s.feedUnit)
    (hback : r.flag back = some s.returnToStart)
    (hparameter : r.parameter parameter = some s.restoreParameter)
    (hcall : call.elim (some none) r.call = some s.restoreCall)
    (hending : r.flag ending = some s.endProgram) :
    ofParts? r ⟨[some feed, some unit, some back, some parameter, call, some ending], false⟩ =
      (r.number feed).map fun x ↦ { s with defaultFeed := x } := by
  have hoptional : Parts.optional
      ⟨[some feed, some unit, some back, some parameter, call, some ending], false⟩ 4 r.call =
        call.elim (some none) r.call := by
    cases call <;> rfl
  rw [ofParts?, hoptional, hcall]
  simp only [Parts.withDefault, Parts.field, List.getElem?_cons_zero, List.getElem?_cons_succ,
    Option.join_some, hunit, hback, hparameter, hending]
  cases r.number feed <;> rfl

/-- A document with one record of settings, whose fields are named, gives that record. -/
theorem ofDocument?_of_parts {document record : α} {p : Parts α}
    (hdocument : r.parts? ["frame"] document = some ⟨[some record], false⟩)
    (hrecord : r.parts? keys record = some p) : ofDocument? r document = ofParts? r p := by
  rw [ofDocument?, hdocument]
  simp only [Option.bind_eq_bind, Option.bind_some, Parts.withDefault, Parts.field,
    List.getElem?_cons_zero, Option.join_some, ofTable?, hrecord]

end Fields

theorem isFinite_of_validate {s : Settings} (h : s.validate = .ok ()) : s.defaultFeed.isFinite := by
  have husable := isUsableFeed_of_validate h
  rw [isUsableFeed, Bool.and_eq_true] at husable
  exact husable.1

/-! ## Files -/

/-- The directories of a path can be made, and a file can be put there then. -/
def Writable (fs : Files) (path : String) : Prop :=
  ∃ made place, makeRoom fs path = .ok made ∧ made.target path = .ok place

theorem save_of_makeRoom {fs made : Files} {path : String} {s : Settings} {format : Format}
    (hvalid : s.validate = .ok ()) (hformat : Format.ofPath path = .ok format)
    (hmade : makeRoom fs path = .ok made) : save fs path s =
      match made.write path (bytesOf (format.encode s)) with
      | .ok written => (written, .ok ())
      | .error e => (made, .error (.save (about path e))) := by
  cases hwrite : made.write path (bytesOf (format.encode s)) <;>
    simp only [save, hvalid, hformat, hmade, hwrite]

theorem save_eq_ok_iff {fs : Files} {path : String} {s : Settings} :
    (save fs path s).2 = .ok () ↔
      s.validate = .ok () ∧ (∃ format, Format.ofPath path = .ok format) ∧ Writable fs path := by
  cases hvalid : s.validate with
  | error e => simp [save, hvalid]
  | ok =>
      cases hformat : Format.ofPath path with
      | error e => simp [save, hvalid, hformat]
      | ok format =>
          cases hmade : makeRoom fs path with
          | error e => simp [save, hvalid, hformat, hmade, Writable]
          | ok made =>
              rw [save_of_makeRoom hvalid hformat hmade]
              cases htarget : made.target path with
              | error e => simp [Writable, hmade, htarget, Files.write, bind, Except.bind]
              | ok place => simp [Writable, hmade, htarget, Files.write, bind, Except.bind]

/-- What was saved is loaded by decoding the text that it was encoded as. -/
theorem load_save {fs : Files} {path : String} {s : Settings} {format : Format}
    (hformat : Format.ofPath path = .ok format) (h : (save fs path s).2 = .ok ()) :
    load (save fs path s).1 path = (do
      let t ← format.decode (format.encode s)
      t.validate
      .ok t) := by
  obtain ⟨hvalid, -, made, place, hmade, htarget⟩ := save_eq_ok_iff.mp h
  have hwrite : made.write path (bytesOf (format.encode s)) =
      .ok (made.put place (.file (bytesOf (format.encode s)))) :=
    Files.write_eq_ok_iff.mpr ⟨place, htarget, rfl⟩
  rw [save_of_makeRoom hvalid hformat hmade, hwrite, load, hformat]
  simp only [bind, Except.bind, Files.read_write hwrite]

end Toolpath.Settings
