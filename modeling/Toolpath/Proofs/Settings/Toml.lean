import Toolpath.Proofs.Settings.Saved
import Toolpath.Proofs.Toml.Document

/-!
# Settings kept as TOML documents

The document of settings is one table with a line for each field. A double is written in full and is
the nearest one to what is written, a text comes back from whichever quotes it was put into, and a
call that is not there has no line. So the decoder gives back all settings whose feed is a finite
double, and a file of valid settings is loaded as it was saved.
-/

namespace Toolpath

namespace Settings

open Toml (Entry)

/-! ## The document -/

/-- The lines of the document, each with its value. -/
def tomlEntries (s : Settings) : List Entry :=
  [⟨"default_feed_rate", Toml.doubleText s.defaultFeed, .float s.defaultFeed⟩,
    ⟨"feed_units", Toml.quote s.feedUnit.name.toList, .string s.feedUnit.name⟩,
    ⟨"return_to_start", boolText s.returnToStart, .bool s.returnToStart⟩,
    ⟨"restore_feed_parameter", digitsOfNat s.restoreParameter.toNat,
      .integer s.restoreParameter.toNat⟩] ++
    (match s.restoreCall with
      | some call => [⟨"restore_feed_macro", Toml.quote call.toList, .string call⟩]
      | none => []) ++
    [⟨"end_program", boolText s.endProgram, .bool s.endProgram⟩]

theorem toList_toTomlText (s : Settings) : (toTomlText s).toList =
    '[' :: ("frame".toList ++ ']' :: '\n' :: (tomlEntries s).flatMap Entry.line) := by
  cases hcall : s.restoreCall <;> simp [toTomlText, tomlEntries, hcall, Entry.line]

theorem isValue_boolText (b : Bool) : Toml.IsValue (boolText b) (.bool b) := by
  cases b with
  | true => exact Toml.isValue_of_word? (by decide) (List.all_eq_true.mp (by decide)) rfl
  | false => exact Toml.isValue_of_word? (by decide) (List.all_eq_true.mp (by decide)) rfl

theorem isValue_quote_string (text : String) :
    Toml.IsValue (Toml.quote text.toList) (.string text) := by
  have h := Toml.isValue_quote text.toList
  rwa [String.ofList_toList] at h

theorem proper_of_mem_tomlEntries {s : Settings} (h : s.defaultFeed.isFinite) :
    ∀ e ∈ tomlEntries s, e.Proper := by
  have hkeys : ∀ key ∈ keys, Toml.IsBareKey key := by decide
  have hparameter : s.restoreParameter.toNat ≤ 9223372036854775807 := by
    have := s.restoreParameter.toNat_lt
    omega
  have hcall : ∀ e ∈ (match s.restoreCall with
      | some call => [⟨"restore_feed_macro", Toml.quote call.toList, .string call⟩]
      | none => [] : List Entry), e.Proper := by
    cases s.restoreCall with
    | none => exact List.forall_mem_nil _
    | some call => exact List.forall_mem_singleton.mpr ⟨hkeys _ (by simp [keys]), isValue_quote_string call⟩
  simp only [tomlEntries, List.forall_mem_append, List.forall_mem_cons]
  refine ⟨⟨⟨?_, ?_, ?_, ?_, List.forall_mem_nil _⟩, hcall⟩, ?_, List.forall_mem_nil _⟩
  · exact ⟨hkeys _ (by simp [keys]), Toml.isValue_doubleText h⟩
  · exact ⟨hkeys _ (by simp [keys]), isValue_quote_string _⟩
  · exact ⟨hkeys _ (by simp [keys]), isValue_boolText _⟩
  · exact ⟨hkeys _ (by simp [keys]), Toml.isValue_digitsOfNat hparameter⟩
  · exact ⟨hkeys _ (by simp [keys]), isValue_boolText _⟩

theorem nodup_tomlEntries (s : Settings) : ((tomlEntries s).map Entry.key).Nodup := by
  cases hcall : s.restoreCall <;> simp [tomlEntries, hcall]

theorem map_field_tomlEntries (s : Settings) : (tomlEntries s).map Entry.field =
    fieldsOf (.float s.defaultFeed) (.string s.feedUnit.name) (.bool s.returnToStart)
      (.integer s.restoreParameter.toNat) (s.restoreCall.map .string) (.bool s.endProgram) := by
  cases hcall : s.restoreCall <;> simp [tomlEntries, hcall, Entry.field, fieldsOf]

theorem feedUnit_tomlReaders (u : FeedUnit) : tomlReaders.feedUnit (.string u.name) = some u := by
  cases u <;> decide

theorem parameter_tomlReaders (n : UInt32) : tomlReaders.parameter (.integer n.toNat) = some n := by
  have hlt := n.toNat_lt
  have hread : Toml.toNatUpTo? 4294967295 (.integer n.toNat) = some n.toNat :=
    if_pos ⟨by omega, by omega⟩
  simp [tomlReaders, hread]

theorem ofTomlText?_toTomlText {s : Settings} (h : s.defaultFeed.isFinite) :
    ofTomlText? (toTomlText s) = some s := by
  have hname : Toml.IsBareKey "frame" := by decide
  have hcall : (s.restoreCall.map Toml.string).elim (some none) tomlReaders.call =
      some s.restoreCall := by
    cases s.restoreCall <;> rfl
  rw [ofTomlText?, Toml.read?_table hname (proper_of_mem_tomlEntries h) (nodup_tomlEntries s)
    (toList_toTomlText s), map_field_tomlEntries, Option.bind_some,
    ofDocument?_of_parts (Parts.ofNamed?_singleton "frame" _) ofNamed?_fieldsOf,
    ofParts?_fields (feedUnit_tomlReaders _) rfl (parameter_tomlReaders _) hcall rfl]
  rfl

/-! ## The file -/

/-- Valid settings are encoded as a text that decodes to them again. A file of them can be saved
wherever a file can be written, and it is then loaded as it was saved. -/
theorem load_save_toml {s : Settings} (hvalid : s.validate = .ok ()) {path : String}
    (hpath : Format.ofPath path = .ok .toml) (fs : Files) :
    Format.toml.decode (Format.toml.encode s) = .ok s ∧
      ((save fs path s).2 = .ok () ↔ Writable fs path) ∧
      ((save fs path s).2 = .ok () → load (save fs path s).1 path = .ok s) := by
  have hdecode : Format.toml.decode (Format.toml.encode s) = .ok s := by
    rw [Format.decode, Format.encode, ofTomlText?_toTomlText (isFinite_of_validate hvalid)]
  refine ⟨hdecode, ?_, fun hsaved ↦ ?_⟩
  · rw [save_eq_ok_iff]
    exact ⟨fun h ↦ h.2.2, fun h ↦ ⟨hvalid, ⟨_, hpath⟩, h⟩⟩
  · rw [load_save hpath hsaved, hdecode]
    simp [bind, Except.bind, hvalid]

theorem load_save_toml_quotes :
    let s : Settings := { default with
      defaultFeed := (Decimal.mk false 1 (-320)).toBinary64
      restoreCall := some "M221 \"\x27\x27\x27 \\ \n\x01\"" }
    let fs := Files.bare ["home"]
    s.validate = .ok () ∧ Format.ofPath "a/b.toml" = .ok .toml ∧
      (save fs "a/b.toml" s).2 = .ok () ∧ load (save fs "a/b.toml" s).1 "a/b.toml" = .ok s := by
  intro s fs
  have hvalid : s.validate = .ok () := by decide +kernel
  have hpath : Format.ofPath "a/b.toml" = .ok .toml := by decide +kernel
  have hsaved : (save fs "a/b.toml" s).2 = .ok () := by decide +kernel
  have h := load_save_toml hvalid hpath fs
  exact ⟨hvalid, hpath, hsaved, h.2.2 hsaved⟩

end Settings

end Toolpath
