import Toolpath.Proofs.Json.Drift
import Toolpath.Proofs.Json.Records
import Toolpath.Proofs.Settings.Saved

/-!
# Settings kept as JSON documents

Every field of settings comes back from their document as it was, texts and the missing call
included, except for the feed: it comes back as the double that is reread from its own document. That
is a positive one and near, so that a saved file can always be loaded, but it is the same one only
for some feeds, all short ones among them.
-/

namespace Toolpath

namespace Settings

/-! ## The document -/

def jsonCall : Option String → Json
  | some call => .ofString call
  | none => .null

theorem toJson_eq (s : Settings) : toJson s = .record [("frame", .record
    (fieldsOf (.ofDouble s.defaultFeed) (.ofString s.feedUnit.name) (.bool s.returnToStart)
      (.ofNat s.restoreParameter.toNat) (some (jsonCall s.restoreCall)) (.bool s.endProgram)))] := rfl

theorem printable_jsonCall (call : Option String) : (jsonCall call).Printable := by
  cases call with
  | none => exact .null
  | some call => exact Json.printable_ofString call

theorem printable_toJson (s : Settings) : (toJson s).Printable := by
  have hfields : ∀ f ∈ fieldsOf (.ofDouble s.defaultFeed) (.ofString s.feedUnit.name)
      (.bool s.returnToStart) (.ofNat s.restoreParameter.toNat) (some (jsonCall s.restoreCall))
      (.bool s.endProgram), Json.Printable f.2 := by
    simp only [fieldsOf, List.forall_mem_append, List.forall_mem_cons]
    exact ⟨⟨⟨Json.printable_ofDouble _, Json.printable_ofString _, .bool _, Json.printable_ofNat _,
      List.forall_mem_nil _⟩, printable_jsonCall _, List.forall_mem_nil _⟩, .bool _,
      List.forall_mem_nil _⟩
  rw [toJson_eq]
  exact Json.printable_record (List.forall_mem_singleton.mpr (Json.printable_record hfields))

theorem feedUnit_jsonReaders (u : FeedUnit) :
    jsonReaders.feedUnit (.ofString u.name) = some u := by
  cases u <;> decide

theorem parameter_jsonReaders (n : UInt32) : jsonReaders.parameter (.ofNat n.toNat) = some n := by
  have hlt := n.toNat_lt
  have hread : Json.toNatUpTo? 4294967295 (.ofNat n.toNat) = some n.toNat := by
    simp only [Json.ofNat, Json.toNatUpTo?, Json.toNat?, Written.ofNat, Written.isInteger,
      natOfDigits_digitsOfNat]
    exact (if_pos rfl).trans (if_pos (by omega))
  simp [jsonReaders, hread]

theorem call_jsonReaders (call : Option String) :
    (some (jsonCall call)).elim (some none) jsonReaders.call = some call := by
  cases call <;> rfl

/-- All fields but the feed are read as they were written. -/
theorem ofJsonText?_toJsonText (s : Settings) : ofJsonText? (toJsonText s) =
    (Json.reread s.defaultFeed).map fun x ↦ { s with defaultFeed := x } := by
  have hrecord : ∀ names fields, jsonReaders.parts? names (.record fields) =
      Parts.ofNamed? names fields := Json.parts?_record
  rw [ofJsonText?, toJsonText, Json.read?_render Json.blank_pretty (printable_toJson s),
    Option.bind_some, ofJson?, toJson_eq,
    ofDocument?_of_parts ((hrecord _ _).trans (Parts.ofNamed?_singleton "frame" _))
      ((hrecord _ _).trans ofNamed?_fieldsOf),
    ofParts?_fields (feedUnit_jsonReaders _) rfl (parameter_jsonReaders _) (call_jsonReaders _) rfl]
  rfl

/-! ## The file -/

theorem validate_with_feed {s : Settings} (h : s.validate = .ok ()) {x : Binary64}
    (hx : isUsableFeed x) : Settings.validate { s with defaultFeed := x } = .ok () := by
  have hfeed := isUsableFeed_of_validate h
  simp only [validate, hfeed, hx, Bool.not_true, Bool.false_eq_true, if_false] at h ⊢
  exact h

theorem isUsableFeed_iff_ticks {x : Binary64} : isUsableFeed x ↔ x.isFinite ∧ 0 < x.ticks := by
  rw [isUsableFeed_iff, Binary64.lt_iff]
  exact ⟨fun ⟨hfinite, _, _, hticks⟩ ↦ ⟨hfinite, hticks⟩, fun ⟨hfinite, hticks⟩ ↦
    ⟨hfinite, Binary64.zero_ne_nan, Binary64.ne_nan_of_isFinite hfinite, hticks⟩⟩

section Saved

variable {s : Settings} (hvalid : s.validate = .ok ()) {path : String}
  (hpath : Format.ofPath path = .ok .json) {fs : Files} (hsaved : (save fs path s).2 = .ok ())

include hvalid hpath hsaved

/-- A saved file is loaded with the feed that is reread, whatever that is. -/
theorem load_of_reread {x : Binary64} (hx : Json.reread s.defaultFeed = some x) (hfeed : isUsableFeed x) :
    load (save fs path s).1 path = .ok { s with defaultFeed := x } := by
  rw [load_save hpath hsaved, Format.decode, Format.encode, ofJsonText?_toJsonText, hx, Option.map_some]
  simp only [bind, Except.bind, validate_with_feed hvalid hfeed]

/-- Nothing but the feed can tell the loaded settings from the saved ones. -/
theorem load_eq_self_iff {x : Binary64} (hx : Json.reread s.defaultFeed = some x)
    (hfeed : isUsableFeed x) : load (save fs path s).1 path = .ok s ↔ x = s.defaultFeed := by
  rw [load_of_reread hvalid hpath hsaved hx hfeed, Except.ok.injEq]
  exact ⟨fun h ↦ congrArg defaultFeed h, fun h ↦ by rw [h]⟩

end Saved

theorem exists_reread_near {s : Settings} (hvalid : s.validate = .ok ()) :
    ∃ x, Json.reread s.defaultFeed = some x ∧ isUsableFeed x ∧ Json.Near s.defaultFeed x := by
  obtain ⟨hfinite, hticks⟩ := isUsableFeed_iff_ticks.mp (isUsableFeed_of_validate hvalid)
  obtain ⟨x, hread, hx, hpositive, hnear⟩ := Json.drifts hfinite hticks
  exact ⟨x, hread, isUsableFeed_iff_ticks.mpr ⟨hx, hpositive⟩, hnear⟩

/-- A file of valid settings can be saved wherever a file can be written, and it can always be loaded
again. Only the feed may have drifted. The settings are the saved ones exactly if the feed is reread as
it was, as are all short feeds. -/
theorem load_save_json {s : Settings} (hvalid : s.validate = .ok ()) {path : String}
    (hpath : Format.ofPath path = .ok .json) (fs : Files) :
    ((save fs path s).2 = .ok () ↔ Writable fs path) ∧
      ((save fs path s).2 = .ok () →
        (∃ x, Json.Near s.defaultFeed x ∧
          load (save fs path s).1 path = .ok { s with defaultFeed := x }) ∧
        (load (save fs path s).1 path = .ok s ↔ Json.reread s.defaultFeed = some s.defaultFeed) ∧
        (Json.HasShort s.defaultFeed → load (save fs path s).1 path = .ok s)) := by
  have hwritable : (save fs path s).2 = .ok () ↔ Writable fs path := by
    rw [save_eq_ok_iff]
    exact ⟨fun h ↦ h.2.2, fun h ↦ ⟨hvalid, ⟨_, hpath⟩, h⟩⟩
  refine ⟨hwritable, fun hsaved ↦ ?_⟩
  obtain ⟨x, hread, hfeed, hnear⟩ := exists_reread_near hvalid
  have hload := load_of_reread hvalid hpath hsaved hread hfeed
  have hsame : load (save fs path s).1 path = .ok s ↔
      Json.reread s.defaultFeed = some s.defaultFeed := by
    rw [load_eq_self_iff hvalid hpath hsaved hread hfeed, hread, Option.some.injEq]
  exact ⟨⟨x, hnear, hload⟩, hsame, fun hshort ↦ hsame.mpr (Json.reread_of_hasShort hshort)⟩

theorem load_save_json_tenth :
    let s : Settings := { default with
      defaultFeed := (Decimal.mk false 1 (-1)).toBinary64
      restoreCall := some "M221 \"\\ \n\x01\"" }
    let fs := Files.bare ["home"]
    s.validate = .ok () ∧ Format.ofPath "a/b.json" = .ok .json ∧
      (save fs "a/b.json" s).2 = .ok () ∧ Json.HasShort s.defaultFeed ∧
      load (save fs "a/b.json" s).1 "a/b.json" = .ok s := by
  intro s fs
  have hvalid : s.validate = .ok () := by decide +kernel
  have hpath : Format.ofPath "a/b.json" = .ok .json := by decide +kernel
  have hsaved : (save fs "a/b.json" s).2 = .ok () := by decide +kernel
  have hshort : Json.HasShort s.defaultFeed := by decide +kernel
  obtain ⟨-, hloaded⟩ := load_save_json hvalid hpath fs
  obtain ⟨-, -, hkept⟩ := hloaded hsaved
  exact ⟨hvalid, hpath, hsaved, hshort, hkept hshort⟩

/-- A feed of seventeen digits may be loaded as the double next to it. -/
theorem load_save_json_ne :
    let x := (Decimal.mk false 43179999999999995 (-14)).toBinary64
    let y := (Decimal.mk false 4317999999999999 (-13)).toBinary64
    let s : Settings := { default with defaultFeed := x }
    let fs := Files.bare ["home"]
    s.validate = .ok () ∧ Format.ofPath "c.json" = .ok .json ∧ (save fs "c.json" s).2 = .ok () ∧
      load (save fs "c.json" s).1 "c.json" = .ok { s with defaultFeed := y } ∧
      load (save fs "c.json" s).1 "c.json" ≠ .ok s := by
  intro x y s fs
  have hvalid : s.validate = .ok () := by decide +kernel
  have hpath : Format.ofPath "c.json" = .ok .json := by decide +kernel
  have hsaved : (save fs "c.json" s).2 = .ok () := by decide +kernel
  have hread : Json.reread s.defaultFeed = some y := by decide +kernel
  have hfeed : isUsableFeed y := by decide +kernel
  have hne : y ≠ s.defaultFeed := by decide +kernel
  exact ⟨hvalid, hpath, hsaved, load_of_reread hvalid hpath hsaved hread hfeed,
    (load_eq_self_iff hvalid hpath hsaved hread hfeed).not.mpr hne⟩

end Settings

end Toolpath
