import Toolpath.Proofs.Settings.Json
import Toolpath.Proofs.Settings.Numbers
import Toolpath.Proofs.Settings.Toml

/-!
# Settings laid over the defaults

A document may hold any of the six fields, in any order and among any other keys. Each field that is
there has the value that is given, and each other one its default, but a call that is not there is no
call; only a document without a frame has the default call. Both formats agree on this: all that a
format has of its own is how it shows single values and records, and what it shows is read as it was.
-/

namespace Toolpath

namespace Settings

/-! ## Partial settings -/

/-- The fields that a document holds. The feed is kept as it is written. -/
structure Partial where
  defaultFeed : Option Written
  feedUnit : Option FeedUnit
  returnToStart : Option Bool
  restoreParameter : Option UInt32
  restoreCall : Option String
  endProgram : Option Bool

def Partial.overDefaults (p : Partial) : Settings where
  defaultFeed := (p.defaultFeed.map Written.nearest).getD default.defaultFeed
  feedUnit := p.feedUnit.getD default.feedUnit
  returnToStart := p.returnToStart.getD default.returnToStart
  restoreParameter := p.restoreParameter.getD default.restoreParameter
  restoreCall := p.restoreCall
  endProgram := p.endProgram.getD default.endProgram

theorem exists_of_validate_eq_error {s : Settings} {e : SettingsError} (h : s.validate = .error e) :
    ∃ key reason, e = .invalid key reason := by
  unfold validate at h
  split at h
  · exact ⟨_, _, (Except.error.inj h).symm⟩
  split at h
  · exact ⟨_, _, (Except.error.inj h).symm⟩
  · cases h

/-! ## Documents of either format -/

/-- How a format shows single values and records. -/
structure Shape (α : Type) where
  number : Written → α
  flag : Bool → α
  parameter : UInt32 → α
  feedUnit : FeedUnit → α
  /-- What may stand for a call, or for none. -/
  calls : Option String → List (Option α)
  fields? : α → Option (List (String × α))

namespace Shape

variable {α : Type} (s : Shape α)

/-- The values of the fields, in the order of their keys. -/
def values (p : Partial) (call : Option α) : List (Option α) :=
  [p.defaultFeed.map s.number, p.feedUnit.map s.feedUnit, p.returnToStart.map s.flag,
    p.restoreParameter.map s.parameter, call, p.endProgram.map s.flag]

/-- The fields with known keys are exactly these, in some order. -/
def Lists (p : Partial) (fields : List (String × α)) : Prop :=
  ∃ call ∈ s.calls p.restoreCall,
    (fields.filter (·.1 ∈ keys)).Perm (Parts.named keys (s.values p call))

/-- The document has one frame, which holds these fields and no other known ones. -/
def Holds (p : Partial) (document : α) : Prop :=
  ∃ top frame fields, s.fields? document = some top ∧
    top.filter (·.1 = "frame") = [("frame", frame)] ∧ s.fields? frame = some fields ∧ s.Lists p fields

def LacksFrame (document : α) : Prop :=
  ∃ top, s.fields? document = some top ∧ ∀ f ∈ top, f.1 ≠ "frame"

/-- What the format shows is read as it was. -/
structure Fits (r : Readers α) : Prop where
  number : ∀ {w : Written}, w.FewDigits → r.number (s.number w) = some w.nearest
  flag : ∀ b, r.flag (s.flag b) = some b
  parameter : ∀ n, r.parameter (s.parameter n) = some n
  feedUnit : ∀ u, r.feedUnit (s.feedUnit u) = some u
  call : ∀ {c v}, v ∈ s.calls c → v.elim (some none) r.call = some c
  parts : ∀ {v fields}, s.fields? v = some fields →
    ∀ names, r.parts? names v = Parts.ofNamed? names fields

variable {s} {r : Readers α} (hfits : s.Fits r)

include hfits

theorem Fits.ofParts?_values {p : Partial} (hfeed : ∀ w ∈ p.defaultFeed, w.FewDigits) {call : Option α}
    (hcall : call ∈ s.calls p.restoreCall) :
    ofParts? r ⟨s.values p call, false⟩ = some p.overDefaults := by
  have hoptional : Parts.optional ⟨s.values p call, false⟩ 4 r.call = some p.restoreCall := by
    rw [← hfits.call hcall]
    cases call <;> rfl
  rw [ofParts?, Parts.withDefault_eq rfl fun w hw ↦ hfits.number (hfeed w hw),
    Parts.withDefault_eq_getD rfl hfits.feedUnit, Parts.withDefault_eq_getD (i := 2) rfl hfits.flag,
    Parts.withDefault_eq_getD rfl hfits.parameter, hoptional,
    Parts.withDefault_eq_getD (i := 5) rfl hfits.flag]
  rfl

theorem Fits.ofTable?_eq {p : Partial} (hfeed : ∀ w ∈ p.defaultFeed, w.FewDigits) {frame : α}
    {fields : List (String × α)} (hframe : s.fields? frame = some fields) (h : s.Lists p fields) :
    ofTable? r frame = some p.overDefaults := by
  obtain ⟨call, hcall, hperm⟩ := h
  have hkeys : keys.Nodup := by decide
  rw [ofTable?, hfits.parts hframe, Parts.ofNamed?_of_perm (Parts.nodup_named hkeys _) hperm,
    Parts.ofNamed?_named hkeys rfl, Option.bind_some]
  exact hfits.ofParts?_values hfeed hcall

theorem Fits.ofDocument?_of_holds {p : Partial} (hfeed : ∀ w ∈ p.defaultFeed, w.FewDigits)
    {document : α} (h : s.Holds p document) : ofDocument? r document = some p.overDefaults := by
  obtain ⟨top, frame, fields, htop, hone, hframe, hlists⟩ := h
  rw [ofDocument?, hfits.parts htop, Parts.ofNamed?_of_filter_eq hone]
  exact hfits.ofTable?_eq hfeed hframe hlists

theorem Fits.ofDocument?_of_lacksFrame {document : α} (h : s.LacksFrame document) :
    ofDocument? r document = some default := by
  obtain ⟨top, htop, hnone⟩ := h
  have hfilter : top.filter (·.1 = "frame") = [] :=
    List.filter_eq_nil_iff.mpr fun f hf ↦ mt of_decide_eq_true (hnone f hf)
  rw [ofDocument?, hfits.parts htop, Parts.ofNamed?_of_filter_eq_nil hfilter]
  rfl

end Shape

/-! ## The two formats -/

/-- A call may also be missing by being null. -/
def jsonShape : Shape Json where
  number := .number
  flag := .bool
  parameter n := .ofNat n.toNat
  feedUnit u := .ofString u.name
  calls
    | none => [none, some .null]
    | some call => [some (.ofString call)]
  fields?
    | .object fields => Json.namedFields? fields
    | _ => none

def tomlShape : Shape Toml where
  number w := .float w.nearest
  flag := .bool
  parameter n := .integer n.toNat
  feedUnit u := .string u.name
  calls call := [call.map .string]
  fields?
    | .table _ _ fields => some fields
    | .inline fields => some fields
    | _ => none

theorem fits_json : jsonShape.Fits jsonReaders where
  number h := h.toDouble?
  flag _ := rfl
  parameter := parameter_jsonReaders
  feedUnit := feedUnit_jsonReaders
  call {c v} h := by
    cases c with
    | none =>
        rcases List.mem_pair.mp h with rfl | rfl
        · rfl
        · rfl
    | some call =>
        rw [List.mem_singleton.mp h]
        rfl
  parts {v fields} h names := by
    cases v with
    | object named =>
        have hnamed : Json.namedFields? named = some fields := h
        exact congrArg (·.bind (Parts.ofNamed? names)) hnamed
    | _ => cases h

theorem fits_toml : tomlShape.Fits tomlReaders where
  number _ := rfl
  flag _ := rfl
  parameter := parameter_tomlReaders
  feedUnit := feedUnit_tomlReaders
  call {c v} h := by
    rw [List.mem_singleton.mp h]
    cases c <;> rfl
  parts {v fields} h names := by
    cases v with
    | table =>
        rw [← Option.some.inj h]
        rfl
    | inline =>
        rw [← Option.some.inj h]
        rfl
    | _ => cases h

namespace Format

def Holds : Format → Partial → String → Prop
  | json, p, text => ∃ v, Json.read? text = some v ∧ jsonShape.Holds p v
  | toml, p, text => ∃ v, Toml.read? text = some v ∧ tomlShape.Holds p v

def LacksFrame : Format → String → Prop
  | json, text => ∃ v, Json.read? text = some v ∧ jsonShape.LacksFrame v
  | toml, text => ∃ v, Toml.read? text = some v ∧ tomlShape.LacksFrame v

theorem decode_of_holds {format : Format} {p : Partial} (hfeed : ∀ w ∈ p.defaultFeed, w.FewDigits)
    {text : String} (h : format.Holds p text) : format.decode text = .ok p.overDefaults := by
  cases format with
  | json =>
      obtain ⟨v, hread, hholds⟩ := h
      rw [decode, ofJsonText?, hread, Option.bind_some, ofJson?, fits_json.ofDocument?_of_holds hfeed hholds]
  | toml =>
      obtain ⟨v, hread, hholds⟩ := h
      rw [decode, ofTomlText?, hread, Option.bind_some, fits_toml.ofDocument?_of_holds hfeed hholds]

theorem decode_of_lacksFrame {format : Format} {text : String} (h : format.LacksFrame text) :
    format.decode text = .ok default := by
  cases format with
  | json =>
      obtain ⟨v, hread, hlacks⟩ := h
      rw [decode, ofJsonText?, hread, Option.bind_some, ofJson?, fits_json.ofDocument?_of_lacksFrame hlacks]
  | toml =>
      obtain ⟨v, hread, hlacks⟩ := h
      rw [decode, ofTomlText?, hread, Option.bind_some, fits_toml.ofDocument?_of_lacksFrame hlacks]

end Format

theorem load_of_decode {fs : Files} {path text : String} {format : Format} {s : Settings}
    (hpath : Format.ofPath path = .ok format) (hread : fs.read path = .ok text)
    (hdecode : format.decode text = .ok s) : load fs path = s.validate.map fun _ ↦ s := by
  rw [load, hpath]
  simp only [bind, Except.bind, hread, hdecode]
  cases s.validate <;> rfl

/-! ## Texts -/

theorem holds_sheet_json {p : Partial} (d : Json.Sheet) {fields : List (String × Json)}
    (hframe : d.fields.filter (·.1 = "frame") = [("frame", .record fields)])
    (h : jsonShape.Lists p fields) : Format.json.Holds p d.text :=
  ⟨_, d.read?_text, _, _, _, Json.namedFields?_named d.fields, hframe, Json.namedFields?_named fields, h⟩

theorem holds_sheet_toml {p : Partial} (d : Toml.Sheet) {entries : List Toml.Entry}
    (hframe : ⟨"frame", entries⟩ ∈ d.sections)
    (h : tomlShape.Lists p (entries.map Toml.Entry.field)) : Format.toml.Holds p d.text := by
  have hmem : ("frame", .table false false (entries.map Toml.Entry.field)) ∈ d.fields :=
    List.mem_append_right _ (List.mem_map.mpr ⟨_, hframe, rfl⟩)
  exact ⟨_, d.read?_text, _, _, _, rfl, Parts.filter_eq_singleton_of_mem d.nodup_fields hmem, rfl, h⟩

/-! ## Main result -/

def sampleFeed : Written where
  negative := false
  whole := ['1', '2']
  fraction := some ['5']

def sample : Partial := ⟨some sampleFeed, none, none, some 7, none, none⟩

theorem fewDigits_sample : ∀ w ∈ sample.defaultFeed, w.FewDigits := by
  rintro w ⟨⟩
  refine ⟨⟨isRun_digitsOfNat 12, nofun, ?_, nofun⟩, ⟨_, rfl, by decide⟩, rfl⟩
  rintro ds ⟨⟩
  exact isRun_digitsOfNat 5

def sampleEntries : List Toml.Entry :=
  [⟨"zzz", boolText true, .bool true⟩,
    ⟨"restore_feed_parameter", digitsOfNat 7, .integer 7⟩,
    ⟨"default_feed_rate", sampleFeed.text, .float sampleFeed.nearest⟩]

theorem proper_sampleEntries : ∀ e ∈ sampleEntries, e.Proper := by
  simp only [sampleEntries, List.forall_mem_cons]
  exact ⟨⟨by decide, isValue_boolText true⟩, ⟨by decide, Toml.isValue_digitsOfNat (n := 7) (by decide)⟩,
    ⟨by decide, (fewDigits_sample _ rfl).isValue⟩, List.forall_mem_nil _⟩

def sampleToml : Toml.Sheet where
  top := [⟨"end_program", digitsOfNat 3, .integer 3⟩]
  sections := [⟨"other", []⟩, ⟨"frame", sampleEntries⟩]
  top_proper := List.forall_mem_singleton.mpr ⟨by decide, Toml.isValue_digitsOfNat (n := 3) (by decide)⟩
  sections_proper := by
    simp only [List.forall_mem_cons]
    exact ⟨⟨by decide, List.forall_mem_nil _, List.nodup_nil⟩,
      ⟨by decide, proper_sampleEntries, by decide⟩, List.forall_mem_nil _⟩
  nodup := by decide

def sampleFields : List (String × Json) :=
  [("default_feed_rate", .number sampleFeed), ("restore_feed_macro", .null), ("zzz", .array []),
    ("restore_feed_parameter", .ofNat 7)]

def sampleJson : Json.Sheet where
  spacing := Json.pretty
  blank := Json.blank_pretty
  fields := [("frame", .record sampleFields)]
  printable := by
    have hfeed : sampleFeed.Proper := (fewDigits_sample _ rfl).proper
    refine List.forall_mem_singleton.mpr (Json.printable_record ?_)
    simp only [sampleFields, List.forall_mem_cons]
    exact ⟨.number hfeed, .null, .array (List.forall_mem_nil _), Json.printable_ofNat 7,
      List.forall_mem_nil _⟩

end Settings

end Toolpath
