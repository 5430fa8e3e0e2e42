import Mathlib.Data.List.Nodup
import Toolpath.Record.Parts

/-!
# Fields found by their names

Where no two fields have one name, a field is found by its name wherever it stands. So neither the
order of the fields matters nor what other fields there are, and a record is read as the parts that it
was written from, with those left out that were not there.
-/

namespace Toolpath.Parts

variable {α : Type} {fields : List (String × α)} {name : String} {a : α}

theorem filter_eq_singleton_of_mem (hkeys : (fields.map (·.1)).Nodup) (h : (name, a) ∈ fields) :
    fields.filter (·.1 = name) = [(name, a)] := by
  induction fields with
  | nil => cases h
  | cons f fields ih =>
      rw [List.map_cons, List.nodup_cons] at hkeys
      rcases List.mem_cons.mp h with rfl | h
      · have hrest : fields.filter (·.1 = name) = [] := by
          rw [List.filter_eq_nil_iff]
          intro g hg hname
          exact hkeys.1 (List.mem_map.mpr ⟨g, hg, of_decide_eq_true hname⟩)
        rw [List.filter_cons_of_pos (by simp), hrest]
      · have hname : f.1 ≠ name := fun hname ↦ hkeys.1 (List.mem_map.mpr ⟨_, h, hname.symm⟩)
        rw [List.filter_cons_of_neg (by simpa using hname), ih hkeys.2 h]

theorem filter_eq_nil_or_singleton (hkeys : (fields.map (·.1)).Nodup) (name : String) :
    fields.filter (·.1 = name) = [] ∨ ∃ a, fields.filter (·.1 = name) = [(name, a)] := by
  by_cases hmem : ∃ a, (name, a) ∈ fields
  · obtain ⟨a, ha⟩ := hmem
    exact Or.inr ⟨a, filter_eq_singleton_of_mem hkeys ha⟩
  · left
    rw [List.filter_eq_nil_iff]
    rintro ⟨n, a⟩ hf hn
    obtain rfl : n = name := of_decide_eq_true hn
    exact hmem ⟨a, hf⟩

/-- A field is the one part that its name asks for. -/
theorem ofNamed?_of_mem (hkeys : (fields.map (·.1)).Nodup) (h : (name, a) ∈ fields) :
    ofNamed? [name] fields = some ⟨[some a], false⟩ := by
  have hfilter := filter_eq_singleton_of_mem hkeys h
  have hfind : fields.find? (·.1 = name) = some (name, a) := by
    rw [← List.head?_filter, hfilter, List.head?_cons]
  simp [ofNamed?, hfilter, hfind]

theorem ofNamed?_singleton (name : String) (a : α) :
    ofNamed? [name] [(name, a)] = some ⟨[some a], false⟩ :=
  ofNamed?_of_mem (List.nodup_singleton name) List.mem_cons_self

/-! ## Order and other fields -/

theorem ofNamed?_congr {names : List String} {fields' : List (String × α)}
    (h : ∀ name ∈ names, fields.filter (·.1 = name) = fields'.filter (·.1 = name)) :
    ofNamed? names fields = ofNamed? names fields' := by
  have hcount : names.all (fun n ↦ (fields.filter (·.1 = n)).length ≤ 1) =
      names.all fun n ↦ (fields'.filter (·.1 = n)).length ≤ 1 := by
    rw [Bool.eq_iff_iff, List.all_eq_true, List.all_eq_true]
    exact forall₂_congr fun n hn ↦ by rw [h n hn]
  have hvalues : names.map (fun n ↦ (fields.find? (·.1 = n)).map (·.2)) =
      names.map fun n ↦ (fields'.find? (·.1 = n)).map (·.2) := by
    refine List.map_congr_left fun n hn ↦ ?_
    rw [← List.head?_filter, ← List.head?_filter, h n hn]
  rw [ofNamed?, ofNamed?, hcount, hvalues]

theorem filter_eq_of_perm {names : List String} {fields' : List (String × α)}
    (hkeys : (fields'.map (·.1)).Nodup) (h : (fields.filter (·.1 ∈ names)).Perm fields')
    (hname : name ∈ names) : fields.filter (·.1 = name) = fields'.filter (·.1 = name) := by
  have hknown : (fields.filter (·.1 ∈ names)).filter (·.1 = name) = fields.filter (·.1 = name) := by
    rw [List.filter_filter]
    refine List.filter_congr fun f _ ↦ ?_
    by_cases hf : f.1 = name
    · simp [hf, hname]
    · simp [hf]
  have hperm := h.filter (·.1 = name)
  rw [hknown] at hperm
  rcases filter_eq_nil_or_singleton hkeys name with hfilter | ⟨a, hfilter⟩
  · rw [hfilter] at hperm ⊢
    exact List.perm_nil.mp hperm
  · rw [hfilter] at hperm ⊢
    exact List.perm_singleton.mp hperm

theorem ofNamed?_of_filter_eq (h : fields.filter (·.1 = name) = [(name, a)]) :
    ofNamed? [name] fields = some ⟨[some a], false⟩ := by
  rw [← ofNamed?_singleton name a]
  apply ofNamed?_congr
  rintro n hn
  rw [List.mem_singleton.mp hn, h]
  simp

theorem ofNamed?_of_filter_eq_nil (h : fields.filter (·.1 = name) = []) :
    ofNamed? [name] fields = some ⟨[none], false⟩ := by
  have hnil : ofNamed? [name] ([] : List (String × α)) = some ⟨[none], false⟩ := rfl
  rw [← hnil]
  apply ofNamed?_congr
  intro n hn
  rw [List.mem_singleton.mp hn, h, List.filter_nil]

/-- The parts of a record depend on the fields with known names only, in any order. -/
theorem ofNamed?_of_perm {names : List String} {fields' : List (String × α)}
    (hkeys : (fields'.map (·.1)).Nodup) (h : (fields.filter (·.1 ∈ names)).Perm fields') :
    ofNamed? names fields = ofNamed? names fields' :=
  ofNamed?_congr fun _ hname ↦ filter_eq_of_perm hkeys h hname

/-! ## Fields that are there -/

/-- The fields of a record, without those that have no value. -/
def named : List String → List (Option α) → List (String × α)
  | name :: names, value :: values => (value.map (name, ·)).toList ++ named names values
  | _, _ => []

theorem mem_names_of_mem_named {names : List String} {values : List (Option α)} {f : String × α}
    (h : f ∈ named names values) : f.1 ∈ names := by
  fun_induction named names values with
  | case1 name names value values ih =>
      rcases List.mem_append.mp h with h | h
      · cases value with
        | none => cases h
        | some a =>
            rw [List.mem_singleton.mp h]
            exact List.mem_cons_self
      · exact List.mem_cons_of_mem name (ih h)
  | case2 => cases h

theorem nodup_named {names : List String} (hnames : names.Nodup) (values : List (Option α)) :
    ((named names values).map (·.1)).Nodup := by
  fun_induction named names values with
  | case1 name names value values ih =>
      obtain ⟨hname, hrest⟩ := List.nodup_cons.mp hnames
      cases value with
      | none => exact ih hrest
      | some a =>
          refine List.nodup_cons.mpr ⟨fun hmem ↦ ?_, ih hrest⟩
          obtain ⟨f, hf, rfl⟩ := List.mem_map.mp hmem
          exact hname (mem_names_of_mem_named hf)
  | case2 => exact List.nodup_nil

theorem find?_eq_none_of_notMem {names : List String} (hname : name ∉ names) (values : List (Option α)) :
    (named names values).find? (·.1 = name) = none := by
  rw [List.find?_eq_none]
  intro f hf heq
  exact hname (of_decide_eq_true heq ▸ mem_names_of_mem_named hf)

theorem map_find?_named {names : List String} (hnames : names.Nodup) {values : List (Option α)}
    (hlength : names.length = values.length) :
    names.map (fun n ↦ ((named names values).find? (·.1 = n)).map (·.2)) = values := by
  fun_induction named names values with
  | case1 name names value values ih =>
      obtain ⟨hname, hrest⟩ := List.nodup_cons.mp hnames
      have hfirst : ((value.map (name, ·)).toList ++ named names values).find? (·.1 = name) =
          value.map (name, ·) := by
        cases value with
        | none => exact find?_eq_none_of_notMem hname values
        | some a => simp
      have hothers : ∀ n ∈ names, ((value.map (name, ·)).toList ++ named names values).find? (·.1 = n) =
          (named names values).find? (·.1 = n) := by
        intro n hn
        have hne : name ≠ n := fun h ↦ hname (h ▸ hn)
        cases value <;> simp [hne]
      have htail := ih hrest (Nat.succ.inj hlength)
      rw [List.map_cons, hfirst, Option.map_map, List.map_congr_left fun n hn ↦ by rw [hothers n hn], htail]
      exact congrArg (· :: values) Option.map_id'
  | case2 names values hnot =>
      cases names with
      | nil => exact (List.length_eq_zero_iff.mp hlength.symm).symm
      | cons name names =>
          obtain ⟨value, values, rfl⟩ := List.exists_cons_of_length_eq_add_one hlength.symm
          exact absurd rfl (hnot _ _ _ _ rfl)

/-- A record is read as the parts that it was written from. -/
theorem ofNamed?_named {names : List String} (hnames : names.Nodup) {values : List (Option α)}
    (hlength : names.length = values.length) :
    ofNamed? names (named names values) = some ⟨values, false⟩ := by
  have hkeys := nodup_named hnames values
  have honce : names.all fun n ↦ ((named names values).filter (·.1 = n)).length ≤ 1 := by
    rw [List.all_eq_true]
    intro n _
    rw [decide_eq_true_iff]
    rcases filter_eq_nil_or_singleton hkeys n with hfilter | ⟨a, hfilter⟩
    · rw [hfilter]
      exact Nat.zero_le 1
    · rw [hfilter]
      exact Nat.le_refl 1
  rw [ofNamed?, if_pos honce, map_find?_named hnames hlength]

/-! ## Defaults -/

/-- A field that was written from a value is read as that value, and one that is not there has its
default. -/
theorem withDefault_eq {β γ : Type} {p : Parts α} {i : Nat} {field : Option β} {write : β → α}
    (hfield : p.field i = field.map write) {read : α → Option γ} {convert : β → γ}
    (h : ∀ b ∈ field, read (write b) = some (convert b)) (d : γ) :
    p.withDefault i d read = some ((field.map convert).getD d) := by
  rw [withDefault, hfield]
  cases field with
  | none => rfl
  | some b => exact h b rfl

theorem withDefault_eq_getD {β : Type} {p : Parts α} {i : Nat} {field : Option β} {write : β → α}
    (hfield : p.field i = field.map write) {read : α → Option β} (h : ∀ b, read (write b) = some b)
    (d : β) : p.withDefault i d read = some (field.getD d) := by
  have hdefault := withDefault_eq hfield (fun b _ ↦ h b) d
  rwa [Option.map_id'] at hdefault

end Toolpath.Parts
