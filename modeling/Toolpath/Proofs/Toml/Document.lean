import Toolpath.Proofs.Toml.Scalar
import Toolpath.Proofs.Toml.Text

/-!
# Tables of a TOML document

A document with a line for each field, and a header for each table, is read into these headers and
fields in order. Nothing is assembled from dotted keys then, and fields with distinct keys are put
together one at a time, both in the tables and in front of them.
-/

namespace Toolpath.Toml

/-! ## Values on a line -/

theorem skipBlanks_cons {c : Char} (h : c ≠ ' ' ∧ c ≠ '\t') (cs : List Char) :
    skipBlanks (c :: cs) = c :: cs := by
  rw [skipBlanks, List.dropWhile_cons_of_neg]
  simpa using h

/-- A text that is a value where its line ends. -/
structure IsValue (cs : List Char) (v : Toml) : Prop where
  skipBlanks_append : ∀ rest, skipBlanks (cs ++ rest) = cs ++ rest
  value?_append : ∀ rest, value? (cs ++ '\n' :: rest) = some (v, '\n' :: rest)

theorem value?_quoted {q : Char} (hq : q = '"' ∨ q = '\x27') (cs : List Char) :
    value? (q :: cs) = (string? (q :: cs)).map fun (t, rest) ↦ (string (String.ofList t), rest) := by
  rcases hq with rfl | rfl
  · rfl
  · rfl

theorem value?_scalar {c : Char} (h : isWordChar c) (cs : List Char) :
    value? (c :: cs) = scalar (c :: cs) := by
  have hnot : ∀ {d}, isWordChar d = false → c ≠ d := by
    rintro d hd rfl
    rw [h] at hd
    cases hd
  have hdouble : c ≠ '"' := hnot (by decide)
  have hsingle : c ≠ '\x27' := hnot (by decide)
  have hbracket : c ≠ '[' := hnot (by decide)
  have hbrace : c ≠ '\x7b' := hnot (by decide)
  rw [value?, valueUpTo?] <;> simp_all

theorem exists_quote_eq_cons (text : List Char) :
    ∃ q cs, quote text = q :: cs ∧ (q = '"' ∨ q = '\x27') := by
  unfold quote
  dsimp only
  split
  · exact ⟨_, _, rfl, Or.inl rfl⟩
  · exact ⟨_, _, rfl, Or.inr rfl⟩
  · exact ⟨_, _, rfl, Or.inl rfl⟩
  · exact ⟨_, _, rfl, Or.inr rfl⟩

theorem isValue_quote (text : List Char) : IsValue (quote text) (string (String.ofList text)) := by
  obtain ⟨q, cs, hquote, hq⟩ := exists_quote_eq_cons text
  refine ⟨fun rest ↦ ?_, fun rest ↦ ?_⟩
  · rw [hquote, List.cons_append]
    rcases hq with rfl | rfl <;> exact skipBlanks_cons (by decide) _
  · have hstring := @string?_quote text ('\n' :: rest) (by simp) (by simp)
    rw [hquote, List.cons_append] at hstring ⊢
    rw [value?_quoted hq, hstring, Option.map_some]

theorem isValue_of_word? {cs : List Char} {v : Toml} (hne : cs ≠ []) (h : ∀ c ∈ cs, isWordChar c)
    (hword : word? cs = some v) : IsValue cs v := by
  obtain ⟨c, ds, rfl⟩ := List.exists_cons_of_ne_nil hne
  have hc := h c List.mem_cons_self
  refine ⟨fun rest ↦ ?_, fun rest ↦ ?_⟩
  · refine skipBlanks_cons ⟨?_, ?_⟩ _
    · rintro rfl
      cases hc
    · rintro rfl
      cases hc
  · rw [List.cons_append, value?_scalar hc, ← List.cons_append, scalar_append h, hword,
      Option.map_some]

theorem isValue_digitsOfNat {n : Nat} (h : n ≤ 9223372036854775807) :
    IsValue (digitsOfNat n) (integer n) :=
  isValue_of_word? (isRun_digitsOfNat n).1
    (fun _ hc ↦ isWordChar_of_isDigit ((isRun_digitsOfNat n).2 _ hc)) (word?_digitsOfNat h)

theorem isValue_doubleText {x : Binary64} (h : x.isFinite) : IsValue (doubleText x) (float x) := by
  obtain ⟨hne, hchars, hword⟩ := doubleText_spec h
  exact isValue_of_word? hne hchars hword

/-! ## Lines -/

/-- A key that is written without quotes. -/
def IsBareKey (key : String) : Prop := key.toList ≠ [] ∧ ∀ c ∈ key.toList, isBareKeyChar c

instance (key : String) : Decidable (IsBareKey key) :=
  decidable_of_iff (key.toList ≠ [] ∧ key.toList.all isBareKeyChar)
    (and_congr_right fun _ ↦ List.all_eq_true)

theorem ne_of_isBareKeyChar {c d : Char} (hc : isBareKeyChar c) (hd : isBareKeyChar d = false) :
    c ≠ d := by
  rintro rfl
  rw [hc] at hd
  cases hd

theorem IsBareKey.exists_eq_cons {key : String} (h : IsBareKey key) :
    ∃ c cs, key.toList = c :: cs ∧ isBareKeyChar c := by
  obtain ⟨c, cs, hkey⟩ := List.exists_cons_of_ne_nil h.1
  exact ⟨c, cs, hkey, h.2 c (hkey ▸ List.mem_cons_self)⟩

theorem keyPart?_append {key : String} (h : IsBareKey key) {rest : List Char}
    (hrest : ∀ c ∈ rest.head?, isBareKeyChar c = false) :
    keyPart? (key.toList ++ rest) = some (key, rest) := by
  obtain ⟨htake, hdrop⟩ := takeWhile_append_of_stops h.2 rest hrest
  obtain ⟨c, cs, hkey, hc⟩ := h.exists_eq_cons
  unfold keyPart?
  split
  next heq =>
    rw [hkey] at heq
    exact absurd (List.cons.inj heq).1 (ne_of_isBareKeyChar hc (by decide))
  next heq =>
    rw [hkey] at heq
    exact absurd (List.cons.inj heq).1 (ne_of_isBareKeyChar hc (by decide))
  next =>
    have hne : key.toList.isEmpty = false := by
      rw [hkey]
      rfl
    rw [htake, hdrop]
    simp only [hne, Bool.false_eq_true, if_false, Option.map_some, String.ofList_toList]

/-- A key of one bare part ends before what is neither a blank nor a point. -/
theorem key?_append {key : String} (h : IsBareKey key) {blanks : List Char}
    (hblanks : ∀ c ∈ blanks, c = ' ' ∨ c = '\t') {c : Char} (hc : isBareKeyChar c = false)
    (hblank : c ≠ ' ' ∧ c ≠ '\t') (hpoint : c ≠ '.') (cs : List Char) :
    key? (key.toList ++ (blanks ++ c :: cs)) = some ([key], c :: cs) := by
  obtain ⟨d, ds, hkey, hd⟩ := h.exists_eq_cons
  have hstart : skipBlanks (key.toList ++ (blanks ++ c :: cs)) =
      key.toList ++ (blanks ++ c :: cs) := by
    rw [hkey]
    exact skipBlanks_cons
      ⟨ne_of_isBareKeyChar hd (by decide), ne_of_isBareKeyChar hd (by decide)⟩ _
  have hend : skipBlanks (blanks ++ c :: cs) = c :: cs := by
    rw [skipBlanks, List.dropWhile_append_of_pos (by simpa using hblanks)]
    exact skipBlanks_cons hblank cs
  have hstop : ∀ e ∈ (blanks ++ c :: cs).head?, isBareKeyChar e = false := by
    rcases blanks with _ | ⟨b, blanks⟩
    · simpa using hc
    · rcases hblanks b List.mem_cons_self with rfl | rfl <;> simp <;> decide
  rw [key?, keyParts?, hstart, keyPart?_append h hstop]
  simp only [Option.bind_eq_bind, Option.bind_some, hend]
  split
  next heq => exact absurd (List.cons.inj heq).1 hpoint
  next => rfl

theorem toList_line (key : String) (value : List Char) :
    (line key value).toList = key.toList ++ ' ' :: '=' :: ' ' :: (value ++ ['\n']) := by
  simp [line]

theorem pair?_line {key : String} (hkey : IsBareKey key) {cs : List Char} {v : Toml}
    (hv : IsValue cs v) (rest : List Char) :
    pair? value? (key.toList ++ ' ' :: '=' :: ' ' :: (cs ++ '\n' :: rest)) =
      some (([], key, v), '\n' :: rest) := by
  have hkeys := @key?_append key hkey [' '] (by simp) '=' (by decide) (by decide) (by decide)
    (' ' :: (cs ++ '\n' :: rest))
  have hblank : skipBlanks (' ' :: (cs ++ '\n' :: rest)) = cs ++ '\n' :: rest :=
    hv.skipBlanks_append _
  rw [List.singleton_append] at hkeys
  rw [pair?, hkeys]
  simp only [Option.bind_eq_bind, Option.bind_some, List.getLast?_singleton, hblank,
    hv.value?_append, List.dropLast_singleton]

theorem statement?_of_pair? {c : Char} (hc : c ≠ '[') {cs rest : List Char} {path : List String}
    {key : String} {v : Toml} (h : pair? value? (c :: cs) = some ((path, key, v), rest)) :
    statement? (c :: cs) = some (.value path key v, rest) := by
  unfold statement?
  split
  next heq => exact absurd (List.cons.inj heq).1 hc
  next heq => exact absurd (List.cons.inj heq).1 hc
  next => rw [h, Option.map_some]

theorem statement?_header {name : String} (h : IsBareKey name) (rest : List Char) :
    statement? ('[' :: (name.toList ++ ']' :: '\n' :: rest)) = some (.header [name], '\n' :: rest) := by
  obtain ⟨c, ds, hcons, hc⟩ := h.exists_eq_cons
  have hbracket : c ≠ '[' := ne_of_isBareKeyChar hc (by decide)
  have hkeys := @key?_append name h [] (by simp) ']' (by decide) (by decide) (by decide)
    ('\n' :: rest)
  rw [List.nil_append] at hkeys
  unfold statement?
  split
  next heq =>
    rw [hcons] at heq
    exact absurd (List.cons.inj (List.cons.inj heq).2).1 hbracket
  next heq =>
    rw [← (List.cons.inj heq).2, hkeys]
    rfl
  next heq => exact absurd rfl (heq _)

/-! ## Statements -/

theorem filler?_cons {c : Char} (h : isBareKeyChar c ∨ c = '[') (cs : List Char) :
    filler? false (c :: cs) = some (c :: cs) := by
  have hnot : ∀ {d}, isBareKeyChar d = false → d ≠ '[' → c ≠ d := by
    rintro d hd hbracket rfl
    rcases h with h | h
    · exact ne_of_isBareKeyChar h hd rfl
    · exact hbracket h
  have hfeed : c ≠ '\n' := hnot (by decide) (by decide)
  have hreturn : c ≠ '\r' := hnot (by decide) (by decide)
  have hhash : c ≠ '#' := hnot (by decide) (by decide)
  have hblank : c ≠ ' ' := hnot (by decide) (by decide)
  have htab : c ≠ '\t' := hnot (by decide) (by decide)
  rw [filler?] <;> simp_all

theorem statementsUpTo?_cons {n : Nat} {c : Char} (hc : isBareKeyChar c ∨ c = '[') {cs rest : List Char}
    {s : Statement} (h : statement? (c :: cs) = some (s, '\n' :: rest)) :
    statementsUpTo? (n + 1) (c :: cs) = (statementsUpTo? n rest).map (s :: ·) := by
  rw [statementsUpTo?, filler?_cons hc]
  simp only [Option.bind_eq_bind, Option.bind_some, h, lineEnd?]
  cases statementsUpTo? n rest with
  | none => rfl
  | some ss => rfl

/-- A field as it is written: its key, the text of its value, and its value. -/
structure Entry where
  key : String
  text : List Char
  value : Toml

namespace Entry

def line (e : Entry) : List Char := (Toml.line e.key e.text).toList

def statement (e : Entry) : Statement := .value [] e.key e.value

def field (e : Entry) : String × Toml := (e.key, e.value)

def Proper (e : Entry) : Prop := IsBareKey e.key ∧ IsValue e.text e.value

theorem exists_line_eq {e : Entry} (h : e.Proper) (rest : List Char) :
    ∃ c cs, e.line ++ rest = c :: cs ∧ isBareKeyChar c ∧ rest.length < cs.length ∧
      statement? (c :: cs) = some (e.statement, '\n' :: rest) := by
  obtain ⟨c, cs, hkey, hc⟩ := h.1.exists_eq_cons
  have hpair := pair?_line h.1 h.2 rest
  have hline : e.line ++ rest = e.key.toList ++ ' ' :: '=' :: ' ' :: (e.text ++ '\n' :: rest) := by
    rw [line, toList_line]
    simp
  rw [hkey, List.cons_append] at hline hpair
  refine ⟨c, _, hline, hc, ?_, ?_⟩
  · simp only [List.length_append, List.length_cons]
    omega
  · exact statement?_of_pair? (ne_of_isBareKeyChar hc (by decide)) hpair

end Entry

/-- The text is read as these statements. -/
def Splits (cs : List Char) (ss : List Statement) : Prop :=
  ∀ n, cs.length < n → statementsUpTo? n cs = some ss

theorem splits_nil : Splits [] [] := by
  intro n hn
  obtain ⟨n, rfl⟩ := Nat.exists_eq_succ_of_ne_zero hn.ne'
  rfl

theorem Splits.cons {c : Char} (hc : isBareKeyChar c ∨ c = '[') {cs rest : List Char} {s : Statement}
    (h : statement? (c :: cs) = some (s, '\n' :: rest)) (hlength : rest.length < cs.length)
    {ss : List Statement} (hrest : Splits rest ss) : Splits (c :: cs) (s :: ss) := by
  intro n hn
  obtain ⟨n, rfl⟩ := Nat.exists_eq_succ_of_ne_zero (Nat.ne_zero_of_lt hn)
  rw [List.length_cons] at hn
  rw [statementsUpTo?_cons hc h, hrest n (by omega), Option.map_some]

theorem Splits.entries {es : List Entry} (h : ∀ e ∈ es, e.Proper) {rest : List Char}
    {ss : List Statement} (hrest : Splits rest ss) :
    Splits (es.flatMap Entry.line ++ rest) (es.map Entry.statement ++ ss) := by
  induction es with
  | nil => exact hrest
  | cons e es ih =>
      obtain ⟨c, cs, hline, hc, hlength, hstatement⟩ :=
        e.exists_line_eq (h e List.mem_cons_self) (es.flatMap Entry.line ++ rest)
      rw [List.flatMap_cons, List.append_assoc, hline]
      exact Splits.cons (Or.inl hc) hstatement hlength
        (ih fun f hf ↦ h f (List.mem_cons_of_mem e hf))

/-- A table as it is written: a header, and a line for each field. -/
structure Section where
  name : String
  entries : List Entry

namespace Section

def text (s : Section) : List Char :=
  '[' :: (s.name.toList ++ ']' :: '\n' :: s.entries.flatMap Entry.line)

def statements (s : Section) : List Statement := .header [s.name] :: s.entries.map Entry.statement

def field (s : Section) : String × Toml := (s.name, table false false (s.entries.map Entry.field))

structure Proper (s : Section) : Prop where
  name : IsBareKey s.name
  entries : ∀ e ∈ s.entries, e.Proper
  nodup : (s.entries.map Entry.key).Nodup

end Section

theorem Splits.table {s : Section} (h : s.Proper) {rest : List Char} {ss : List Statement}
    (hrest : Splits rest ss) : Splits (s.text ++ rest) (s.statements ++ ss) := by
  have hentries := hrest.entries h.entries
  have htext : s.text ++ rest =
      '[' :: (s.name.toList ++ ']' :: '\n' :: (s.entries.flatMap Entry.line ++ rest)) := by
    rw [Section.text]
    simp
  rw [htext]
  refine Splits.cons (Or.inr rfl) (statement?_header h.name _) ?_ hentries
  simp only [List.length_append, List.length_cons]
  omega

theorem splits_sections {sections : List Section} (h : ∀ s ∈ sections, s.Proper) :
    Splits (sections.flatMap Section.text) (sections.flatMap Section.statements) := by
  induction sections with
  | nil => exact splits_nil
  | cons s sections ih =>
      rw [List.flatMap_cons, List.flatMap_cons]
      exact (ih fun t ht ↦ h t (List.mem_cons_of_mem s ht)).table (h s List.mem_cons_self)

/-! ## Fields in order -/

theorem find?_eq_none {fields : List (String × Toml)} {key : String}
    (h : key ∉ fields.map (·.1)) : find? fields key = none := by
  rw [find?, Option.map_eq_none_iff, List.find?_eq_none]
  rintro f hf heq
  exact h (List.mem_map.mpr ⟨f, hf, of_decide_eq_true heq⟩)

theorem find?_append_self {fields : List (String × Toml)} {key : String}
    (h : key ∉ fields.map (·.1)) (v : Toml) : find? (fields ++ [(key, v)]) key = some v := by
  have hnone := find?_eq_none h
  rw [find?, Option.map_eq_none_iff] at hnone
  rw [find?, List.find?_append, hnone]
  simp

theorem set_append_self {fields : List (String × Toml)} {key : String}
    (h : key ∉ fields.map (·.1)) (v w : Toml) :
    set (fields ++ [(key, v)]) key w = fields ++ [(key, w)] := by
  rw [set, find?_append_self h]
  simp only [Option.isSome_some, if_true, List.map_append, List.map_singleton]
  refine congrArg (· ++ [(key, w)]) ((List.map_congr_left ?_).trans (List.map_id fields))
  rintro ⟨k, u⟩ hf
  exact if_neg fun hk : k = key ↦ h (List.mem_map.mpr ⟨_, hf, hk⟩)

theorem insert_root {fields : List (String × Toml)} {key : String} (h : key ∉ fields.map (·.1))
    (v : Toml) : assign [] key v (table false false fields) =
      some (table false false (fields ++ [(key, v)])) := by
  rw [assign, alter, insert]
  exact if_pos ⟨rfl, by rw [find?_eq_none h]; rfl⟩

theorem step_header {name : String} {fields : List (String × Toml)} (h : name ∉ fields.map (·.1))
    (current : List String) : Draft.step ⟨table false false fields, current⟩ (.header [name]) =
      some ⟨table false false (fields ++ [(name, emptyTable)]), [name]⟩ := by
  rw [Draft.step, Draft.enter, List.getLast?_singleton]
  simp only [List.dropLast_singleton, alter, openTable, find?_eq_none h, Option.map_some]

/-- What a draft does with one more value, wherever its values go. -/
def Takes (place : List (String × Toml) → Draft) : Prop :=
  ∀ fields key v, key ∉ fields.map (·.1) →
    Draft.step (place fields) (.value [] key v) = some (place (fields ++ [(key, v)]))

theorem takes_root : Takes fun fields ↦ ⟨table false false fields, []⟩ := by
  intro fields key v h
  rw [Draft.step, alter, insert_root h, Option.map_some]

theorem takes_table {name : String} {before : List (String × Toml)}
    (hname : name ∉ before.map (·.1)) :
    Takes fun fields ↦ ⟨table false false (before ++ [(name, table false false fields)]), [name]⟩ := by
  intro fields key v h
  rw [Draft.step, alter, find?_append_self hname]
  simp only [Bool.false_and, Bool.false_eq_true, if_false, alter, insert_root h, Option.map_some,
    set_append_self hname]

theorem Takes.entries {place : List (String × Toml) → Draft} (hplace : Takes place)
    (fields : List (String × Toml)) {es : List Entry}
    (h : (fields.map (·.1) ++ es.map Entry.key).Nodup) :
    (es.map Entry.statement).foldlM Draft.step (place fields) =
      some (place (fields ++ es.map Entry.field)) := by
  induction es generalizing fields with
  | nil => simp
  | cons e es ih =>
      have hkeys : (fields ++ [e.field]).map (·.1) ++ es.map Entry.key =
          fields.map (·.1) ++ (e :: es).map Entry.key := by
        simp [Entry.field]
      have hnew : e.key ∉ fields.map (·.1) := fun hmem ↦
        (List.nodup_append.mp h).2.2 e.key hmem e.key (by simp) rfl
      rw [List.map_cons, List.foldlM_cons, Entry.statement, hplace _ _ _ hnew]
      refine (ih _ (hkeys ▸ h)).trans ?_
      rw [List.append_assoc, List.singleton_append, List.map_cons, Entry.field]

theorem foldlM_step_sections {before : List (String × Toml)} {sections : List Section}
    (h : ∀ s ∈ sections, s.Proper) (hnames : (before.map (·.1) ++ sections.map Section.name).Nodup)
    (current : List String) : ∃ path,
      (sections.flatMap Section.statements).foldlM Draft.step ⟨table false false before, current⟩ =
        some ⟨table false false (before ++ sections.map Section.field), path⟩ := by
  induction sections generalizing before current with
  | nil => exact ⟨current, by simp⟩
  | cons s sections ih =>
      have hproper := h s List.mem_cons_self
      have hnew : s.name ∉ before.map (·.1) := fun hmem ↦
        (List.nodup_append.mp hnames).2.2 s.name hmem s.name (by simp) rfl
      have hfields := (takes_table hnew).entries [] hproper.nodup
      have hkeys : (before ++ [s.field]).map (·.1) ++ sections.map Section.name =
          before.map (·.1) ++ (s :: sections).map Section.name := by
        simp [Section.field]
      have hothers : ∀ t ∈ sections, t.Proper := fun t ht ↦ h t (List.mem_cons_of_mem s ht)
      obtain ⟨path, hrest⟩ := ih hothers (hkeys ▸ hnames) [s.name]
      refine ⟨path, ?_⟩
      rw [List.flatMap_cons, List.foldlM_append, Section.statements, List.foldlM_cons, step_header hnew]
      refine (congrArg (· >>= _) hfields).trans (hrest.trans ?_)
      rw [List.append_assoc, List.singleton_append, List.map_cons]

/-! ## Documents -/

/-- A document as it is written: fields outside of any table, and the tables behind them. -/
structure Sheet where
  top : List Entry
  sections : List Section
  top_proper : ∀ e ∈ top, e.Proper
  sections_proper : ∀ s ∈ sections, s.Proper
  nodup : (top.map Entry.key ++ sections.map Section.name).Nodup

namespace Sheet

variable (d : Sheet)

def lines : List Char := d.top.flatMap Entry.line ++ d.sections.flatMap Section.text

def text : String := String.ofList d.lines

def fields : List (String × Toml) := d.top.map Entry.field ++ d.sections.map Section.field

theorem nodup_fields : (d.fields.map (·.1)).Nodup := by
  rw [fields, List.map_append, List.map_map, List.map_map]
  exact d.nodup

/-- A line begins with a key or a bracket. -/
theorem skipMark_lines : skipMark d.lines = d.lines := by
  obtain ⟨top, sections, htop, -, -⟩ := d
  dsimp only [lines]
  unfold skipMark
  split
  next cs heq =>
    rcases top with _ | ⟨e, top⟩
    · rcases sections with _ | ⟨s, sections⟩
      · cases heq
      · cases heq
    · obtain ⟨c, ds, hline, hc, -⟩ := e.exists_line_eq (htop e List.mem_cons_self)
        (top.flatMap Entry.line ++ sections.flatMap Section.text)
      rw [List.flatMap_cons, List.append_assoc, hline] at heq
      exact absurd (List.cons.inj heq).1 (ne_of_isBareKeyChar hc (by decide))
  next => rfl

/-- A document is read as its fields and its tables, in order. -/
theorem read?_text : read? d.text = some (table false false d.fields) := by
  have hsplits := (splits_sections d.sections_proper).entries d.top_proper _ (Nat.lt_succ_self _)
  have hroot := takes_root.entries [] (List.nodup_append.mp d.nodup).1
  have hnames : ((d.top.map Entry.field).map (·.1) ++ d.sections.map Section.name).Nodup := by
    rw [List.map_map]
    exact d.nodup
  obtain ⟨path, hrest⟩ := foldlM_step_sections d.sections_proper hnames []
  have hfold : (d.top.map Entry.statement ++ d.sections.flatMap Section.statements).foldlM
      Draft.step {} = some ⟨table false false d.fields, path⟩ := by
    rw [List.foldlM_append]
    exact (congrArg (· >>= _) hroot).trans hrest
  rw [read?, text, String.toList_ofList, skipMark_lines, lines, hsplits, Option.bind_some, ofStatements?,
    hfold, Option.map_some]

end Sheet

/-! ## One table -/

/-- A document with one table and nothing else. -/
def oneTable (name : String) (fields : List (String × Toml)) : Toml :=
  table false false [(name, table false false fields)]

/-- A document of one table reads back as its fields. -/
theorem read?_table {text name : String} (hname : IsBareKey name) {es : List Entry}
    (h : ∀ e ∈ es, e.Proper) (hkeys : (es.map Entry.key).Nodup)
    (htext : text.toList = '[' :: (name.toList ++ ']' :: '\n' :: es.flatMap Entry.line)) :
    read? text = some (oneTable name (es.map Entry.field)) := by
  let d : Sheet := {
    top := []
    sections := [⟨name, es⟩]
    top_proper := List.forall_mem_nil _
    sections_proper := List.forall_mem_singleton.mpr ⟨hname, h, hkeys⟩
    nodup := List.nodup_singleton name }
  have hd : text = d.text := by
    apply String.toList_inj.mp
    rw [htext, Sheet.text, String.toList_ofList]
    simp [d, Sheet.lines, Section.text]
  rw [hd]
  exact d.read?_text

end Toolpath.Toml
