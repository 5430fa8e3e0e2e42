import Toolpath.Proofs.Program.Layout
import Toolpath.Proofs.Program.Modes

/-!
# Spacing and order of words

Words may be written without blanks or with any number of them before, between and behind: the letter of
the next word ends a numeral as well as a blank does. A line of words is therefore read as its words,
whatever its spacing. Of their order counts only that of words which overwrite each other, those of one
coordinate or offset and the codes of one group.
-/

namespace Toolpath

namespace Word

/-! ## Lines of words -/

/-- The text spells the words, each one after some blanks or none, and blanks at the end. Letters may
be in lower case. -/
inductive Spells : List Word → List Char → Prop where
  | blanks {blanks : List Char} (h : ∀ c ∈ blanks, isBlank c) : Spells [] blanks
  | word (blanks : List Char) (letter : Char) {w : Word} {ws : List Word} {rest : List Char}
    (h : ∀ c ∈ blanks, isBlank c) (hletter : letter.toUpper = w.letter) (hw : w.Plain)
    (hrest : Spells ws rest) : Spells (w :: ws) (blanks ++ (letter :: w.numeral.text ++ rest))

/-- A letter and its capital are in ASCII, and they are no blanks, digits or points. -/
theorem letter_spec {c : Char} (h : isLetter c.toUpper) :
    upperChar c = [c.toUpper] ∧ c.toUpper.toUpper = c.toUpper ∧ isDecimalDigit c = false ∧
      c ≠ '.' ∧ c ≠ ';' := by
  have hlt : c.toNat < 128 := by
    by_contra hge
    have hup : c.toUpper = c := by
      unfold Char.toUpper
      split
      next hc =>
        have : c.toNat ≤ 122 := hc.2
        omega
      next => rfl
    rw [hup] at h
    exact hge (toNat_lt_of_isPlain (by simp [isPlain, h]))
  have hall : ∀ n : Fin 128, isLetter (Char.ofNat n).toUpper →
      upperChar (Char.ofNat n) = [(Char.ofNat n).toUpper] ∧
        (Char.ofNat n).toUpper.toUpper = (Char.ofNat n).toUpper ∧
        isDecimalDigit (Char.ofNat n) = false ∧ Char.ofNat n ≠ '.' ∧ Char.ofNat n ≠ ';' := by
    decide +kernel
  exact of_ascii (p := fun c ↦ isLetter c.toUpper → upperChar c = [c.toUpper] ∧
    c.toUpper.toUpper = c.toUpper ∧ isDecimalDigit c = false ∧ c ≠ '.' ∧ c ≠ ';') hall hlt h

variable {ws : List Word} {line : List Char}

/-- No numeral goes on where words with their spacing begin. -/
theorem Spells.stops (h : Spells ws line) : Numeral.Stops line := by
  have hblank {blanks rest : List Char} (h : ∀ c ∈ blanks, isBlank c) (hrest : Numeral.Stops rest) :
      Numeral.Stops (blanks ++ rest) := by
    cases blanks with
    | nil => exact hrest
    | cons b blanks =>
        intro c hc
        obtain rfl : b = c := by simpa using hc
        obtain ⟨-, -, hdigit, -, -, hpoint⟩ := blank_spec (h b List.mem_cons_self)
        exact ⟨hdigit, hpoint⟩
  cases h with
  | blanks h => exact List.append_nil line ▸ hblank h Numeral.stops_nil
  | word blanks letter h hletter hw hrest =>
      refine hblank h fun c hc ↦ ?_
      obtain rfl : letter = c := by simpa using hc
      obtain ⟨-, -, hdigit, hpoint, -⟩ := letter_spec (hletter ▸ hw.letter)
      exact ⟨hdigit, hpoint⟩

theorem Spells.ne_semicolon (h : Spells ws line) : ∀ c ∈ line, c ≠ ';' := by
  induction h with
  | blanks h => exact fun c hc ↦ isBlank_ne_semicolon (h c hc)
  | word blanks letter h hletter hw hrest ih =>
      intro c hc
      rw [List.mem_append, List.mem_append, List.mem_cons] at hc
      rcases hc with hc | (rfl | hc) | hc
      · exact isBlank_ne_semicolon (h c hc)
      · exact (letter_spec (hletter ▸ hw.letter)).2.2.2.2
      · exact (plain_spec (isPlain_of_mem_text hw (List.mem_cons_of_mem _ hc))).2.2.1
      · exact ih c hc

theorem uppercase_spelled {blanks : List Char} {letter : Char} {w : Word}
    (h : ∀ c ∈ blanks, isBlank c) (hletter : letter.toUpper = w.letter) (hw : w.Plain)
    (rest : List Char) : uppercase (blanks ++ (letter :: w.numeral.text ++ rest)) =
      blanks ++ (w.letter :: w.numeral.text ++ uppercase rest) := by
  have htext : uppercase w.numeral.text = w.numeral.text := uppercase_eq_self fun c hc ↦
    (plain_spec (isPlain_of_mem_text hw (List.mem_cons_of_mem _ hc))).1
  have hfront : uppercase (letter :: w.numeral.text) = w.letter :: w.numeral.text := by
    rw [← hletter, uppercase, List.flatMap_cons, (letter_spec (hletter ▸ hw.letter)).1]
    exact congrArg _ htext
  rw [uppercase_append, uppercase_append, uppercase_eq_self fun c hc ↦ (blank_spec (h c hc)).1, hfront]

/-- In upper case the same words are spelled. -/
theorem Spells.uppercase (h : Spells ws line) : Spells ws (uppercase line) := by
  induction h with
  | blanks h => exact (uppercase_eq_self fun c hc ↦ (blank_spec (h c hc)).1).symm ▸ .blanks h
  | word blanks letter h hletter hw hrest ih =>
      rw [uppercase_spelled h hletter hw]
      exact .word blanks _ h (hletter ▸ (letter_spec (hletter ▸ hw.letter)).2.1) hw ih

/-- The scanner cuts the text at the borders of its words. -/
theorem Spells.scan_uppercase (h : Spells ws line) : scan (Toolpath.uppercase line) = ws := by
  induction h with
  | blanks h =>
      rw [uppercase_eq_self fun c hc ↦ (blank_spec (h c hc)).1]
      exact scan_eq_nil_of_no_letter fun c hc ↦ (blank_spec (h c hc)).2.1
  | word blanks letter h hletter hw hrest ih =>
      rw [uppercase_spelled h hletter hw,
        scan_append_of_no_letter fun c hc ↦ (blank_spec (h c hc)).2.1]
      exact (scan_text_append hw.letter hw.proper hrest.uppercase.stops).trans (congrArg _ ih)

theorem Spells.ofLine_eq (h : Spells ws line) : ofLine line = ws := by
  rw [Word.ofLine_eq, List.takeWhile_eq_self_iff.mpr fun c hc ↦ by simpa using h.ne_semicolon c hc,
    h.scan_uppercase]

theorem Spells.proper (h : Spells ws line) : ∀ w ∈ ws, w.numeral.Proper := by
  rw [← h.ofLine_eq]
  exact fun w hw ↦ proper_of_mem_scan hw

end Word

/-- A line is read as what is kept of the words that it spells, and a line of blanks is not read. -/
theorem Block.read?_of_spells {ws : List Word} {line : List Char} (h : Word.Spells ws line) :
    read? line = if ws = [] then none else some (ofKept ws) := by
  rw [read?_eq_ofKept, h.ofLine_eq]
  by_cases hws : ws = []
  · subst hws
    obtain ⟨h⟩ := h
    have hcode : stripComment line = [] := by
      rw [← List.append_nil line, stripComment_blanks_append h]
      rfl
    rw [hcode]
    rfl
  · have hcode : uppercase (stripComment line) ≠ [] := by
      intro hcode
      have hline := h.ofLine_eq
      rw [Word.ofLine, hcode, Word.scan] at hline
      exact hws hline.symm
    rw [if_neg hcode, if_neg hws]

/-! ## The order of words -/

namespace Modal

/-- The codes of a block count only for the modes that they put into force. -/
theorem apply_codes_congr {s : Modal} {b : Block} {codes : List Binary64}
    (h : s.applyCodes b.codes = s.applyCodes codes) :
    s.apply b = s.apply { b with codes := codes } := by
  unfold apply
  dsimp only
  rw [h]
  rfl

end Modal

namespace Word

/-- The groups of codes that overwrite each other. -/
def modalGroups : List (List Nat) := [[0, 1, 2, 3], [90, 91], [20, 21]]

/-- The word is one of the given codes. -/
def isCode (ns : List Nat) (w : Word) : Bool :=
  w.letter = 'G' && w.numeral.value?.any fun v ↦ ns.any fun n ↦ v.eq (.ofNat n)

/-- The same words, in an order that keeps those of one coordinate or offset and those of one group of
codes as they were among themselves. -/
structure SameOrder (ts us : List Word) : Prop where
  perm : ts.Perm us
  letter : ∀ l ∈ ['X', 'Y', 'I', 'J'], ts.filter (·.letter = l) = us.filter (·.letter = l)
  code : ∀ ns ∈ modalGroups, ts.filter (isCode ns) = us.filter (isCode ns)

variable {ts us : List Word}

theorem isCode_eq {w : Word} (hw : w.numeral.Proper) (ns : List Nat) :
    isCode ns w = (w.letter = 'G' && (w.kept?.bind (among? ns)).isSome) := by
  unfold isCode
  rw [Numeral.value?_eq hw]
  change (_ && Option.any _ w.kept?) = _
  cases w.kept? with
  | none => rfl
  | some v => rw [Option.any_some, Option.bind_some, among?, List.isSome_find?]

/-- The codes of a group are kept from the words that are codes of the group. -/
theorem filterMap_among?_keptOf (hts : ∀ w ∈ ts, w.numeral.Proper) (ns : List Nat) :
    (keptOf 'G' ts).filterMap (among? ns) =
      (ts.filter (isCode ns)).filterMap fun w ↦ w.kept?.bind (among? ns) := by
  rw [keptOf, List.filterMap_filterMap, List.filterMap_filter, List.filterMap_filter]
  refine List.filterMap_congr fun w hw ↦ ?_
  rw [isCode_eq (hts w hw)]
  cases w.kept?.bind (among? ns) <;> simp

theorem SameOrder.keptOf_eq (h : SameOrder ts us) {l : Char} (hl : l ∈ ['X', 'Y', 'I', 'J']) :
    keptOf l ts = keptOf l us := by
  rw [keptOf, keptOf, h.letter l hl]

theorem SameOrder.applyCodes_eq (h : SameOrder ts us) (hts : ∀ w ∈ ts, w.numeral.Proper)
    (s : Modal) : s.applyCodes (keptOf 'G' ts) = s.applyCodes (keptOf 'G' us) := by
  have hus : ∀ w ∈ us, w.numeral.Proper := fun w hw ↦ hts w (h.perm.mem_iff.mpr hw)
  have hmode {μ : Type} (g : ModeGroup μ) (hg : g.codes ∈ modalGroups) :
      g.mode (s.applyCodes (keptOf 'G' ts)) = g.mode (s.applyCodes (keptOf 'G' us)) := by
    rw [g.mode_applyCodes, g.mode_applyCodes]
    unfold ModeGroup.after lastAmong
    rw [filterMap_among?_keptOf hts, filterMap_among?_keptOf hus, h.code _ hg]
  refine Modal.eq_of_modes ?_ (hmode motionGroup (by decide)) (hmode distanceGroup (by decide))
    (hmode unitGroup (by decide))
  rw [Modal.applyCodes_position, Modal.applyCodes_position]

/-- What overwrites nothing may change places. -/
theorem SameOrder.apply_eq (h : SameOrder ts us) (hts : ∀ w ∈ ts, w.numeral.Proper) (s : Modal) :
    s.apply (Block.ofKept ts) = s.apply (Block.ofKept us) := by
  have hblock : Block.ofKept us = { Block.ofKept ts with codes := keptOf 'G' us } := by
    unfold Block.ofKept
    rw [h.keptOf_eq (l := 'X') (by decide), h.keptOf_eq (l := 'Y') (by decide),
      h.keptOf_eq (l := 'I') (by decide), h.keptOf_eq (l := 'J') (by decide), h.perm.countP_eq]
  rw [hblock]
  exact Modal.apply_codes_congr (h.applyCodes_eq hts s)

/-- A code acts in front of the words of other letters as it does behind them. -/
theorem sameOrder_of_code {front mid back : List Word} {g : Word} (hg : g.letter = 'G')
    (hmid : ∀ w ∈ mid, w.letter ≠ 'G') :
    SameOrder (front ++ mid ++ g :: back) (front ++ g :: mid ++ back) where
  perm := by
    rw [List.append_assoc, List.append_assoc]
    exact List.perm_middle.append_left front
  letter l hl := by
    have hne : ¬g.letter = l := by
      rintro rfl
      rw [hg] at hl
      revert hl
      decide
    simp [hne]
  code ns _ := by
    have hnone : mid.filter (isCode ns) = [] := by
      rw [List.filter_eq_nil_iff]
      intro w hw
      simp [isCode, hmid w hw]
    simp [List.filter_cons, hnone]

end Word

namespace Modal

open Word

/-- A line is read as what its words keep, and any spacing sets them apart. They may be put into any order that keeps
those of one coordinate or offset and the codes of one group as they were among themselves. So a code
may stand behind the target of its line as well as in front of it. -/
theorem spacing_and_order {ts us : List Word} {l m : List Char} (hl : Spells ts l) (hm : Spells us m) :
    Block.read? l = (if ts = [] then none else some (Block.ofKept ts)) ∧
      (SameOrder ts us → ∀ s : Modal, s.step l = s.step m) ∧
      ∀ front mid back g, g.letter = 'G' → (∀ w ∈ mid, w.letter ≠ 'G') →
        ts = front ++ mid ++ g :: back → us = front ++ g :: mid ++ back →
          ∀ s : Modal, s.step l = s.step m := by
  have horder (h : SameOrder ts us) (s : Modal) : s.step l = s.step m := by
    rw [step, step, Block.read?_of_spells hl, Block.read?_of_spells hm]
    by_cases hts : ts = []
    · have hus : us = [] := List.nil_perm.mp (hts ▸ h.perm)
      rw [hts, hus]
    · have hus : us ≠ [] := fun hus ↦ hts (List.perm_nil.mp (hus ▸ h.perm))
      rw [if_neg hts, if_neg hus]
      exact h.apply_eq hl.proper s
  refine ⟨Block.read?_of_spells hl, horder, ?_⟩
  rintro front mid back g hg hmid rfl rfl
  exact horder (sameOrder_of_code hg hmid)

/-- A packed line, its words spread out with the code behind the target, and all of them backwards. -/
theorem spacing_and_order_packed :
    let g : Word := ⟨'G', ⟨none, ['2'], none⟩⟩
    let x : Word := ⟨'X', ⟨none, ['5'], none⟩⟩
    let i : Word := ⟨'I', ⟨some '-', [], some ['5']⟩⟩
    let j : Word := ⟨'J', ⟨none, ['0'], none⟩⟩
    let packed := "G2X5I-.5J0".toList
    let spread := " x5 i-.5 g2 j0".toList
    let backwards := "J0I-.5 X5g2".toList
    Spells [g, x, i, j] packed ∧ Spells [x, i, g, j] spread ∧ Spells [j, i, x, g] backwards ∧
      Block.read? packed = some (Block.ofKept [g, x, i, j]) ∧
      SameOrder [j, i, x, g] [g, x, i, j] ∧
      ∀ s : Modal, s.step spread = s.step packed ∧ s.step backwards = s.step packed := by
  intro g x i j packed spread backwards
  have hg : g.Plain := by decide +kernel
  have hx : x.Plain := by decide +kernel
  have hi : i.Plain := by decide +kernel
  have hj : j.Plain := by decide +kernel
  have hend : Spells [] [] := .blanks (by simp)
  have hblank : ∀ c ∈ [' '], isBlank c := List.forall_mem_singleton.mpr (by decide)
  have hpacked := Spells.word [] 'G' (by simp) rfl hg <| .word [] 'X' (by simp) rfl hx <|
    .word [] 'I' (by simp) rfl hi <| .word [] 'J' (by simp) rfl hj hend
  have hspread := Spells.word [' '] 'x' hblank rfl hx <| .word [' '] 'i' hblank rfl hi <|
    .word [' '] 'g' hblank rfl hg <| .word [' '] 'j' hblank rfl hj hend
  have hbackwards := Spells.word [] 'J' (by simp) rfl hj <| .word [] 'I' (by simp) rfl hi <|
    .word [' '] 'X' hblank rfl hx <| .word [] 'g' (by simp) rfl hg hend
  have horder : SameOrder [j, i, x, g] [g, x, i, j] :=
    { perm := List.reverse_perm [g, x, i, j]
      letter := by simp [g, x, i, j]
      code := by decide +kernel }
  exact ⟨hpacked, hspread, hbackwards, (spacing_and_order hpacked hpacked).1, horder, fun s ↦
    ⟨(spacing_and_order hspread hpacked).2.2 [] [x, i] [j] g rfl (by decide +kernel) rfl rfl s,
      (spacing_and_order hbackwards hpacked).2.1 horder s⟩⟩

end Modal

end Toolpath
