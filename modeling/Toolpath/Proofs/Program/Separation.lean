import Toolpath.Proofs.Program.Grammar

/-!
# Words and blanks

A blank is no part of any word, so the words of a text are those in front of a blank and then those
behind it, and trimming a text loses none of them. What a line says about motion is therefore known
from its parts, and a part in which the letter of a word does not occur says nothing with that letter.
-/

namespace Toolpath

/-! ## Blanks -/

theorem blank_spec {c : Char} (h : isBlank c) :
    upperChar c = [c] ∧ Word.isLetter c = false ∧ isDecimalDigit c = false ∧
      c ≠ '+' ∧ c ≠ '-' ∧ c ≠ '.' := by
  -- There are twenty-five of them, and each one is tried.
  have hall : ∀ n ∈ List.range' 9 5 ++ [0x20, 0x85, 0xA0, 0x1680] ++ List.range' 0x2000 11 ++
      [0x2028, 0x2029, 0x202F, 0x205F, 0x3000],
      upperChar (Char.ofNat n) = [Char.ofNat n] ∧ Word.isLetter (Char.ofNat n) = false ∧
        isDecimalDigit (Char.ofNat n) = false ∧ Char.ofNat n ≠ '+' ∧ Char.ofNat n ≠ '-' ∧
        Char.ofNat n ≠ '.' := by
    decide +kernel
  have hmem := hall c.toNat
  rw [Char.ofNat_toNat] at hmem
  apply hmem
  simp only [isBlank, Bool.or_eq_true, Bool.and_eq_true, decide_eq_true_iff] at h
  simp only [List.mem_append, List.mem_range'_1, List.mem_cons, List.not_mem_nil, or_false]
  omega

theorem exists_trim (cs : List Char) : ∃ front back, (∀ c ∈ front, isBlank c) ∧
    (∀ c ∈ back, isBlank c) ∧ cs = front ++ (trim cs ++ back) := by
  refine ⟨cs.takeWhile isBlank, ((trimStart cs).reverse.takeWhile isBlank).reverse,
    fun c hc ↦ List.mem_takeWhile_imp hc,
    fun c hc ↦ List.mem_takeWhile_imp (List.mem_reverse.mp hc), ?_⟩
  unfold trim trimEnd
  rw [← List.reverse_append, List.takeWhile_append_dropWhile, List.reverse_reverse]
  exact List.takeWhile_append_dropWhile.symm

theorem prefix_append_cons_iff {t cs ds : List Char} {b : Char} (h : b ∉ t) :
    t <+: cs ++ b :: ds ↔ t <+: cs := by
  refine ⟨fun ht ↦ ?_, fun ht ↦ ht.trans (List.prefix_append cs _)⟩
  -- Of two beginnings of a text one begins the other, and a longer one would go on with the blank.
  rcases List.prefix_or_prefix_of_prefix ht (List.prefix_append cs _) with hcs | ⟨u, rfl⟩
  · exact hcs
  · rw [List.prefix_append_right_inj] at ht
    cases u with
    | nil => simp
    | cons c u =>
        obtain rfl := (List.cons_prefix_cons.mp ht).1
        simp at h

namespace Word

theorem isBlank_eq_false_of_mem_text {w : Word} (hl : isLetter w.letter) (hn : w.numeral.Proper)
    {c : Char} (h : c ∈ w.text) : isBlank c = false := by
  by_contra hc
  obtain ⟨-, hletter, hdigit, hplus, hminus, hpoint⟩ := blank_spec ((Bool.not_eq_false _).mp hc)
  rw [text, List.mem_cons, Numeral.text_eq, List.mem_append, Option.mem_toList] at h
  rcases h with rfl | h | h
  · rw [hl] at hletter
    cases hletter
  · rcases hn.sign c h with rfl | rfl
    · exact hplus rfl
    · exact hminus rfl
  · rcases hn.isDecimalDigit_or_of_mem_body h with h | rfl
    · rw [h] at hdigit
      cases hdigit
    · exact hpoint rfl

theorem opens_append_blank_iff {w : Word} {cs ds : List Char} {b : Char} (hb : isBlank b) :
    w.Opens (cs ++ b :: ds) ↔ w.Opens cs := by
  have hfront {n : Numeral} (hl : isLetter w.letter) (hn : n.Proper) :
      w.letter :: n.text <+: cs ++ b :: ds ↔ w.letter :: n.text <+: cs := by
    apply prefix_append_cons_iff
    intro hmem
    rw [isBlank_eq_false_of_mem_text (w := ⟨w.letter, n⟩) hl hn hmem] at hb
    cases hb
  constructor
  · rintro ⟨hl, hn, hw, hlongest⟩
    exact ⟨hl, hn, (hfront hl hn).mp hw, fun n hn hw ↦ hlongest n hn ((hfront hl hn).mpr hw)⟩
  · rintro ⟨hl, hn, hw, hlongest⟩
    exact ⟨hl, hn, (hfront hl hn).mpr hw, fun n hn hw ↦ hlongest n hn ((hfront hl hn).mp hw)⟩

/-- The words on both sides of a blank are scanned apart. -/
theorem scan_append_blank {b : Char} (hb : isBlank b) (cs ds : List Char) :
    scan (cs ++ b :: ds) = scan cs ++ scan ds := by
  induction cs with
  | nil => rw [List.nil_append, scan_cons_of_not_isLetter (blank_spec hb).2.1, scan, List.nil_append]
  | cons c cs ih =>
      -- What follows the blank does not matter to a word in front of it.
      have hfront : atFront? (c :: cs ++ b :: ds) = atFront? (c :: cs) := by
        apply Option.ext
        intro w
        rw [atFront?_eq_some_iff, atFront?_eq_some_iff, opens_append_blank_iff hb]
      rw [List.cons_append] at hfront ⊢
      rw [scan_cons, scan_cons, ih, hfront, List.append_assoc]

theorem scan_eq_nil_of_no_letter {cs : List Char} (h : ∀ c ∈ cs, isLetter c = false) :
    scan cs = [] := by
  have hscan := scan_append_of_no_letter h []
  rwa [List.append_nil, scan] at hscan

theorem scan_uppercase_trim (cs : List Char) : scan (uppercase (trim cs)) = scan (uppercase cs) := by
  obtain ⟨front, back, hfront, hback, hcs⟩ := exists_trim cs
  have hupper {ds : List Char} (h : ∀ c ∈ ds, isBlank c) : uppercase ds = ds :=
    uppercase_eq_self fun c hc ↦ (blank_spec (h c hc)).1
  have hletter {ds : List Char} (h : ∀ c ∈ ds, isBlank c) : ∀ c ∈ ds, isLetter c = false :=
    fun c hc ↦ (blank_spec (h c hc)).2.1
  generalize trim cs = middle at hcs
  rw [hcs, uppercase_append, uppercase_append, hupper hfront, hupper hback,
    scan_append_of_no_letter (hletter hfront)]
  cases back with
  | nil => rw [List.append_nil]
  | cons b back =>
      obtain ⟨hb, hback⟩ := List.forall_mem_cons.mp hback
      rw [scan_append_blank hb, scan_eq_nil_of_no_letter (hletter hback), List.append_nil]

theorem letter_mem_of_mem_scan {w : Word} {cs : List Char} (h : w ∈ scan cs) : w.letter ∈ cs := by
  induction cs with
  | nil => simp [scan] at h
  | cons c cs ih =>
      rw [scan_cons, List.mem_append, Option.mem_toList] at h
      rcases h with h | h
      · rw [(List.cons_prefix_cons.mp (atFront?_eq_some_iff.mp h).front).1]
        exact List.mem_cons_self
      · exact List.mem_cons_of_mem c (ih h)

/-! ## The words of a line -/

/-- The words that are scanned on a line. -/
def ofLine (line : List Char) : List Word := scan (uppercase (stripComment line))

theorem ofLine_eq (line : List Char) : ofLine line = scan (uppercase (line.takeWhile (· != ';'))) :=
  scan_uppercase_trim _

theorem ofLine_append_blank {b : Char} (hb : isBlank b) {cs : List Char} (hcs : ∀ c ∈ cs, c ≠ ';')
    (ds : List Char) : ofLine (cs ++ b :: ds) = scan (uppercase cs) ++ ofLine ds := by
  have hsemi : b != ';' := by
    rw [bne_iff_ne]
    rintro rfl
    revert hb
    decide
  rw [ofLine_eq, ofLine_eq, List.takeWhile_append_of_pos (by simpa using hcs),
    List.takeWhile_cons, if_pos hsemi, uppercase_append, uppercase_cons (blank_spec hb).1,
    scan_append_blank hb]

theorem proper_of_mem_scan {w : Word} {cs : List Char} (h : w ∈ scan cs) : w.numeral.Proper := by
  rw [← map_snd_occurrences 0] at h
  obtain ⟨⟨k, w⟩, hkw, rfl⟩ := List.mem_map.mp h
  obtain ⟨m, -, hopens⟩ := mem_occurrences_iff.mp hkw
  exact hopens.proper

/-- The letters of codes and of the coordinates of a target. -/
def IsMotionLetter (letter : Char) : Prop := letter = 'G' ∨ letter = 'X' ∨ letter = 'Y'

theorem keptOf_scan_of_notMem {letter : Char} {cs : List Char} (h : letter ∉ cs) :
    keptOf letter (scan cs) = [] := by
  have hfilter : (scan cs).filter (·.letter = letter) = [] := by
    rw [List.filter_eq_nil_iff]
    intro w hw
    have hmem := letter_mem_of_mem_scan hw
    simp only [decide_eq_true_eq]
    rintro rfl
    exact h hmem
  rw [keptOf, hfilter, List.filterMap_nil]

end Word

namespace Block

open Word

theorem read?_eq_ofKept (line : List Char) : read? line =
    if uppercase (stripComment line) = [] then none else some (ofKept (ofLine line)) := by
  rw [← ofWords_eq_ofKept fun w (hw : w ∈ ofLine line) ↦ proper_of_mem_scan hw]
  unfold read?
  simp only [List.isEmpty_iff]
  rfl

theorem ofLine_eq_nil_of_read?_eq_none {line : List Char} (h : read? line = none) :
    ofLine line = [] := by
  rw [read?_eq_ofKept] at h
  split at h
  next hcode => rw [ofLine, hcode, scan]
  next => cases h

theorem eq_ofKept_of_read? {line : List Char} {b : Block} (h : read? line = some b) :
    b = ofKept (ofLine line) := by
  rw [read?_eq_ofKept] at h
  split at h
  · cases h
  · exact (Option.some.inj h).symm

/-- No code and no coordinate of a target is read on the line. -/
def Inert (line : List Char) : Prop :=
  ∀ b ∈ read? line, b.codes = [] ∧ b.x = none ∧ b.y = none

instance (line : List Char) : Decidable (Inert line) :=
  inferInstanceAs (Decidable (∀ b ∈ read? line, _))

theorem inert_iff {line : List Char} :
    Inert line ↔ ∀ letter, IsMotionLetter letter → keptOf letter (ofLine line) = [] := by
  simp only [IsMotionLetter, forall_eq_or_imp, forall_eq]
  unfold Inert
  cases h : read? line with
  | none => simp [ofLine_eq_nil_of_read?_eq_none h, keptOf]
  | some b =>
      rw [eq_ofKept_of_read? h]
      simp [ofKept]

theorem inert_append_blank_iff {b : Char} (hb : isBlank b) {cs : List Char} (hcs : ∀ c ∈ cs, c ≠ ';')
    (hletters : ∀ letter, IsMotionLetter letter → letter ∉ uppercase cs) (ds : List Char) :
    Inert (cs ++ b :: ds) ↔ Inert ds := by
  rw [inert_iff, inert_iff, ofLine_append_blank hb hcs]
  refine forall₂_congr fun letter hl ↦ ?_
  rw [keptOf_append, keptOf_scan_of_notMem (hletters letter hl), List.nil_append]

end Block

end Toolpath
