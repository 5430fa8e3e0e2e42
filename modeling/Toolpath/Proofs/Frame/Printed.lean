import Toolpath.Proofs.Frame.Reframe
import Toolpath.Proofs.Program.Grammar

/-!
# Scanning what was printed

A finite coordinate is printed as a numeral, and the scanner finds its word again. An infinite one is
printed as letters with no numeral behind them, so the scanner passes over it, and a command that
prints one has no target.
-/

namespace Toolpath

/-- An infinite coordinate is printed as a word, and so is an absent one. -/
theorem coordText_of_not_isFinite {v : Binary64} (h : v.isFinite = false) :
    coordText v ∈ [['N', 'a', 'N'], ['i', 'n', 'f'], ['-', 'i', 'n', 'f']] := by
  cases v with
  | nan => decide +kernel
  | infinity negative => cases negative <;> decide +kernel
  | finite s m p hc => cases h

theorem wordText_spec (v : Binary64) : ∀ c ∈ wordText v, isBlank c = false ∧ c ≠ ';' := by
  have hall : (wordText v).all (fun c ↦ !isBlank c && c != ';') := by
    cases v with
    | infinity negative => cases negative <;> decide +kernel
    | nan => decide +kernel
    | finite s m p h =>
        change ['N', 'a', 'N'].all (fun c ↦ !isBlank c && c != ';')
        decide +kernel
  simpa using hall

/-- No printed number holds a blank or begins a comment. -/
theorem fixedText_spec {places : Nat} (hp : 0 < places) (v : Binary64) :
    ∀ c ∈ fixedText places v, isBlank c = false ∧ c ≠ ';' := by
  intro c hc
  cases hv : v.isFinite with
  | true =>
      have hplain : Word.Plain ⟨'F', .ofPlaces v.isNegative places (v.scaled places)⟩ :=
        ⟨(by decide : Word.isLetter 'F'), Numeral.proper_ofPlaces _ hp _, Numeral.plain_ofPlaces _ _ _⟩
      rw [fixedText_eq places hv] at hc
      obtain ⟨-, hblank, hsemi, -⟩ :=
        plain_spec (Word.isPlain_of_mem_text hplain (List.mem_cons_of_mem _ hc))
      exact ⟨hblank, hsemi⟩
  | false =>
      rw [fixedText, hv, if_neg Bool.false_ne_true] at hc
      exact wordText_spec v c hc

theorem coordText_spec (v : Binary64) : ∀ c ∈ coordText v, isBlank c = false ∧ c ≠ ';' := by
  unfold coordText
  dsimp only
  split
  · have hall : ['0', '.', '0', '0', '0'].all (fun c ↦ !isBlank c && c != ';') := by decide
    simpa using hall
  · exact fixedText_spec (by norm_num) v

namespace Word

theorem scan_cons_of_split?_eq_none {cs : List Char} (h : Numeral.split? cs = none) (c : Char) :
    scan (c :: cs) = scan cs := by
  rw [scan_cons, atFront?, h]
  simp

/-- The words that are found in a letter with a printed coordinate. -/
def printed (letter : Char) (v : Binary64) : List Word :=
  if v.isFinite then [coordinate letter v] else []

theorem scan_coordText {letter : Char} (hl : isLetter letter) (v : Binary64) {rest : List Char}
    (hstop : Numeral.Stops rest) (hnone : Numeral.split? rest = none) :
    scan (letter :: uppercase (coordText v) ++ rest) = printed letter v ++ scan rest := by
  unfold printed
  cases hv : v.isFinite with
  | true =>
      have hplain := plain_coordinate hl v
      have hupper : uppercase (coordText v) = (coordinate letter v).numeral.text := by
        rw [coordText_eq hv, uppercase_eq_self]
        · rfl
        · intro c hc
          exact (plain_spec (isPlain_of_mem_text hplain (List.mem_cons_of_mem _ hc))).1
      rw [if_pos rfl, hupper]
      exact scan_text_append hplain.letter hplain.proper hstop
  | false =>
      -- No letter of the word that was printed has a numeral behind it.
      have hskip (c : Char) {cs : List Char} (h : Numeral.split? cs = none) :=
        scan_cons_of_split?_eq_none h c
      have hnan : uppercase ['N', 'a', 'N'] = ['N', 'A', 'N'] := by decide +kernel
      have hinf : uppercase ['i', 'n', 'f'] = ['I', 'N', 'F'] := by decide +kernel
      have hneg : uppercase ['-', 'i', 'n', 'f'] = ['-', 'I', 'N', 'F'] := by decide +kernel
      have htext := coordText_of_not_isFinite hv
      simp only [List.mem_cons, List.not_mem_nil, or_false] at htext
      rw [if_neg Bool.false_ne_true, List.nil_append]
      rcases htext with h | h | h
      · rw [h, hnan]
        simp only [List.cons_append, List.nil_append]
        rw [hskip _ rfl, hskip _ rfl, hskip _ rfl, hskip _ hnone]
      · rw [h, hinf]
        simp only [List.cons_append, List.nil_append]
        rw [hskip _ rfl, hskip _ rfl, hskip _ rfl, hskip _ hnone]
      · rw [h, hneg]
        simp only [List.cons_append, List.nil_append]
        rw [hskip _ rfl, hskip _ rfl, hskip _ rfl, hskip _ rfl, hskip _ hnone]

/-- A code with a target as it is printed. -/
def command (digits : List Char) (p : Point) : List Char :=
  (code digits).text ++ ' ' :: ('X' :: coordText p.x ++ ' ' :: ('Y' :: coordText p.y))

theorem stripComment_command {digits : List Char} {v : Binary64} (hv : Writes digits v)
    (p : Point) : stripComment (command digits p) = command digits p := by
  have hx := coordText_spec p.x
  have hy := coordText_spec p.y
  apply stripComment_eq_self
  · intro c hc
    simp only [command, List.mem_append, List.mem_cons] at hc
    rcases hc with hc | rfl | (rfl | hc) | rfl | rfl | hc
    · exact (plain_spec (isPlain_of_mem_text hv.plain hc)).2.2.1
    · decide
    · decide
    · exact (hx c hc).2
    · decide
    · decide
    · exact (hy c hc).2
  · intro c hc
    obtain rfl : 'G' = c := by simpa [command, text, code] using hc
    decide
  · intro c hc
    have hmem : c ∈ 'Y' :: coordText p.y := by
      apply List.mem_of_getLast?
      rw [← hc]
      simp [command, List.getLast?_append, List.getLast?_cons]
    rcases List.mem_cons.mp hmem with rfl | hmem
    · decide
    · exact (hy c hmem).1

theorem scan_uppercase_command {digits : List Char} {v : Binary64} (hv : Writes digits v)
    (p : Point) : scan (uppercase (command digits p)) =
      code digits :: (printed 'X' p.x ++ printed 'Y' p.y) := by
  have hcode : uppercase (code digits).text = (code digits).text :=
    uppercase_eq_self fun c hc ↦ (plain_spec (isPlain_of_mem_text hv.plain hc)).1
  have hupper : uppercase (command digits p) = (code digits).text ++
      ' ' :: ('X' :: uppercase (coordText p.x) ++ ' ' :: ('Y' :: uppercase (coordText p.y))) := by
    unfold command
    rw [uppercase_append, hcode, uppercase_cons (by decide), uppercase_append,
      uppercase_cons (by decide), uppercase_cons (by decide), uppercase_cons (by decide)]
  have hy := scan_coordText (show isLetter 'Y' by decide) p.y Numeral.stops_nil rfl
  rw [List.append_nil, scan, List.append_nil] at hy
  rw [hupper, scan_text_append hv.plain.letter hv.plain.proper (Numeral.stops_blank _),
    scan_cons_of_not_isLetter (by decide),
    scan_coordText (by decide) p.x (Numeral.stops_blank _) rfl,
    scan_cons_of_not_isLetter (by decide), hy]

end Word

namespace Block

theorem read?_command {digits : List Char} {v : Binary64} (hv : Word.Writes digits v) (p : Point) :
    read? (Word.command digits p) =
      some (ofWords (Word.code digits :: (Word.printed 'X' p.x ++ Word.printed 'Y' p.y))) := by
  have hscan := Word.scan_uppercase_command hv p
  unfold read?
  rw [Word.stripComment_command hv]
  dsimp only
  split
  next hempty =>
    rw [List.isEmpty_iff.mp hempty, Word.scan] at hscan
    cases hscan
  next => rw [hscan]

/-- A target is read where both of its coordinates are finite. -/
theorem target_command_iff {digits : List Char} {v : Binary64} (hv : Word.Writes digits v)
    (p : Point) : (∃ b, read? (Word.command digits p) = some b ∧ b.x.isSome ∧ b.y.isSome) ↔
      p.Finite := by
  have hx (h : p.x.isFinite) := add_x (w := Word.coordinate 'X' p.x) rfl (Word.value?_coordinate h 'X')
  have hy (h : p.y.isFinite) := add_y (w := Word.coordinate 'Y' p.y) rfl (Word.value?_coordinate h 'Y')
  have hg := add_code rfl hv.value
  rw [read?_command hv]
  unfold ofWords Word.printed Point.Finite
  cases hpx : p.x.isFinite <;> cases hpy : p.y.isFinite <;>
    simp [hpx, hpy, hx, hy, hg]

end Block

/-! ## Outlines -/

namespace Outline

/-- A rapid or a feed move. -/
def IsMotion (command : String) : Prop :=
  ['G', '0', ' '] <+: command.toList ∨ ['G', '1', ' '] <+: command.toList

instance (command : String) : Decidable (IsMotion command) := inferInstanceAs (Decidable (_ ∨ _))

/-- A number is read after X and after Y. -/
def Readable (command : String) : Prop :=
  ∃ b, Block.read? command.toList = some b ∧ b.x.isSome ∧ b.y.isSome

theorem readable_append_targetWords {head : String} {digits : List Char} {v : Binary64}
    (hv : Word.Writes digits v) (hhead : head.toList = 'G' :: digits ++ [' ']) (p : Point) :
    Readable (head ++ targetWords p) ↔ p.Finite := by
  have htext : (head ++ targetWords p).toList = Word.command digits p := by
    simp [hhead, targetWords, coord, Word.command, Word.text, Word.code, Numeral.text]
  rw [Readable, htext]
  exact Block.target_command_iff hv p

theorem mem_commands_ofBox {b : Box} {u : Option LengthUnit} {c : String} :
    c ∈ (ofBox b u).commands ↔ (∃ v ∈ u, c = v.command) ∨ c = "G90" ∨
      c = "G0 " ++ targetWords b.min ∨ ∃ q ∈ b.corners.tail, c = "G1 " ++ targetWords q := by
  cases u <;> simp [ofBox, Box.corners]

theorem not_isMotion_mode {c : String} {u : Option LengthUnit}
    (h : (∃ v ∈ u, c = v.command) ∨ c = "G90") : ¬IsMotion c := by
  rcases h with ⟨v, -, rfl⟩ | rfl
  · cases v <;> decide +kernel
  · decide +kernel

theorem isMotion_append_targetWords {head : String} (h : head = "G0 " ∨ head = "G1 ") (p : Point) :
    IsMotion (head ++ targetWords p) := by
  rcases h with rfl | rfl
  · exact Or.inl ⟨(targetWords p).toList, by simp⟩
  · exact Or.inr ⟨(targetWords p).toList, by simp⟩

/-- An outline can be scanned exactly where its box is finite. -/
theorem readable_iff (b : Box) (u : Option LengthUnit) :
    (∀ c ∈ (ofBox b u).commands, IsMotion c → Readable c) ↔ b.Finite := by
  have hrapid (p : Point) : Readable ("G0 " ++ targetWords p) ↔ p.Finite :=
    readable_append_targetWords Word.writes_zero (by decide +kernel) p
  have hfeed (p : Point) : Readable ("G1 " ++ targetWords p) ↔ p.Finite :=
    readable_append_targetWords Word.writes_one (by decide +kernel) p
  constructor
  · intro h
    constructor
    · rw [← hrapid]
      apply h _ (mem_commands_ofBox.mpr (Or.inr (Or.inr (Or.inl rfl))))
      exact isMotion_append_targetWords (Or.inl rfl) _
    · rw [← hfeed]
      apply h _ (mem_commands_ofBox.mpr (Or.inr (Or.inr (Or.inr ⟨b.max, ?_, rfl⟩))))
      · exact isMotion_append_targetWords (Or.inr rfl) _
      · simp [Box.corners]
  · intro hb c hc hmotion
    rcases mem_commands_ofBox.mp hc with hmode | hmode | rfl | ⟨q, hq, rfl⟩
    · exact absurd hmotion (not_isMotion_mode (Or.inl hmode))
    · exact absurd hmotion (not_isMotion_mode (u := u) (Or.inr hmode))
    · exact (hrapid b.min).mpr hb.1
    · exact (hfeed q).mpr (Box.finite_of_mem_corners hb.1 hb.2 (List.mem_of_mem_tail hq))

end Outline

end Toolpath
