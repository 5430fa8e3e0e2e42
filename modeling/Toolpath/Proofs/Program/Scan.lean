import Toolpath.Proofs.Number.Digits
import Toolpath.Proofs.Text.Plain

/-!
# Scanning what was written

A numeral of the grammar is split off again where nothing after it could continue it. Words that are
set apart by blanks are therefore scanned as they were written.
-/

namespace Toolpath

/-! ## Numerals -/

namespace Numeral

/-- A numeral of the grammar: digits stand on one side of the point, and after every point. -/
structure Proper (n : Numeral) : Prop where
  sign : ∀ c ∈ n.sign, c = '+' ∨ c = '-'
  whole : ∀ c ∈ n.whole, isDecimalDigit c
  whole_ne_nil : n.fraction = none → n.whole ≠ []
  fraction : ∀ ds ∈ n.fraction, ds ≠ [] ∧ ∀ c ∈ ds, isDecimalDigit c

/-- All digits are ASCII digits. -/
def Plain (n : Numeral) : Prop :=
  (∀ c ∈ n.whole, isDigit c) ∧ ∀ ds ∈ n.fraction, ∀ c ∈ ds, isDigit c

/-- The grammar as a test of the parts of a numeral. -/
theorem proper_iff_all {n : Numeral} : n.Proper ↔
    n.sign.all (fun c ↦ c = '+' ∨ c = '-') ∧ n.whole.all isDecimalDigit ∧
      (n.fraction = none → n.whole ≠ []) ∧
      n.fraction.all fun ds ↦ ds ≠ [] ∧ ds.all isDecimalDigit := by
  simp only [Option.all_eq_true, List.all_eq_true, decide_eq_true_eq]
  exact ⟨fun ⟨hs, hw, hn, hf⟩ ↦ ⟨hs, hw, hn, hf⟩, fun ⟨hs, hw, hn, hf⟩ ↦ ⟨hs, hw, hn, hf⟩⟩

theorem plain_iff_all {n : Numeral} :
    n.Plain ↔ (n.whole.all isDigit && (n.fraction.getD []).all isDigit) = true := by
  unfold Plain
  cases n.fraction <;> simp

instance (n : Numeral) : Decidable n.Proper := decidable_of_iff' _ proper_iff_all

instance (n : Numeral) : Decidable n.Plain := decidable_of_iff' _ plain_iff_all

/-- A text that does not continue a numeral in front of it. -/
def Stops (rest : List Char) : Prop :=
  ∀ c ∈ rest.head?, isDecimalDigit c = false ∧ c ≠ '.'

theorem stops_nil : Stops [] := by
  simp [Stops]

theorem stops_blank (rest : List Char) : Stops (' ' :: rest) := by
  intro c hc
  obtain rfl : ' ' = c := by simpa using hc
  decide

/-- The digits and the point of a numeral, without its sign. -/
def body (n : Numeral) : List Char :=
  n.whole ++ match n.fraction with | none => [] | some ds => '.' :: ds

theorem text_eq (n : Numeral) : n.text = n.sign.toList ++ n.body := by
  rcases n with ⟨sign, whole, _ | ds⟩ <;> simp [text, body]

theorem mem_body {n : Numeral} {c : Char} :
    c ∈ n.body ↔ c ∈ n.whole ∨ ∃ ds ∈ n.fraction, c = '.' ∨ c ∈ ds := by
  rcases n with ⟨sign, whole, _ | ds⟩ <;> simp [body]

theorem Proper.isDecimalDigit_or_of_mem_body {n : Numeral} (hn : n.Proper) {c : Char}
    (h : c ∈ n.body) : isDecimalDigit c ∨ c = '.' := by
  rcases mem_body.mp h with h | ⟨ds, hds, rfl | h⟩
  · exact Or.inl (hn.whole c h)
  · exact Or.inr rfl
  · exact Or.inl ((hn.fraction ds hds).2 c h)

theorem Proper.exists_body_eq_cons {n : Numeral} (hn : n.Proper) :
    ∃ c cs, n.body = c :: cs ∧ (isDecimalDigit c ∨ c = '.') := by
  unfold body
  cases hw : n.whole with
  | cons c cs => exact ⟨c, _, rfl, Or.inl (hn.whole c (by simp [hw]))⟩
  | nil =>
      cases hf : n.fraction with
      | none => exact absurd hw (hn.whole_ne_nil hf)
      | some ds => exact ⟨'.', ds, rfl, Or.inr rfl⟩

theorem splitDigits?_body_append {n : Numeral} (hn : n.Proper) {rest : List Char}
    (hrest : Stops rest) (sign : Option Char) :
    splitDigits? sign (n.body ++ rest) = some (⟨sign, n.whole, n.fraction⟩, rest) := by
  unfold splitDigits? body
  cases hf : n.fraction with
  | none =>
      obtain ⟨htake, hdrop⟩ := takeWhile_append_of_stops hn.whole rest fun c hc ↦ (hrest c hc).1
      have hwhole : n.whole.isEmpty = false := by simpa using hn.whole_ne_nil hf
      simp only [List.append_nil, htake, hdrop, hwhole]
      split
      next tail => exact absurd rfl (hrest '.' rfl).2
      next => rfl
  | some ds =>
      obtain ⟨hne, hds⟩ := hn.fraction ds hf
      obtain ⟨htake, hdrop⟩ := takeWhile_append_of_stops hn.whole ('.' :: (ds ++ rest))
        (by simp; decide)
      obtain ⟨htake', hdrop'⟩ := takeWhile_append_of_stops hds rest fun c hc ↦ (hrest c hc).1
      have hempty : ds.isEmpty = false := by simpa using hne
      simp [htake, hdrop, htake', hdrop', hempty]

theorem splitSign_text_append {n : Numeral} (hn : n.Proper) (rest : List Char) :
    splitSign (n.text ++ rest) = (n.sign, n.body ++ rest) := by
  rw [text_eq]
  cases hs : n.sign with
  | some c =>
      rcases hn.sign c hs with rfl | rfl <;> rfl
  | none =>
      obtain ⟨c, cs, hbody, hc⟩ := hn.exists_body_eq_cons
      have hplus : c ≠ '+' := by
        rintro rfl
        revert hc
        decide
      have hminus : c ≠ '-' := by
        rintro rfl
        revert hc
        decide
      rw [hbody]
      simp [splitSign, hplus, hminus]

theorem split?_text_append {n : Numeral} (hn : n.Proper) {rest : List Char} (hrest : Stops rest) :
    split? (n.text ++ rest) = some (n, rest) := by
  unfold split?
  rw [splitSign_text_append hn]
  exact splitDigits?_body_append hn hrest n.sign

/-- The text of a numeral determines it. -/
theorem Proper.eq_of_text_eq {m n : Numeral} (hm : m.Proper) (hn : n.Proper)
    (h : m.text = n.text) : m = n := by
  have hm := split?_text_append hm stops_nil
  rw [h, split?_text_append hn stops_nil] at hm
  exact (Prod.mk.inj (Option.some.inj hm)).1.symm

/-! ## Values -/

def decimal (n : Numeral) : Decimal :=
  .ofDigits (n.sign == some '-') n.whole (n.fraction.getD []) 0

theorem decimal?_of_plain {n : Numeral} (hp : n.Plain) : n.decimal? = some n.decimal := by
  obtain ⟨hwhole, hfraction⟩ := hp
  have hall : ∀ c ∈ n.fraction.getD [], isDigit c := by
    cases hf : n.fraction with
    | none => simp
    | some ds => exact hfraction ds hf
  unfold decimal?
  dsimp only
  rw [if_pos (by simpa using ⟨hwhole, hall⟩)]
  rfl

theorem value?_of_plain {n : Numeral} (hp : n.Plain) (hfin : n.decimal.toBinary64.isFinite) :
    n.value? = some n.decimal.toBinary64 := by
  unfold value?
  rw [decimal?_of_plain hp, Option.map_some, Option.filter_some, if_pos hfin]

theorem isDigit_or_of_mem_body {n : Numeral} (hp : n.Plain) {c : Char} (h : c ∈ n.body) :
    isDigit c ∨ c = '.' := by
  rcases mem_body.mp h with h | ⟨ds, hds, rfl | h⟩
  · exact Or.inl (hp.1 c h)
  · exact Or.inr rfl
  · exact Or.inl (hp.2 ds hds c h)

end Numeral

/-! ## Words -/

namespace Word

def text (w : Word) : List Char := w.letter :: w.numeral.text

/-- Words with single blanks between them. -/
def line (ws : List Word) : List Char := [' '].intercalate (ws.map text)

theorem line_nil : line [] = [] := rfl

theorem line_singleton (w : Word) : line [w] = w.text := by
  simp [line]

theorem line_cons_cons (w v : Word) (ws : List Word) :
    line (w :: v :: ws) = w.text ++ ' ' :: line (v :: ws) := by
  simp [line]

theorem exists_line_eq_cons (w : Word) (ws : List Word) :
    ∃ cs, line (w :: ws) = w.letter :: cs := by
  cases ws with
  | nil => exact ⟨_, line_singleton w⟩
  | cons v ws => exact ⟨_, line_cons_cons w v ws⟩

theorem scan_cons_of_not_isLetter {c : Char} (h : isLetter c = false) (cs : List Char) :
    scan (c :: cs) = scan cs := by
  rw [scan, if_neg (by simp [h])]

theorem scan_text_append {w : Word} (hl : isLetter w.letter) (hn : w.numeral.Proper)
    {rest : List Char} (hrest : Numeral.Stops rest) :
    scan (w.text ++ rest) = w :: scan rest := by
  have hsplit := Numeral.split?_text_append hn hrest
  rw [text, List.cons_append, scan, if_pos hl]
  split
  next m rest' h =>
    rw [hsplit] at h
    obtain ⟨rfl, rfl⟩ := Prod.mk.inj (Option.some.inj h)
    rfl
  next h =>
    rw [hsplit] at h
    cases h

/-- A line of words is scanned as it was written. -/
theorem scan_line {ws : List Word} (h : ∀ w ∈ ws, isLetter w.letter ∧ w.numeral.Proper) :
    scan (line ws) = ws := by
  induction ws with
  | nil => simp [line, scan]
  | cons w ws ih =>
      obtain ⟨hl, hn⟩ := h w List.mem_cons_self
      have ih := ih fun v hv ↦ h v (List.mem_cons_of_mem w hv)
      cases ws with
      | nil =>
          have hw := scan_text_append hl hn Numeral.stops_nil
          simpa [line_singleton, scan] using hw
      | cons v vs =>
          rw [line_cons_cons, scan_text_append hl hn (Numeral.stops_blank _),
            scan_cons_of_not_isLetter (by decide), ih]

/-- A word in ASCII characters. -/
structure Plain (w : Word) : Prop where
  letter : isLetter w.letter
  proper : w.numeral.Proper
  digits : w.numeral.Plain

instance (w : Word) : Decidable w.Plain :=
  decidable_of_iff (isLetter w.letter ∧ w.numeral.Proper ∧ w.numeral.Plain)
    ⟨fun ⟨hl, hp, hd⟩ ↦ ⟨hl, hp, hd⟩, fun ⟨hl, hp, hd⟩ ↦ ⟨hl, hp, hd⟩⟩

theorem isPlain_of_mem_text {w : Word} (hw : w.Plain) {c : Char} (h : c ∈ w.text) :
    isPlain c := by
  unfold isPlain
  rw [text, List.mem_cons, Numeral.text_eq, List.mem_append, Option.mem_toList] at h
  rcases h with rfl | h | h
  · simp [hw.letter]
  · rcases hw.proper.sign c h with rfl | rfl <;> decide
  · rcases Numeral.isDigit_or_of_mem_body hw.digits h with h | rfl
    · simp [h]
    · decide

theorem mem_line {ws : List Word} {c : Char} (h : c ∈ line ws) :
    (∃ w ∈ ws, c ∈ w.text) ∨ c = ' ' := by
  induction ws with
  | nil => simp [line_nil] at h
  | cons w ws ih =>
      cases ws with
      | nil => exact Or.inl ⟨w, List.mem_cons_self, by rwa [line_singleton] at h⟩
      | cons v vs =>
          rw [line_cons_cons, List.mem_append, List.mem_cons] at h
          rcases h with h | h | h
          · exact Or.inl ⟨w, List.mem_cons_self, h⟩
          · exact Or.inr h
          · rcases ih h with ⟨u, hu, hc⟩ | hc
            · exact Or.inl ⟨u, List.mem_cons_of_mem w hu, hc⟩
            · exact Or.inr hc

theorem isPlain_of_mem_getLast?_line {ws : List Word} (h : ∀ w ∈ ws, w.Plain) {c : Char}
    (hc : c ∈ (line ws).getLast?) : isPlain c := by
  induction ws with
  | nil => simp [line_nil] at hc
  | cons w ws ih =>
      cases ws with
      | nil =>
          rw [line_singleton] at hc
          exact isPlain_of_mem_text (h w List.mem_cons_self) (List.mem_of_getLast? hc)
      | cons v vs =>
          have ih := ih fun u hu ↦ h u (List.mem_cons_of_mem w hu)
          obtain ⟨cs, hcs⟩ := exists_line_eq_cons v vs
          rw [hcs] at ih
          rw [line_cons_cons, hcs, List.getLast?_append, List.getLast?_cons_cons] at hc
          exact ih (by simpa using hc)

theorem line_spec {ws : List Word} (h : ∀ w ∈ ws, w.Plain) {c : Char} (hc : c ∈ line ws) :
    upperChar c = [c] ∧ c ≠ ';' ∧ c ≠ '\n' ∧ c ≠ '\r' := by
  rcases mem_line hc with ⟨w, hw, hc⟩ | rfl
  · obtain ⟨hup, -, hrest⟩ := plain_spec (isPlain_of_mem_text (h w hw) hc)
    exact ⟨hup, hrest⟩
  · decide

end Word

/-! ## Blocks -/

namespace Block

theorem add_code {w : Word} {v : Binary64} (hl : w.letter = 'G')
    (hv : w.numeral.value? = some v) (b : Block) : b.add w = { b with codes := b.codes ++ [v] } := by
  unfold add
  rw [hv, hl]
  rfl

theorem add_x {w : Word} {v : Binary64} (hl : w.letter = 'X')
    (hv : w.numeral.value? = some v) (b : Block) : b.add w = { b with x := some v } := by
  unfold add
  rw [hv, hl]
  rfl

theorem add_y {w : Word} {v : Binary64} (hl : w.letter = 'Y')
    (hv : w.numeral.value? = some v) (b : Block) : b.add w = { b with y := some v } := by
  unfold add
  rw [hv, hl]
  rfl

/-- A line of plain words is read word by word. -/
theorem read?_line {ws : List Word} (hne : ws ≠ []) (h : ∀ w ∈ ws, w.Plain) :
    read? (Word.line ws) = some (ofWords ws) := by
  have hspec {c : Char} (hc : c ∈ Word.line ws) := Word.line_spec h hc
  have hstrip : stripComment (Word.line ws) = Word.line ws := by
    refine stripComment_eq_self (fun c hc ↦ (hspec hc).2.1) ?_
      fun c hc ↦ (plain_spec (Word.isPlain_of_mem_getLast?_line h hc)).2.1
    cases ws with
    | nil => exact absurd rfl hne
    | cons w ws =>
        obtain ⟨cs, hcs⟩ := Word.exists_line_eq_cons w ws
        have hletter : isPlain w.letter := by simp [isPlain, (h w List.mem_cons_self).letter]
        rw [hcs]
        intro c hc
        obtain rfl : w.letter = c := by simpa using hc
        exact (plain_spec hletter).2.1
  have hscan := Word.scan_line fun w hw ↦ ⟨(h w hw).letter, (h w hw).proper⟩
  have hempty : (Word.line ws).isEmpty = false := by
    cases hl : Word.line ws with
    | nil =>
        rw [hl, Word.scan] at hscan
        exact absurd hscan.symm hne
    | cons c cs => rfl
  unfold read?
  rw [hstrip, uppercase_eq_self fun c hc ↦ (hspec hc).1]
  dsimp only
  rw [hempty, hscan]
  rfl

end Block

end Toolpath
