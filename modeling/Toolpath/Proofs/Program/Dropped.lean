import Toolpath.Proofs.Number.Exact
import Toolpath.Proofs.Program.Layout
import Toolpath.Proofs.Program.Separation

/-!
# Words without a value

A numeral has a value unless it is written with digits outside ASCII or its number is too great for a
double, and its value is the double nearest to its number. A word whose numeral has none leaves no trace
but its count: the rest of the line is scanned as if there were a space instead of the word.
-/

namespace Toolpath

namespace Numeral

/-! ## Values -/

/-- A digit of the numeral is not one of the ten ASCII digits, or its number is rounded beyond the
greatest double. -/
def Unrepresentable (n : Numeral) : Prop :=
  (∃ c ∈ n.text, isDecimalDigit c ∧ isDigit c = false) ∨
    (Binary64.overflowBound : ℚ) ≤ |n.decimal.value|

-- The digit is looked for in the text and not among all characters.
instance (n : Numeral) : Decidable n.Unrepresentable :=
  @instDecidableOr _ _ (List.decidableBEx _ _) inferInstance

theorem Proper.plain_iff {n : Numeral} (hn : n.Proper) :
    n.Plain ↔ ¬∃ c ∈ n.text, isDecimalDigit c ∧ isDigit c = false := by
  rw [text_eq]
  constructor
  · rintro hp ⟨c, hc, hdecimal, hdigit⟩
    rw [List.mem_append, Option.mem_toList] at hc
    rcases hc with hc | hc
    · rcases hn.sign c hc with rfl | rfl <;> revert hdecimal <;> decide
    · rcases isDigit_or_of_mem_body hp hc with h | rfl
      · rw [h] at hdigit
        cases hdigit
      · revert hdecimal
        decide
  · intro h
    have hdigit {c : Char} (hc : c ∈ n.body) (hdecimal : isDecimalDigit c) : isDigit c := by
      by_contra hdigit
      exact h ⟨c, List.mem_append_right _ hc, hdecimal, by simpa using hdigit⟩
    exact ⟨fun c hc ↦ hdigit (mem_body.mpr (Or.inl hc)) (hn.whole c hc), fun ds hds c hc ↦
      hdigit (mem_body.mpr (Or.inr ⟨ds, hds, Or.inr hc⟩)) ((hn.fraction ds hds).2 c hc)⟩

theorem decimal?_eq_ite (n : Numeral) : n.decimal? =
    if n.whole.all isDigit && (n.fraction.getD []).all isDigit then some n.decimal else none := rfl

theorem value?_eq_some_iff {n : Numeral} {v : Binary64} : n.value? = some v ↔
    n.Plain ∧ n.decimal.toBinary64.isFinite ∧ v = n.decimal.toBinary64 := by
  constructor
  · intro h
    obtain ⟨hmap, hfin⟩ := Option.filter_eq_some_iff.mp h
    obtain ⟨d, hd, rfl⟩ := Option.map_eq_some_iff.mp hmap
    rw [decimal?_eq_ite] at hd
    split at hd
    next hall =>
      obtain rfl := Option.some.inj hd
      exact ⟨plain_iff_all.mpr hall, hfin, rfl⟩
    next => cases hd
  · rintro ⟨hp, hfin, rfl⟩
    exact value?_of_plain hp hfin

theorem value?_eq_none_iff {n : Numeral} (hn : n.Proper) : n.value? = none ↔ n.Unrepresentable := by
  rw [← not_iff_not, Unrepresentable, not_or, ← hn.plain_iff, not_le,
    ← Decimal.isFinite_toBinary64_iff, Option.eq_none_iff_forall_ne_some, not_forall_not]
  constructor
  · rintro ⟨v, h⟩
    obtain ⟨hp, hfin, -⟩ := value?_eq_some_iff.mp h
    exact ⟨hp, hfin⟩
  · rintro ⟨hp, hfin⟩
    exact ⟨_, value?_of_plain hp hfin⟩

/-- The value of a numeral is the one double nearest to its number that has its sign. -/
theorem eq_value?_iff_isNearest {n : Numeral} {v : Binary64} (h : n.value? = some v) (u : Binary64) :
    u = v ↔ u.IsNearest n.decimal.value ∧ u.isNegative = (n.sign == some '-') := by
  obtain ⟨-, hfin, rfl⟩ := value?_eq_some_iff.mp h
  have hnearest := Decimal.isNearest_toBinary64 hfin
  have hsign := n.decimal.isNegative_toBinary64
  constructor
  · rintro rfl
    exact ⟨hnearest, hsign⟩
  · rintro ⟨hu, hus⟩
    exact Binary64.eq_of_ticks_eq (Binary64.ne_nan_of_isFinite hu.finite)
      (Binary64.ne_nan_of_isFinite hfin) (hu.ticks_eq hnearest) (hus.trans hsign.symm)

end Numeral

namespace Word

/-! ## Leaving words out -/

variable (p : Word → Bool)

/-- The text with a space instead of each of its words that has the property. -/
def leaveOut : List Char → List Char
  | [] => []
  | c :: cs =>
    match atFront? (c :: cs) with
    | some w => if p w then ' ' :: leaveOut (cs.drop w.numeral.text.length) else c :: leaveOut cs
    | none => c :: leaveOut cs
termination_by cs => cs.length
decreasing_by all_goals simp

theorem leaveOut_cons_of_atFront? {c : Char} {cs : List Char} {w : Word}
    (h : atFront? (c :: cs) = some w) (hp : p w) :
    isLetter c ∧ ∃ rest, cs = w.numeral.text ++ rest ∧ leaveOut p (c :: cs) = ' ' :: leaveOut p rest := by
  have hopens := atFront?_eq_some_iff.mp h
  obtain ⟨hc, rest, hcs⟩ := List.cons_prefix_cons.mp hopens.front
  refine ⟨hc ▸ hopens.letter, rest, hcs.symm, ?_⟩
  rw [leaveOut, h]
  dsimp only
  rw [if_pos hp, ← hcs, List.drop_left]

theorem leaveOut_cons_of_forall {c : Char} {cs : List Char}
    (h : ∀ w, atFront? (c :: cs) = some w → p w = false) :
    leaveOut p (c :: cs) = c :: leaveOut p cs := by
  rw [leaveOut]
  split
  next w hw => rw [if_neg (by simp [h w hw])]
  next => rfl

/-- What begins with no letter and no space begins the text that is left just as well. -/
theorem prefix_leaveOut_iff {t : List Char} (ht : ∀ c ∈ t, isLetter c = false ∧ c ≠ ' ')
    (cs : List Char) : t <+: leaveOut p cs ↔ t <+: cs := by
  induction t generalizing cs with
  | nil => simp
  | cons x t ih =>
      obtain ⟨⟨hletter, hspace⟩, ht⟩ := List.forall_mem_cons.mp ht
      cases cs with
      | nil => rw [leaveOut]
      | cons c cs =>
          by_cases h : ∃ w, atFront? (c :: cs) = some w ∧ p w
          · obtain ⟨w, hw, hp⟩ := h
            obtain ⟨hc, rest, -, hleave⟩ := leaveOut_cons_of_atFront? p hw hp
            rw [hleave, List.cons_prefix_cons, List.cons_prefix_cons]
            refine iff_of_false (fun h ↦ hspace h.1) ?_
            rintro ⟨rfl, -⟩
            rw [hc] at hletter
            cases hletter
          · rw [leaveOut_cons_of_forall p (by simpa using h), List.cons_prefix_cons,
              List.cons_prefix_cons, ih ht]

theorem atFront?_leaveOut (c : Char) (cs : List Char) :
    atFront? (c :: leaveOut p cs) = atFront? (c :: cs) := by
  have hfront {l : Char} {n : Numeral} (hl : isLetter l) (hn : n.Proper) :
      l :: n.text <+: c :: leaveOut p cs ↔ l :: n.text <+: c :: cs := by
    rw [List.cons_prefix_cons, List.cons_prefix_cons, prefix_leaveOut_iff]
    intro d hd
    refine ⟨isLetter_eq_false_of_mem_text hn hd, ?_⟩
    rintro rfl
    have := isBlank_eq_false_of_mem_text (w := ⟨l, n⟩) hl hn (List.mem_cons_of_mem l hd)
    revert this
    decide
  apply Option.ext
  intro w
  rw [atFront?_eq_some_iff, atFront?_eq_some_iff]
  constructor
  · rintro ⟨hl, hn, hw, hlongest⟩
    exact ⟨hl, hn, (hfront hl hn).mp hw, fun m hm hw ↦ hlongest m hm ((hfront hl hm).mpr hw)⟩
  · rintro ⟨hl, hn, hw, hlongest⟩
    exact ⟨hl, hn, (hfront hl hn).mpr hw, fun m hm hw ↦ hlongest m hm ((hfront hl hm).mp hw)⟩

theorem scan_of_atFront? {c : Char} {cs : List Char} {w : Word} (h : atFront? (c :: cs) = some w) :
    scan (c :: cs) = w :: scan (cs.drop w.numeral.text.length) := by
  have hopens := atFront?_eq_some_iff.mp h
  obtain ⟨-, rest, hcs⟩ := List.cons_prefix_cons.mp hopens.front
  have hletter : ∀ d ∈ w.numeral.text, isLetter d = false :=
    fun d hd ↦ isLetter_eq_false_of_mem_text hopens.proper hd
  rw [scan_cons, h, ← hcs, scan_append_of_no_letter hletter, List.drop_left]
  rfl

/-- Of the text that is left the other words are scanned. -/
theorem scan_leaveOut (cs : List Char) : scan (leaveOut p cs) = (scan cs).filter (!p ·) := by
  fun_induction leaveOut p cs with
  | case1 => rw [scan, List.filter_nil]
  | case2 c cs w hw hp ih =>
      rw [scan_cons_of_not_isLetter (by decide), ih, scan_of_atFront? hw,
        List.filter_cons_of_neg (by simpa using hp)]
  | case3 c cs w hw hp ih =>
      rw [scan_cons, atFront?_leaveOut, scan_cons c cs, ih, List.filter_append, hw]
      simp [hp]
  | case4 c cs hw ih =>
      rw [scan_cons, atFront?_leaveOut, scan_cons c cs, ih, List.filter_append, hw]
      rfl

/-- The numeral of the word has no value. -/
def isDropped (w : Word) : Bool := decide w.numeral.Unrepresentable

theorem isNone_kept?_eq {w : Word} (hw : w.numeral.Proper) : w.kept?.isNone = w.isDropped := by
  have hvalue : w.kept? = w.numeral.value? := (Numeral.value?_eq hw).symm
  rw [hvalue, isDropped, ← Bool.decide_coe (Option.isNone _), decide_eq_decide, Option.isNone_iff_eq_none,
    Numeral.value?_eq_none_iff hw]

end Word

namespace Block

open Word

theorem ofKept_filter {ws : List Word} (h : ∀ w ∈ ws, w.numeral.Proper) :
    ofKept (ws.filter (!isDropped ·)) = { ofKept ws with dropped := 0 } := by
  have hkept (l : Char) : keptOf l (ws.filter (!isDropped ·)) = keptOf l ws := by
    rw [keptOf, keptOf, List.filter_filter, List.filterMap_filter, List.filterMap_filter]
    refine List.filterMap_congr fun w hw ↦ ?_
    rw [← isNone_kept?_eq (h w hw)]
    cases w.kept? <;> simp
  have hcount : (ws.filter (!isDropped ·)).countP (·.kept?.isNone) = 0 := by
    rw [List.countP_eq_zero]
    intro w hw
    obtain ⟨hw, hdropped⟩ := List.mem_filter.mp hw
    rw [isNone_kept?_eq (h w hw)]
    simpa using hdropped
  unfold ofKept
  rw [hkept, hkept, hkept, hkept, hkept, hcount]

/-- The dropped words of a block are the words of its line without a value. -/
theorem dropped_of_read? {line : List Char} {b : Block} (h : read? line = some b) :
    b.dropped = (Word.ofLine line).countP isDropped := by
  obtain rfl := eq_ofKept_of_read? h
  exact List.countP_congr fun w hw ↦ by rw [isNone_kept?_eq (proper_of_mem_scan hw)]

/-- A word of a line is dropped exactly if its numeral cannot be represented, and any other word has the
nearest double to the number of its numeral. The block of the line counts the dropped words, and all
else of it is scanned from the line's code with a space instead of each of them. -/
theorem dropped_words (line : List Char) :
    (∀ w ∈ Word.ofLine line, (w.numeral.value? = none ↔ w.numeral.Unrepresentable) ∧
      ∀ v ∈ w.numeral.value?, ∀ u : Binary64, u = v ↔
        u.IsNearest w.numeral.decimal.value ∧ u.isNegative = (w.numeral.sign == some '-')) ∧
    ∀ b ∈ read? line, b.dropped = (Word.ofLine line).countP isDropped ∧
      ofWords (Word.scan (leaveOut isDropped (codeOf line))) = { b with dropped := 0 } := by
  have hproper : ∀ w ∈ Word.ofLine line, w.numeral.Proper := fun w hw ↦ proper_of_mem_scan hw
  refine ⟨fun w hw ↦ ⟨Numeral.value?_eq_none_iff (hproper w hw), fun v hv ↦
    Numeral.eq_value?_iff_isNearest hv⟩, fun b hb ↦ ⟨dropped_of_read? hb, ?_⟩⟩
  obtain rfl := eq_ofKept_of_read? hb
  rw [ofWords_eq_ofKept fun w hw ↦ proper_of_mem_scan hw, scan_leaveOut]
  exact ofKept_filter hproper

/-- A digit outside ASCII and a number of three hundred and ten digits are dropped, and the first X
stays. -/
theorem dropped_words_huge :
    let line := "x1X".toList ++ Char.ofNat 0x663 :: "Y2I1".toList ++ List.replicate 309 '0'
    let b : Block := { x := some 1, y := some 2, dropped := 2 }
    let first : Word := ⟨'X', ⟨none, ['1'], none⟩⟩
    let last : Word := ⟨'I', ⟨none, '1' :: List.replicate 309 '0', none⟩⟩
    first ∈ Word.ofLine line ∧ last ∈ Word.ofLine line ∧ last.numeral.Unrepresentable ∧
      Binary64.IsNearest first.numeral.decimal.value 1 ∧
      read? line = some b ∧ b.dropped = (Word.ofLine line).countP isDropped ∧
      leaveOut isDropped (codeOf line) = "X1 Y2 ".toList ∧
      ofWords (Word.scan (leaveOut isDropped (codeOf line))) = { b with dropped := 0 } := by
  intro line b first last
  have hfirst : first ∈ Word.ofLine line := by decide +kernel
  have hlast : last ∈ Word.ofLine line := by decide +kernel
  have hread : read? line = some b := by decide +kernel
  have hleft : leaveOut isDropped (codeOf line) = "X1 Y2 ".toList := by decide +kernel
  obtain ⟨hvalues, hblock⟩ := dropped_words line
  have hdropped := (hvalues last hlast).1.mp (by decide +kernel)
  have hone := ((hvalues first hfirst).2 1 (by decide +kernel) 1).mp rfl
  obtain ⟨hcount, hwords⟩ := hblock b hread
  exact ⟨hfirst, hlast, hdropped, hone.1, hread, hcount, hleft, hwords⟩

end Block

end Toolpath
