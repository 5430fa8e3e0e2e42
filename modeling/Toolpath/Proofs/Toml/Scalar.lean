import Toolpath.Proofs.Number.Written
import Toolpath.Toml.Printer
import Toolpath.Toml.Reader

/-!
# Numbers and truth values read back

A value that is one word ends at the end of its line. A word of digits is an integer, a word with a
point is a float, and the float is the double whose decimal was written.
-/

namespace Toolpath

namespace Toml

/-! ## Groups of digits -/

theorem grouped?_eq_self {cs : List Char} (h : IsRun cs) : grouped? isDigit cs = some cs := by
  obtain ⟨hne, hdigits⟩ := h
  induction cs with
  | nil => exact absurd rfl hne
  | cons c cs ih =>
      have hc := hdigits c List.mem_cons_self
      have hcs : ∀ d ∈ cs, isDigit d := fun d hd ↦ hdigits d (List.mem_cons_of_mem c hd)
      rcases cs with _ | ⟨d, cs⟩
      · rw [grouped?, if_pos hc]
      · have hd : d ≠ '_' := ne_of_isDigit (hcs d List.mem_cons_self) (by decide)
        rw [grouped?, if_pos hc, ih (List.cons_ne_nil d cs) hcs, Option.map_some]
        · exact nofun
        · rintro cs' ⟨⟩
          exact hd rfl

theorem grouped?_of_point {cs : List Char} (h : '.' ∈ cs) : grouped? isDigit cs = none := by
  fun_induction grouped? isDigit cs with
  | case1 => cases h
  | case2 c hc =>
      rw [← List.mem_singleton.mp h] at hc
      cases hc
  | case3 c hc => rfl
  | case4 c cs hc ih =>
      rcases List.mem_cons.mp h with rfl | h
      · cases hc
      rcases List.mem_cons.mp h with h | h
      · cases h
      · rw [ih h, Option.map_none]
  | case5 => rfl
  | case6 c cs _ _ hc ih =>
      rcases List.mem_cons.mp h with rfl | h
      · cases hc
      · rw [ih h, Option.map_none]
  | case7 => rfl

theorem wholeDigits?_eq_self {cs : List Char} (h : IsRun cs) (hlead : ∀ ds, cs = '0' :: ds → ds = []) :
    wholeDigits? cs = some cs := by
  rw [wholeDigits?, grouped?_eq_self h]
  split
  next d ds heq => cases hlead _ (Option.some.inj heq)
  next => rfl

theorem wholeDigits?_of_point {cs : List Char} (h : '.' ∈ cs) : wholeDigits? cs = none := by
  rw [wholeDigits?, grouped?_of_point h]

/-! ## Words -/

theorem isWordChar_of_isDigit {c : Char} (h : isDigit c) : isWordChar c := by
  have hdigit : c.isDigit := by
    rw [isDigit_iff] at h
    simp only [Char.isDigit, Bool.and_eq_true, decide_eq_true_iff]
    exact h
  simp [isWordChar, Char.isAlphanum, hdigit]

theorem word?_of_isDigit {cs : List Char} {c : Char} (hc : c ∈ cs) (h : isDigit c) :
    word? cs = (integer? cs).or ((float? cs).or (if isMoment cs then some moment else none)) := by
  have hword (word : List Char) (hdigits : word.any isDigit = false) : cs ≠ word := by
    rintro rfl
    rw [List.any_eq_true.mpr ⟨c, hc, h⟩] at hdigits
    cases hdigits
  unfold word?
  split
  · exact absurd rfl (hword _ (by decide))
  · exact absurd rfl (hword _ (by decide))
  · rfl

theorem integer?_of_notMem {cs : List Char} (hx : 'x' ∉ cs) (ho : 'o' ∉ cs) (hb : 'b' ∉ cs) :
    integer? cs = ((decimalInteger? cs).filter fits).map integer := by
  unfold integer?
  split
  · simp at hx
  · simp at ho
  · simp at hb
  · rfl

theorem word?_digitsOfNat {n : Nat} (h : n ≤ 9223372036854775807) :
    word? (digitsOfNat n) = some (integer n) := by
  have hrun := isRun_digitsOfNat n
  have hnot {d : Char} (hd : isDigit d = false) : d ∉ digitsOfNat n := notMem_of_isDigit hrun.2 hd
  obtain ⟨c, cs, hcons⟩ := List.exists_cons_of_ne_nil hrun.1
  have hc : c ∈ digitsOfNat n := hcons ▸ List.mem_cons_self
  have hsign : splitSign (digitsOfNat n) = (false, digitsOfNat n) := by
    simpa using splitSign_signed false hrun []
  have hwhole : wholeDigits? (digitsOfNat n) = some (digitsOfNat n) :=
    wholeDigits?_eq_self hrun fun ds hds ↦ (eq_zero_of_digitsOfNat hds).2
  have hfits : fits n := by
    simp only [fits, Bool.and_eq_true, decide_eq_true_iff]
    omega
  rw [word?_of_isDigit hc (hrun.2 c hc), integer?_of_notMem (hnot (by decide)) (hnot (by decide))
    (hnot (by decide)), decimalInteger?, hsign]
  simp [hwhole, hfits]

/-- The text of a number with a point and no exponent. -/
theorem text_eq {w : Written} {ds : List Char} (hfraction : w.fraction = some ds)
    (hexponent : w.exponent = none) :
    w.text = (if w.negative then ['-'] else []) ++ (w.whole ++ '.' :: ds) := by
  rw [Written.text, hfraction, hexponent]
  simp

section Point

variable {w : Written} {ds : List Char}

theorem decimalFloat?_text (hw : w.Proper) (hfraction : w.fraction = some ds)
    (hexponent : w.exponent = none) (hfinite : w.mantissa.toBinary64 ≠ .infinity false) :
    decimalFloat? w.text = some w.mantissa.toBinary64 := by
  have hds := hw.fraction ds hfraction
  have hpoint : w.text.any (fun c ↦ c = '.' || isExponentMark c) := by
    rw [text_eq hfraction hexponent]
    simp
  have hmark : ∀ c ∈ w.whole ++ '.' :: ds, !isExponentMark c := by
    have hdigit : ∀ {c}, isDigit c → !isExponentMark c := fun hc ↦ by
      simp [isExponentMark, ne_of_isDigit hc (show isDigit 'e' = false by decide),
        ne_of_isDigit hc (show isDigit 'E' = false by decide)]
    intro c hc
    rcases List.mem_append.mp hc with hc | hc
    · exact hdigit (hw.whole.2 c hc)
    rcases List.mem_cons.mp hc with rfl | hc
    · decide
    · exact hdigit (hds.2 c hc)
  have hwhole : ∀ c ∈ w.whole, c != '.' := fun c hc ↦
    bne_iff_ne.mpr (ne_of_isDigit (hw.whole.2 c hc) (by decide))
  obtain ⟨htake, hdrop⟩ := takeWhile_append_of_stops hwhole ('.' :: ds) (by simp)
  obtain ⟨hmantissa, hrest⟩ := takeWhile_append_of_stops hmark [] (by simp)
  rw [List.append_nil] at hmantissa hrest
  rw [decimalFloat?, hpoint, text_eq hfraction hexponent, splitSign_signed _ hw.whole]
  simp only [guard_true, Option.pure_def, Option.bind_eq_bind, Option.bind_some, hmantissa, hrest,
    htake, hdrop, wholeDigits?_eq_self hw.whole hw.lead, grouped?_eq_self hds]
  rw [Written.mantissa, hfraction, Option.getD_some] at hfinite ⊢
  exact if_neg hfinite

theorem integer?_text (hw : w.Proper) (hfraction : w.fraction = some ds)
    (hexponent : w.exponent = none) : integer? w.text = none := by
  have hds := hw.fraction ds hfraction
  have hnot : ∀ {d}, isDigit d = false → d ≠ '-' → d ≠ '.' → d ∉ w.text := by
    intro d hd hminus hpoint
    rw [text_eq hfraction hexponent]
    simp only [List.mem_append, List.mem_cons, not_or]
    refine ⟨?_, notMem_of_isDigit hw.whole.2 hd, hpoint, notMem_of_isDigit hds.2 hd⟩
    split
    · simpa using hminus
    · exact List.not_mem_nil
  rw [integer?_of_notMem (hnot (by decide) (by decide) (by decide))
    (hnot (by decide) (by decide) (by decide)) (hnot (by decide) (by decide) (by decide)),
    decimalInteger?, text_eq hfraction hexponent, splitSign_signed _ hw.whole]
  dsimp only
  rw [wholeDigits?_of_point (by simp)]
  rfl

theorem namedFloat?_text (hw : w.Proper) (hfraction : w.fraction = some ds)
    (hexponent : w.exponent = none) : namedFloat? w.text = none := by
  rw [namedFloat?, text_eq hfraction hexponent, splitSign_signed _ hw.whole]
  obtain ⟨c, cs, hc⟩ := List.exists_cons_of_ne_nil hw.whole.1
  have hdigit := hw.whole.2 c (hc ▸ List.mem_cons_self)
  rw [hc]
  dsimp only
  split
  next heq => exact absurd (List.cons.inj heq).1 (ne_of_isDigit hdigit (by decide))
  next heq => exact absurd (List.cons.inj heq).1 (ne_of_isDigit hdigit (by decide))
  next => rfl

theorem word?_text (hw : w.Proper) (hfraction : w.fraction = some ds) (hexponent : w.exponent = none)
    (hfinite : w.mantissa.toBinary64 ≠ .infinity false) :
    word? w.text = some (float w.mantissa.toBinary64) := by
  obtain ⟨c, cs, hcons⟩ := List.exists_cons_of_ne_nil hw.whole.1
  have hc : c ∈ w.whole := hcons ▸ List.mem_cons_self
  have hmem : c ∈ w.text := by
    rw [text_eq hfraction hexponent]
    simp [hc]
  rw [word?_of_isDigit hmem (hw.whole.2 c hc), integer?_text hw hfraction hexponent, float?,
    namedFloat?_text hw hfraction hexponent, decimalFloat?_text hw hfraction hexponent hfinite]
  rfl

theorem isWordChar_of_mem_text (hw : w.Proper) (hfraction : w.fraction = some ds)
    (hexponent : w.exponent = none) : ∀ c ∈ w.text, isWordChar c := by
  intro c hc
  rw [text_eq hfraction hexponent] at hc
  rcases List.mem_append.mp hc with hc | hc
  · split at hc
    · rw [List.mem_singleton.mp hc]
      decide
    · cases hc
  rcases List.mem_append.mp hc with hc | hc
  · exact isWordChar_of_isDigit (hw.whole.2 c hc)
  rcases List.mem_cons.mp hc with rfl | hc
  · decide
  · exact isWordChar_of_isDigit ((hw.fraction ds hfraction).2 c hc)

end Point

/-- A finite double is written as one word and reads back from it. -/
theorem doubleText_spec {x : Binary64} (h : x.isFinite) : doubleText x ≠ [] ∧
    (∀ c ∈ doubleText x, isWordChar c) ∧ word? (doubleText x) = some (float x) := by
  have hpositional : ∀ k, layout.positional k := fun _ ↦ rfl
  obtain ⟨w, hw, ⟨ds, hfraction⟩, hexponent, hvalue⟩ :=
    Layout.exists_written?_of_positional hpositional h
  have hproper := Layout.proper_of_written? hw
  have hfinite : w.mantissa.toBinary64 ≠ .infinity false := by
    rw [hvalue]
    rintro rfl
    cases h
  have htext : doubleText x = w.text := by rw [doubleText, hw]
  rw [htext]
  refine ⟨?_, isWordChar_of_mem_text hproper hfraction hexponent, ?_⟩
  · rw [text_eq hfraction hexponent]
    simp
  · rw [word?_text hproper hfraction hexponent hfinite, hvalue]

/-! ## Values -/

theorem scalar_append {cs : List Char} (h : ∀ c ∈ cs, isWordChar c) (rest : List Char) :
    scalar (cs ++ '\n' :: rest) = (word? cs).map fun v ↦ (v, '\n' :: rest) := by
  obtain ⟨htake, hdrop⟩ := takeWhile_append_of_stops h ('\n' :: rest) (by simp; decide)
  rw [scalar, htake, hdrop]
  rfl

end Toml

end Toolpath
