import Toolpath.Json.Printer
import Toolpath.Json.Token
import Toolpath.Proofs.Number.Written

/-!
# Tokens of what was written

A written string or number is cut off as one token again. A number is as long as possible, so what
follows it must not continue it; everything that can follow a value in a document ends it.
-/

namespace Toolpath.Json

/-! ## Strings -/

theorem hexValue?_hexPair : ∀ n < 32, hexValue? ('0' :: '0' :: hexPair n) = some n := by
  decide

theorem chars?_unit {n : Nat} (h : n < 32) (ps : List Piece) :
    chars? (.unit n :: ps) = (chars? ps).map (Char.ofNat n :: ·) := by
  have hhigh : isHigh n = false := by
    simp only [isHigh, Bool.and_eq_false_iff, decide_eq_false_iff_not]
    omega
  have hlow : isLow n = false := by
    simp only [isLow, Bool.and_eq_false_iff, decide_eq_false_iff_not]
    omega
  rcases ps with _ | ⟨c | m, ps⟩ <;> rw [chars?.eq_def] <;> simp [hhigh, hlow]

theorem pieces?_escape {e c : Char} (h : escape? e = some c) {cs rest : List Char} {ps : List Piece}
    (hcs : pieces? cs = some (ps, rest)) :
    pieces? ('\\' :: e :: cs) = some (.char c :: ps, rest) := by
  rw [pieces?]
  · rw [h, hcs]
  · rintro a b d f ds rfl
    cases h

/-- What is written for a character is one piece that stands for it. -/
theorem exists_pieces?_escapeChar (c : Char) {cs rest : List Char} {ps : List Piece}
    (h : pieces? cs = some (ps, rest)) : ∃ p, pieces? (escapeChar c ++ cs) = some (p :: ps, rest) ∧
      chars? (p :: ps) = (chars? ps).map (c :: ·) := by
  unfold escapeChar
  split
  · exact ⟨_, pieces?_escape rfl h, rfl⟩
  · exact ⟨_, pieces?_escape rfl h, rfl⟩
  · exact ⟨_, pieces?_escape rfl h, rfl⟩
  · exact ⟨_, pieces?_escape rfl h, rfl⟩
  · exact ⟨_, pieces?_escape rfl h, rfl⟩
  · exact ⟨_, pieces?_escape rfl h, rfl⟩
  · exact ⟨_, pieces?_escape rfl h, rfl⟩
  split
  next hcontrol =>
    refine ⟨.unit c.toNat, ?_, ?_⟩
    · rw [hexPair, List.append_assoc, List.cons_append, List.cons_append, List.cons_append,
        List.cons_append, List.nil_append, List.cons_append, List.cons_append, List.nil_append, pieces?]
      have hvalue := hexValue?_hexPair c.toNat hcontrol
      rw [hexPair] at hvalue
      rw [hvalue, h]
    · rw [chars?_unit hcontrol, Char.ofNat_toNat]
  next hcontrol =>
    refine ⟨.char c, ?_, rfl⟩
    rw [List.singleton_append, pieces?, if_neg hcontrol, h]
    all_goals simp_all

theorem exists_pieces?_escaped (text rest : List Char) :
    ∃ ps, pieces? (text.flatMap escapeChar ++ '"' :: rest) = some (ps, rest) ∧
      chars? ps = some text := by
  induction text with
  | nil => exact ⟨[], rfl, rfl⟩
  | cons c text ih =>
      obtain ⟨ps, hps, hchars⟩ := ih
      obtain ⟨p, hp, hcons⟩ := exists_pieces?_escapeChar c hps
      refine ⟨p :: ps, ?_, ?_⟩
      · rw [List.flatMap_cons, List.append_assoc, hp]
      · rw [hcons, hchars, Option.map_some]

theorem token?_string (text : String) (rest : List Char) :
    ∃ cs, stringText (some text) ++ rest = '"' :: cs ∧
      token? '"' cs = some (.string (some text), rest) := by
  obtain ⟨ps, hps, hchars⟩ := exists_pieces?_escaped text.toList rest
  refine ⟨text.toList.flatMap escapeChar ++ '"' :: rest, ?_, ?_⟩
  · rw [stringText, quote, Option.getD_some]
    simp
  · rw [token?, hps]
    simp [textOf, hchars]

/-! ## Numbers -/

/-- What does not continue a number in front of it. -/
def Ends (rest : List Char) : Prop :=
  ∀ c ∈ rest.head?, isDigit c = false ∧ c ≠ '.' ∧ c ≠ 'e' ∧ c ≠ 'E'

theorem Ends.notDigit {rest : List Char} (h : Ends rest) : ∀ c ∈ rest.head?, isDigit c = false :=
  fun c hc ↦ (h c hc).1

theorem whole?_append {w : Written} (hw : w.Proper) {rest : List Char}
    (hrest : ∀ c ∈ rest.head?, isDigit c = false) : whole? (w.whole ++ rest) = some (w.whole, rest) := by
  obtain ⟨htake, hdrop⟩ := takeWhile_append_of_stops hw.whole.2 rest hrest
  unfold whole?
  split
  next ds heq =>
    obtain ⟨c, cs, hcons⟩ := List.exists_cons_of_ne_nil hw.whole.1
    rw [hcons, List.cons_append, List.cons.injEq] at heq
    obtain ⟨rfl, rfl⟩ := heq
    obtain rfl := hw.lead cs hcons
    rw [hcons, List.nil_append]
  next =>
    have hne : w.whole.isEmpty = false := by simpa using hw.whole.1
    simp only [htake, hdrop, hne, Bool.false_eq_true, if_false]

theorem fraction?_append {ds rest : List Char} (h : IsRun ds)
    (hrest : ∀ c ∈ rest.head?, isDigit c = false) :
    fraction? ('.' :: (ds ++ rest)) = some (some ds, rest) := by
  obtain ⟨htake, hdrop⟩ := takeWhile_append_of_stops h.2 rest hrest
  have hne : ds.isEmpty = false := by simpa using h.1
  simp only [fraction?, htake, hdrop, hne, Bool.false_eq_true, if_false]

theorem fraction?_of_ne {rest : List Char} (h : ∀ c ∈ rest.head?, c ≠ '.') :
    fraction? rest = some (none, rest) := by
  unfold fraction?
  split
  next => exact absurd rfl (h '.' rfl)
  next => rfl

theorem exponentDigits?_append (sign : Option Char) {ds rest : List Char} (h : IsRun ds)
    (hrest : ∀ c ∈ rest.head?, isDigit c = false) :
    exponentDigits? sign (ds ++ rest) = some (some (sign, ds), rest) := by
  obtain ⟨htake, hdrop⟩ := takeWhile_append_of_stops h.2 rest hrest
  have hne : ds.isEmpty = false := by simpa using h.1
  simp only [exponentDigits?, htake, hdrop, hne, Bool.false_eq_true, if_false]

theorem exponent?_append {sign : Option Char} (hsign : ∀ c ∈ sign, c = '+' ∨ c = '-')
    {ds rest : List Char} (h : IsRun ds) (hrest : ∀ c ∈ rest.head?, isDigit c = false) :
    exponent? ('e' :: (sign.toList ++ (ds ++ rest))) = some (some (sign, ds), rest) := by
  have hdigits := exponentDigits?_append sign h hrest
  cases sign with
  | some c => rcases hsign c rfl with rfl | rfl <;> exact hdigits
  | none =>
      obtain ⟨c, cs, rfl⟩ := List.exists_cons_of_ne_nil h.1
      have hc := h.2 c List.mem_cons_self
      have hplus : c ≠ '+' := ne_of_isDigit hc (by decide)
      have hminus : c ≠ '-' := ne_of_isDigit hc (by decide)
      rw [exponent?, Option.toList_none, List.nil_append, List.cons_append, signedExponent?]
      · exact hdigits
      all_goals simp_all

theorem exponent?_of_ends {rest : List Char} (h : Ends rest) : exponent? rest = some (none, rest) := by
  unfold exponent?
  split
  next => exact absurd rfl (h 'e' rfl).2.2.1
  next => exact absurd rfl (h 'E' rfl).2.2.2
  next => rfl

/-- The point and the digits after it. -/
def fractionText (fraction : Option (List Char)) : List Char :=
  match fraction with
  | none => []
  | some ds => '.' :: ds

def exponentText (exponent : Option (Option Char × List Char)) : List Char :=
  match exponent with
  | none => []
  | some (sign, ds) => 'e' :: (sign.toList ++ ds)

theorem text_eq_parts (w : Written) : w.text =
    (if w.negative then ['-'] else []) ++
      (w.whole ++ (fractionText w.fraction ++ exponentText w.exponent)) := by
  rcases w with ⟨negative, whole, _ | ds, _ | ⟨sign, es⟩⟩ <;>
    simp [Written.text, fractionText, exponentText]

theorem exponent?_text {w : Written} (hw : w.Proper) {rest : List Char} (hrest : Ends rest) :
    exponent? (exponentText w.exponent ++ rest) = some (w.exponent, rest) ∧
      ∀ c ∈ (exponentText w.exponent ++ rest).head?, isDigit c = false ∧ c ≠ '.' := by
  cases hexponent : w.exponent with
  | none => exact ⟨exponent?_of_ends hrest, fun c hc ↦ ⟨(hrest c hc).1, (hrest c hc).2.1⟩⟩
  | some e =>
      obtain ⟨hsign, hdigits⟩ := hw.exponent e hexponent
      refine ⟨?_, ?_⟩
      · rw [exponentText, List.cons_append, List.append_assoc,
          exponent?_append hsign hdigits hrest.notDigit]
      · rintro c ⟨⟩
        decide

theorem fraction?_text {w : Written} (hw : w.Proper) {rest : List Char}
    (hrest : ∀ c ∈ rest.head?, isDigit c = false ∧ c ≠ '.') :
    fraction? (fractionText w.fraction ++ rest) = some (w.fraction, rest) ∧
      ∀ c ∈ (fractionText w.fraction ++ rest).head?, isDigit c = false := by
  cases hfraction : w.fraction with
  | none => exact ⟨fraction?_of_ne fun c hc ↦ (hrest c hc).2, fun c hc ↦ (hrest c hc).1⟩
  | some ds =>
      refine ⟨fraction?_append (hw.fraction ds hfraction) fun c hc ↦ (hrest c hc).1, ?_⟩
      rintro c ⟨⟩
      decide

theorem unsigned?_append {w : Written} (hw : w.Proper) {rest : List Char} (hrest : Ends rest) :
    unsigned? w.negative (w.whole ++ (fractionText w.fraction ++ (exponentText w.exponent ++ rest))) =
      some (w, rest) := by
  obtain ⟨hexponent, hnext⟩ := exponent?_text hw hrest
  obtain ⟨hfraction, hdigit⟩ := fraction?_text hw hnext
  rw [unsigned?, whole?_append hw hdigit]
  simp only [Option.bind_eq_bind, Option.bind_some, hfraction, hexponent]

theorem number?_append {w : Written} (hw : w.Proper) {rest : List Char} (hrest : Ends rest) :
    number? (w.text ++ rest) = some (w, rest) := by
  have hunsigned := unsigned?_append hw hrest
  obtain ⟨c, ds, hcons⟩ := List.exists_cons_of_ne_nil hw.whole.1
  rw [text_eq_parts, List.append_assoc, List.append_assoc, List.append_assoc]
  cases hnegative : w.negative with
  | true =>
      rw [hnegative] at hunsigned
      exact hunsigned
  | false =>
      have hminus : c ≠ '-' := ne_of_isDigit (hw.whole.2 c (hcons ▸ List.mem_cons_self)) (by decide)
      rw [hnegative] at hunsigned
      rw [hcons] at hunsigned ⊢
      unfold number?
      simp_all

/-! ## Texts -/

/-- A text is cut into tokens within every bound that its length allows. -/
def Cuts (cs : List Char) (ts : List Token) : Prop :=
  ∀ n, cs.length ≤ n → tokensUpTo n cs = some ts

theorem cuts_nil : Cuts [] [] := by
  intro n _
  cases n <;> rfl

theorem Cuts.tokens? {cs : List Char} {ts : List Token} (h : Cuts cs ts) : tokens? cs = some ts :=
  h cs.length le_rfl

theorem Cuts.space {c : Char} (hc : isSpace c) {cs : List Char} {ts : List Token} (h : Cuts cs ts) :
    Cuts (c :: cs) ts := by
  intro n hn
  obtain ⟨n, rfl⟩ := Nat.exists_eq_succ_of_ne_zero (Nat.ne_zero_of_lt hn)
  rw [tokensUpTo, if_pos hc]
  exact h n (Nat.le_of_succ_le_succ hn)

theorem Cuts.spaces {blanks : List Char} (hblanks : ∀ c ∈ blanks, isSpace c) {cs : List Char}
    {ts : List Token} (h : Cuts cs ts) : Cuts (blanks ++ cs) ts := by
  induction blanks with
  | nil => exact h
  | cons c blanks ih =>
      exact (ih fun d hd ↦ hblanks d (List.mem_cons_of_mem c hd)).space (hblanks c List.mem_cons_self)

theorem Cuts.token {c : Char} (hc : isSpace c = false) {cs rest : List Char} {t : Token}
    (ht : token? c cs = some (t, rest)) (hrest : rest.length ≤ cs.length) {ts : List Token}
    (h : Cuts rest ts) : Cuts (c :: cs) (t :: ts) := by
  intro n hn
  obtain ⟨n, rfl⟩ := Nat.exists_eq_succ_of_ne_zero (Nat.ne_zero_of_lt hn)
  rw [tokensUpTo, hc, ht]
  simp only [Bool.false_eq_true, if_false]
  rw [h n (hrest.trans (Nat.le_of_succ_le_succ hn)), Option.map_some]

theorem Cuts.string (text : String) {rest : List Char} {ts : List Token} (h : Cuts rest ts) :
    Cuts (stringText (some text) ++ rest) (.string (some text) :: ts) := by
  obtain ⟨cs, hcs, htoken⟩ := token?_string text rest
  have hlength := congrArg List.length hcs
  have hquotes : 2 ≤ (stringText (some text)).length := by
    simp [stringText, quote]
  rw [List.length_append, List.length_cons] at hlength
  rw [hcs]
  exact h.token (by decide) htoken (by omega)

theorem ne_of_isDigit_or_minus {c d : Char} (hc : isDigit c ∨ c = '-') (hd : isDigit d = false)
    (hminus : d ≠ '-') : c ≠ d := by
  rintro rfl
  rcases hc with hc | hc
  · exact ne_of_isDigit hc hd rfl
  · exact hminus hc

theorem token?_number {c : Char} (hc : isDigit c ∨ c = '-') (cs : List Char) :
    token? c cs = (number? (c :: cs)).map fun (w, rest) ↦ (.number w, rest) := by
  unfold token?
  split
  all_goals first
    | rfl
    | exact absurd rfl (ne_of_isDigit_or_minus hc (by decide) (by decide))

theorem Cuts.number {w : Written} (hw : w.Proper) {rest : List Char} (hrest : Ends rest)
    {ts : List Token} (h : Cuts rest ts) : Cuts (w.text ++ rest) (.number w :: ts) := by
  have hnumber := number?_append hw hrest
  obtain ⟨c, cs, htext, hc⟩ : ∃ c cs, w.text = c :: cs ∧ (isDigit c ∨ c = '-') := by
    obtain ⟨c, cs, hwhole⟩ := List.exists_cons_of_ne_nil hw.whole.1
    rw [text_eq_parts, hwhole]
    cases w.negative with
    | true => exact ⟨_, _, rfl, Or.inr rfl⟩
    | false => exact ⟨_, _, rfl, Or.inl (hw.whole.2 c (hwhole ▸ List.mem_cons_self))⟩
  have hspace : isSpace c = false := by
    have hblank : c ≠ ' ' := ne_of_isDigit_or_minus hc (by decide) (by decide)
    have htab : c ≠ '\t' := ne_of_isDigit_or_minus hc (by decide) (by decide)
    have hfeed : c ≠ '\n' := ne_of_isDigit_or_minus hc (by decide) (by decide)
    have hreturn : c ≠ '\r' := ne_of_isDigit_or_minus hc (by decide) (by decide)
    simp [isSpace, hblank, htab, hfeed, hreturn]
  rw [htext, List.cons_append] at hnumber ⊢
  refine h.token hspace ?_ ?_
  · rw [token?_number hc, hnumber, Option.map_some]
  · simp

end Toolpath.Json
