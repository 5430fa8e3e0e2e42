import Toolpath.Proofs.Number.Written
import Toolpath.Proofs.Program.Scan

/-!
# Spellings of entered numbers

A finite number is entered as digits with at most one point before, among or behind them. A sign may stand
in front and a power of ten behind. Every such text is read as the double nearest to the number that it
spells, and no other text is read as a finite number.
-/

namespace Toolpath

/-- A power of ten behind the digits: a letter, perhaps a sign, and digits. -/
structure Power where
  letter : Char
  sign : Option Char
  digits : List Char

namespace Power

def text (p : Power) : List Char := p.letter :: (p.sign.toList ++ p.digits)

def exponent (p : Power) : Int :=
  if p.sign = some '-' then -(natOfDigits p.digits : Int) else natOfDigits p.digits

structure Proper (p : Power) : Prop where
  letter : p.letter = 'e' ∨ p.letter = 'E'
  sign : ∀ c ∈ p.sign, c = '+' ∨ c = '-'
  digits : IsRun p.digits

end Power

/-- A decimal as it can be entered. -/
structure Spelling where
  sign : Option Char
  whole : List Char
  /-- The digits behind the point, where there is a point. -/
  fraction : Option (List Char)
  power : Option Power

namespace Spelling

/-- The digits, the point and the power of ten, without the sign. -/
def body (e : Spelling) : List Char :=
  e.whole ++ (e.fraction.elim [] ('.' :: ·) ++ e.power.elim [] Power.text)

def text (e : Spelling) : List Char := e.sign.toList ++ e.body

def decimal (e : Spelling) : Decimal :=
  .ofDigits (e.sign == some '-') e.whole (e.fraction.getD []) (e.power.elim 0 Power.exponent)

theorem mem_body {e : Spelling} {c : Char} : c ∈ e.body ↔ c ∈ e.whole ∨
    (∃ ds ∈ e.fraction, c = '.' ∨ c ∈ ds) ∨
      ∃ p ∈ e.power, c = p.letter ∨ c ∈ p.sign ∨ c ∈ p.digits := by
  rcases e with ⟨sign, whole, _ | ds, _ | p⟩ <;> simp [body, Power.text, or_assoc]

/-- The point may have no digits on one side of it. -/
structure Proper (e : Spelling) : Prop where
  sign : ∀ c ∈ e.sign, c = '+' ∨ c = '-'
  whole : ∀ c ∈ e.whole, isDigit c
  fraction : ∀ ds ∈ e.fraction, ∀ c ∈ ds, isDigit c
  digits : ¬(e.whole = [] ∧ e.fraction.getD [] = [])
  power : ∀ p ∈ e.power, p.Proper

end Spelling

/-! ## Signs and points -/

theorem splitSign_spec (cs : List Char) :
    ∃ sign : Option Char, (∀ c ∈ sign, c = '+' ∨ c = '-') ∧
      (splitSign cs).1 = (sign == some '-') ∧ cs = sign.toList ++ (splitSign cs).2 := by
  unfold splitSign
  split
  · exact ⟨some '-', by simp, rfl, rfl⟩
  · exact ⟨some '+', by simp, rfl, rfl⟩
  · exact ⟨none, by simp, rfl, rfl⟩

theorem splitFraction_spec (cs : List Char) :
    ∃ fraction : Option (List Char), (∀ ds ∈ fraction, ∀ c ∈ ds, isDigit c) ∧
      (splitFraction cs).1 = fraction.getD [] ∧
      cs = fraction.elim [] ('.' :: ·) ++ (splitFraction cs).2 := by
  unfold splitFraction
  split
  next tail =>
    rw [splitDigits, List.span_eq_takeWhile_dropWhile]
    refine ⟨some (tail.takeWhile isDigit), ?_, rfl, by simp⟩
    rintro ds ⟨⟩
    exact fun c hc ↦ List.mem_takeWhile_imp hc
  next => exact ⟨none, by simp, rfl, rfl⟩

theorem splitFraction_append {fraction : Option (List Char)}
    (hdigits : ∀ ds ∈ fraction, ∀ c ∈ ds, isDigit c) {rest : List Char}
    (hrest : ∀ c ∈ rest.head?, isDigit c = false ∧ c ≠ '.') :
    splitFraction (fraction.elim [] ('.' :: ·) ++ rest) = (fraction.getD [], rest) := by
  cases fraction with
  | none =>
      change splitFraction rest = ([], rest)
      unfold splitFraction
      split
      next => exact absurd rfl (hrest '.' rfl).2
      next => rfl
  | some ds =>
      obtain ⟨htake, hdrop⟩ :=
        takeWhile_append_of_stops (hdigits ds rfl) rest fun c hc ↦ (hrest c hc).1
      change splitDigits (ds ++ rest) = (ds, rest)
      rw [splitDigits, List.span_eq_takeWhile_dropWhile, htake, hdrop]

/-! ## Powers of ten -/

theorem exponentOfText_eq_some_iff {cs : List Char} {k : Int} :
    exponentOfText cs = some k ↔ ∃ (sign : Option Char) (ds : List Char),
      (∀ c ∈ sign, c = '+' ∨ c = '-') ∧ IsRun ds ∧ sign.toList ++ ds = cs ∧
        (if sign = some '-' then -(natOfDigits ds : Int) else natOfDigits ds) = k := by
  unfold exponentOfText
  constructor
  · intro h
    obtain ⟨sign, hsign, hnegative, hcs⟩ := splitSign_spec cs
    dsimp only at h
    split at h
    · cases h
    next hdigits =>
      simp only [Bool.or_eq_true, List.isEmpty_iff, Bool.not_eq_true', not_or, Bool.not_eq_false,
        List.all_eq_true] at hdigits
      refine ⟨sign, _, hsign, hdigits, hcs.symm, ?_⟩
      simpa [hnegative] using h
  · rintro ⟨sign, ds, hsign, hrun, rfl, rfl⟩
    have hdigits : ds.all isDigit = true := List.all_eq_true.mpr hrun.2
    rw [splitSign_append hsign (by simpa using hrun.head?_ne_sign [])]
    simp [hrun.1, hdigits]

/-- What ends a number is nothing or a power of ten. -/
theorem exponentSuffix_eq_some_iff {cs : List Char} {k : Int} :
    exponentSuffix cs = some k ↔ ∃ power : Option Power, (∀ p ∈ power, p.Proper) ∧
      power.elim [] Power.text = cs ∧ power.elim 0 Power.exponent = k := by
  have hletter {l : Char} (hl : l = 'e' ∨ l = 'E') {ds : List Char}
      (h : exponentOfText ds = some k) : ∃ power : Option Power, (∀ p ∈ power, p.Proper) ∧
        power.elim [] Power.text = l :: ds ∧ power.elim 0 Power.exponent = k := by
    obtain ⟨sign, ds, hsign, hrun, rfl, rfl⟩ := exponentOfText_eq_some_iff.mp h
    refine ⟨some ⟨l, sign, ds⟩, ?_, rfl, rfl⟩
    rintro p ⟨⟩
    exact ⟨hl, hsign, hrun⟩
  constructor
  · intro h
    unfold exponentSuffix at h
    split at h
    · obtain rfl := Option.some.inj h
      exact ⟨none, by simp, rfl, rfl⟩
    · exact hletter (Or.inl rfl) h
    · exact hletter (Or.inr rfl) h
    · cases h
  · rintro ⟨_ | ⟨l, sign, ds⟩, hproper, rfl, rfl⟩
    · rfl
    · obtain ⟨hl, hsign, hrun⟩ := hproper _ rfl
      have h := exponentOfText_eq_some_iff.mpr ⟨sign, ds, hsign, hrun, rfl, rfl⟩
      rcases hl with rfl | rfl <;> exact h

/-! ## Decimals -/

/-- No word begins with a digit or a point. -/
theorem Binary64.ofWord?_cons {c : Char} (h : isDigit c ∨ c = '.') (negative : Bool)
    (cs : List Char) : ofWord? negative (c :: cs) = none := by
  have hall : ∀ n : Fin 128, isDigit (Char.ofNat n) ∨ Char.ofNat n = '.' →
      (Char.ofNat n).toLower ≠ 'i' ∧ (Char.ofNat n).toLower ≠ 'n' := by
    decide +kernel
  have hlt : c.toNat < 128 := toNat_lt_of_isPlain (by rcases h with h | rfl <;> simp [isPlain, *])
  have hlower := of_ascii
    (p := fun c ↦ isDigit c ∨ c = '.' → c.toLower ≠ 'i' ∧ c.toLower ≠ 'n') hall hlt h
  unfold ofWord?
  rw [List.map_cons]
  split
  · simp_all
  · simp_all
  · simp_all
  · rfl

theorem Binary64.not_isFinite_of_ofWord? {negative : Bool} {cs : List Char} {v : Binary64}
    (h : ofWord? negative cs = some v) : v.isFinite = false := by
  unfold ofWord? at h
  split at h
  · cases h
    rfl
  · cases h
    rfl
  · cases h
    rfl
  · cases h

namespace Spelling

/-- A power of ten does not go on with the digits in front of it. -/
theorem Proper.stops {e : Spelling} (he : e.Proper) :
    ∀ c ∈ (e.power.elim [] Power.text).head?, isDigit c = false ∧ c ≠ '.' := by
  cases hp : e.power with
  | none => simp
  | some p =>
      rintro c ⟨⟩
      rcases (he.power p hp).letter with h | h <;> rw [h] <;> decide

/-- Digits and points are at the front. -/
theorem Proper.exists_body_eq_cons {e : Spelling} (he : e.Proper) :
    ∃ c cs, e.body = c :: cs ∧ (isDigit c ∨ c = '.') := by
  unfold body
  cases hw : e.whole with
  | cons c cs => exact ⟨c, _, rfl, Or.inl (he.whole c (by simp [hw]))⟩
  | nil =>
      cases hf : e.fraction with
      | none => exact absurd ⟨hw, by rw [hf]; rfl⟩ he.digits
      | some ds => exact ⟨'.', _, rfl, Or.inr rfl⟩

theorem ofUnsigned?_body {e : Spelling} (he : e.Proper) :
    Decimal.ofUnsigned? (e.sign == some '-') e.body = some e.decimal := by
  have hpower : exponentSuffix (e.power.elim [] Power.text) = some (e.power.elim 0 Power.exponent) :=
    exponentSuffix_eq_some_iff.mpr ⟨e.power, he.power, rfl, rfl⟩
  -- The digits in front of the point end at the point or, without one, at the power.
  have hstop : ∀ c ∈ (e.fraction.elim [] ('.' :: ·) ++ e.power.elim [] Power.text).head?,
      isDigit c = false := by
    cases e.fraction with
    | none => exact fun c hc ↦ (he.stops c hc).1
    | some ds =>
        rintro c ⟨⟩
        decide
  obtain ⟨htake, hdrop⟩ := takeWhile_append_of_stops he.whole _ hstop
  unfold Decimal.ofUnsigned? splitDigits body
  rw [List.span_eq_takeWhile_dropWhile, htake, hdrop]
  dsimp only
  rw [splitFraction_append he.fraction he.stops]
  dsimp only
  rw [if_neg (by simpa using he.digits), hpower]
  rfl

theorem exists_of_ofUnsigned? {sign : Option Char} (hsign : ∀ c ∈ sign, c = '+' ∨ c = '-')
    {cs : List Char} {d : Decimal} (h : Decimal.ofUnsigned? (sign == some '-') cs = some d) :
    ∃ e : Spelling, e.Proper ∧ e.sign = sign ∧ e.body = cs ∧ e.decimal = d := by
  obtain ⟨fraction, hdigits, hfraction, hcs⟩ := splitFraction_spec (cs.dropWhile isDigit)
  unfold Decimal.ofUnsigned? splitDigits at h
  rw [List.span_eq_takeWhile_dropWhile] at h
  dsimp only at h
  split at h
  · cases h
  next hne =>
    rw [hfraction] at h hne
    obtain ⟨k, hk, rfl⟩ := Option.map_eq_some_iff.mp h
    obtain ⟨power, hpower, hrest, rfl⟩ := exponentSuffix_eq_some_iff.mp hk
    refine ⟨⟨sign, cs.takeWhile isDigit, fraction, power⟩, ⟨hsign, ?_, hdigits, ?_, hpower⟩, rfl, ?_,
      rfl⟩
    · exact fun c hc ↦ List.mem_takeWhile_imp hc
    · simpa using hne
    · rw [body, hrest, ← hcs, List.takeWhile_append_dropWhile]

/-! ## Numbers -/

theorem read?_text {e : Spelling} (he : e.Proper) :
    Binary64.read? e.text = some e.decimal.toBinary64 := by
  obtain ⟨c, cs, hbody, hc⟩ := he.exists_body_eq_cons
  have hhead : ∀ d ∈ e.body.head?, d ≠ '+' ∧ d ≠ '-' := by
    rw [hbody]
    rintro d ⟨⟩
    rcases hc with hc | rfl
    · exact ⟨ne_of_isDigit hc (by decide), ne_of_isDigit hc (by decide)⟩
    · decide
  have hword : Binary64.ofWord? (e.sign == some '-') e.body = none := by
    rw [hbody]
    exact Binary64.ofWord?_cons hc _ cs
  rw [Binary64.read?, text, splitSign_append he.sign hhead]
  dsimp only
  rw [hword, Option.none_or, ofUnsigned?_body he, Option.map_some]

/-- What is read as a finite number is entered as one of these texts. -/
theorem exists_of_read? {text : List Char} {v : Binary64} (h : Binary64.read? text = some v)
    (hv : v.isFinite) : ∃ e : Spelling, e.Proper ∧ e.text = text ∧ e.decimal.toBinary64 = v := by
  obtain ⟨sign, hsign, hnegative, htext⟩ := splitSign_spec text
  unfold Binary64.read? at h
  dsimp only at h
  rcases Option.or_eq_some_iff.mp h with hword | ⟨-, hnumber⟩
  · rw [Binary64.not_isFinite_of_ofWord? hword] at hv
    cases hv
  · obtain ⟨d, hd, rfl⟩ := Option.map_eq_some_iff.mp hnumber
    rw [hnegative] at hd
    obtain ⟨e, he, rfl, hbody, rfl⟩ := exists_of_ofUnsigned? hsign hd
    exact ⟨e, he, by rw [Spelling.text, hbody, ← htext], rfl⟩

end Spelling

namespace Numeral

/-- A numeral is a spelling without a power of ten. -/
def spelling (n : Numeral) : Spelling := ⟨n.sign, n.whole, n.fraction, none⟩

theorem text_spelling (n : Numeral) : n.spelling.text = n.text := by
  rcases n with ⟨sign, whole, _ | ds⟩ <;> simp [Spelling.text, Spelling.body, spelling, text]

theorem proper_spelling {n : Numeral} (hn : n.Proper) (hp : n.Plain) : n.spelling.Proper where
  sign := hn.sign
  whole := hp.1
  fraction := hp.2
  digits := by
    rintro ⟨hwhole, hfraction⟩
    cases hf : n.fraction with
    | none => exact hn.whole_ne_nil hf hwhole
    | some ds => exact (hn.fraction ds hf).1 (by simpa [spelling, hf] using hfraction)
  power := by simp [spelling]

/-- Read on its own, a numeral has the value that it has in a word. -/
theorem read?_text {n : Numeral} (hn : n.Proper) (hp : n.Plain) :
    Binary64.read? n.text = some n.decimal.toBinary64 := by
  rw [← text_spelling, Spelling.read?_text (proper_spelling hn hp)]
  rfl

end Numeral

end Toolpath
