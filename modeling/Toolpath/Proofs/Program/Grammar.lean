import Toolpath.Proofs.Number.Entered

/-!
# The grammar of words

A text opens with a word where a capital letter is directly followed by a numeral, of which the
longest one counts. The scanner finds the words of a text where it opens with them and nowhere else,
once each and in order, although it does not look again at the characters of a numeral. What a block
keeps of the words are the finite numbers that their numerals are read as.
-/

namespace Toolpath

namespace Numeral

/-! ## The longest numeral -/

/-- The digits at the front go on behind a point, or they do not. -/
theorem splitDigits?_cases (sign : Option Char) (cs : List Char) :
    (∃ tail, cs.dropWhile isDecimalDigit = '.' :: tail ∧ tail.takeWhile isDecimalDigit ≠ [] ∧
      splitDigits? sign cs = some (⟨sign, cs.takeWhile isDecimalDigit,
        some (tail.takeWhile isDecimalDigit)⟩, tail.dropWhile isDecimalDigit)) ∨
    ((∀ tail, cs.dropWhile isDecimalDigit = '.' :: tail → tail.takeWhile isDecimalDigit = []) ∧
      splitDigits? sign cs = if cs.takeWhile isDecimalDigit = [] then none else
        some (⟨sign, cs.takeWhile isDecimalDigit, none⟩, cs.dropWhile isDecimalDigit)) := by
  unfold splitDigits?
  generalize cs.takeWhile isDecimalDigit = whole
  generalize cs.dropWhile isDecimalDigit = rest
  dsimp only
  split
  next tail =>
    by_cases h : tail.takeWhile isDecimalDigit = []
    · right
      refine ⟨?_, by simp [h]⟩
      intro t ht
      rwa [← (List.cons.inj ht).2]
    · left
      exact ⟨tail, rfl, h, by simp [h]⟩
  next hpoint =>
    right
    refine ⟨fun tail h ↦ absurd h (hpoint tail), ?_⟩
    cases whole <;> rfl

theorem isDecimalDigit_of_mem_takeWhile {cs : List Char} {c : Char}
    (h : c ∈ cs.takeWhile isDecimalDigit) : isDecimalDigit c :=
  List.mem_takeWhile_imp h

theorem proper_of_splitDigits? {sign : Option Char} (hsign : ∀ c ∈ sign, c = '+' ∨ c = '-')
    {cs rest : List Char} {n : Numeral} (h : splitDigits? sign cs = some (n, rest)) :
    n.Proper ∧ n.sign = sign := by
  rcases splitDigits?_cases sign cs with ⟨tail, -, hne, hs⟩ | ⟨-, hs⟩
  · rw [hs] at h
    obtain ⟨rfl, -⟩ := Prod.mk.inj (Option.some.inj h)
    refine ⟨⟨hsign, fun c hc ↦ isDecimalDigit_of_mem_takeWhile hc, by simp, ?_⟩, rfl⟩
    intro ds hds
    obtain rfl := Option.some.inj hds
    exact ⟨hne, fun c hc ↦ isDecimalDigit_of_mem_takeWhile hc⟩
  · rw [hs] at h
    split at h
    · cases h
    next hne =>
      obtain ⟨rfl, -⟩ := Prod.mk.inj (Option.some.inj h)
      exact ⟨⟨hsign, fun c hc ↦ isDecimalDigit_of_mem_takeWhile hc, fun _ ↦ hne, by simp⟩, rfl⟩

theorem splitSign_eq_plus_or_minus (cs : List Char) :
    ∀ c ∈ (splitSign cs).1, c = '+' ∨ c = '-' := by
  unfold splitSign
  split <;> simp

theorem proper_of_split? {cs rest : List Char} {n : Numeral} (h : split? cs = some (n, rest)) :
    n.Proper :=
  (proper_of_splitDigits? (splitSign_eq_plus_or_minus cs) h).1

theorem exists_splitDigits? {m : Numeral} (hm : m.Proper) (sign : Option Char)
    (rest : List Char) : ∃ n rest', splitDigits? sign (m.body ++ rest) = some (n, rest') ∧
      m.body.length ≤ n.body.length := by
  cases hf : m.fraction with
  | none =>
      have htake : (m.body ++ rest).takeWhile isDecimalDigit =
          m.whole ++ rest.takeWhile isDecimalDigit := by
        simp only [body, hf, List.append_nil]
        exact List.takeWhile_append_of_pos hm.whole
      have hlen : m.body.length = m.whole.length := by simp [body, hf]
      rcases splitDigits?_cases sign (m.body ++ rest) with ⟨tail, -, -, hs⟩ | ⟨-, hs⟩
      · refine ⟨_, _, hs, ?_⟩
        rw [hlen, htake]
        simp only [body, List.length_append]
        omega
      · have hne : m.whole ++ rest.takeWhile isDecimalDigit ≠ [] := by
          simp [hm.whole_ne_nil hf]
        rw [htake, if_neg hne] at hs
        refine ⟨_, _, hs, ?_⟩
        rw [hlen]
        simp only [body, List.length_append]
        omega
  | some ds =>
      obtain ⟨hne, hds⟩ := hm.fraction ds hf
      have hbody : m.body ++ rest = m.whole ++ '.' :: (ds ++ rest) := by simp [body, hf]
      obtain ⟨htake, hdrop⟩ := takeWhile_append_of_stops hm.whole ('.' :: (ds ++ rest))
        (by simp; decide)
      have hds' : (ds ++ rest).takeWhile isDecimalDigit = ds ++ rest.takeWhile isDecimalDigit :=
        List.takeWhile_append_of_pos hds
      rw [hbody]
      rcases splitDigits?_cases sign (m.whole ++ '.' :: (ds ++ rest)) with
        ⟨tail, htail, -, hs⟩ | ⟨hstop, -⟩
      · rw [hdrop] at htail
        obtain rfl := (List.cons.inj htail).2
        refine ⟨_, _, hs, ?_⟩
        rw [htake, hds']
        simp only [body, hf, List.length_append, List.length_cons]
        omega
      · have := hstop _ hdrop
        rw [hds'] at this
        exact absurd (List.append_eq_nil_iff.mp this).1 hne

/-- Where a text begins with a numeral, one at least as long is split off. -/
theorem exists_split? {m : Numeral} (hm : m.Proper) {cs : List Char} (h : m.text <+: cs) :
    ∃ n rest, split? cs = some (n, rest) ∧ m.text.length ≤ n.text.length := by
  obtain ⟨r, rfl⟩ := h
  obtain ⟨n, rest, hs, hlen⟩ := exists_splitDigits? hm m.sign r
  refine ⟨n, rest, ?_, ?_⟩
  · unfold split?
    rw [splitSign_text_append hm]
    exact hs
  · rw [text_eq, text_eq, (proper_of_splitDigits? hm.sign hs).2, List.length_append,
      List.length_append]
    omega

/-! ## Values -/

/-- What is read as a finite number consists of ASCII digits. -/
theorem plain_of_read? {n : Numeral} (hn : n.Proper) {v : Binary64}
    (h : Binary64.read? n.text = some v) (hv : v.isFinite) : n.Plain := by
  have hdigit {c : Char} (hc : c ∈ n.body) (hd : isDecimalDigit c) : isDigit c := by
    refine isDigit_of_isNumberChar (isNumberChar_of_read? h hv c ?_) hd
    rw [text_eq]
    exact List.mem_append_right _ hc
  constructor
  · intro c hc
    exact hdigit (mem_body.mpr (Or.inl hc)) (hn.whole c hc)
  · intro ds hds c hc
    exact hdigit (mem_body.mpr (Or.inr ⟨ds, hds, Or.inr hc⟩)) ((hn.fraction ds hds).2 c hc)

/-- The value of a numeral is what its text is read as, where that is finite. -/
theorem value?_eq {n : Numeral} (hn : n.Proper) :
    n.value? = (Binary64.read? n.text).filter Binary64.isFinite := by
  unfold value?
  by_cases hp : n.Plain
  · rw [decimal?_of_plain hp, read?_text hn hp, Option.map_some]
  · have hread : (Binary64.read? n.text).filter Binary64.isFinite = none :=
      Option.filter_eq_none_iff.mpr fun v hv hfinite ↦ hp (plain_of_read? hn hv hfinite)
    rw [hread]
    unfold decimal?
    dsimp only
    rw [if_neg]
    · rfl
    · intro hall
      apply hp
      simp only [Bool.and_eq_true, List.all_eq_true] at hall
      refine ⟨hall.1, ?_⟩
      intro ds hds
      simpa [Option.mem_def.mp hds] using hall.2

end Numeral

namespace Word

/-! ## Words at the front of a text -/

/-- The text opens with the word, and its numeral does not go on. -/
structure Opens (w : Word) (cs : List Char) : Prop where
  letter : isLetter w.letter
  proper : w.numeral.Proper
  front : w.text <+: cs
  longest : ∀ n : Numeral, n.Proper → w.letter :: n.text <+: cs →
    n.text.length ≤ w.numeral.text.length

def atFront? : List Char → Option Word
  | [] => none
  | c :: cs => if isLetter c then (Numeral.split? cs).map fun s ↦ ⟨c, s.1⟩ else none

theorem opens_of_split? {c : Char} {cs rest : List Char} {n : Numeral} (hc : isLetter c)
    (h : Numeral.split? cs = some (n, rest)) : Opens ⟨c, n⟩ (c :: cs) where
  letter := hc
  proper := Numeral.proper_of_split? h
  front := by
    rw [text, List.cons_prefix_cons]
    exact ⟨rfl, rest, Numeral.text_append_of_split? h⟩
  longest := by
    intro m hm hfront
    obtain ⟨k, rest', hk, hlen⟩ := Numeral.exists_split? hm (List.cons_prefix_cons.mp hfront).2
    rw [h] at hk
    obtain ⟨rfl, -⟩ := Prod.mk.inj (Option.some.inj hk)
    exact hlen

theorem Opens.unique {w v : Word} {cs : List Char} (hw : w.Opens cs) (hv : v.Opens cs) : w = v := by
  obtain ⟨l, n⟩ := w
  obtain ⟨k, m⟩ := v
  have hfw := hw.front
  have hfv := hv.front
  cases cs with
  | nil => simp [text] at hfw
  | cons c cs =>
      obtain rfl : l = c := (List.cons_prefix_cons.mp hfw).1
      obtain rfl : k = l := (List.cons_prefix_cons.mp hfv).1
      have hlen : n.text.length = m.text.length :=
        le_antisymm (hv.longest n hw.proper hfw) (hw.longest m hv.proper hfv)
      have htext : n.text = m.text :=
        List.IsPrefix.eq_of_length (List.prefix_of_prefix_length_le
          (List.cons_prefix_cons.mp hfw).2 (List.cons_prefix_cons.mp hfv).2 hlen.le) hlen
      exact congrArg _ (hw.proper.eq_of_text_eq hv.proper htext)

theorem atFront?_eq_some_iff {w : Word} {cs : List Char} : atFront? cs = some w ↔ w.Opens cs := by
  have hsound {v : Word} (h : atFront? cs = some v) : v.Opens cs := by
    cases cs with
    | nil => cases h
    | cons c cs =>
        rw [atFront?] at h
        split at h
        next hc =>
          obtain ⟨⟨n, rest⟩, hs, rfl⟩ := Option.map_eq_some_iff.mp h
          exact opens_of_split? hc hs
        next => cases h
  refine ⟨hsound, ?_⟩
  intro hw
  suffices hex : ∃ v, atFront? cs = some v by
    obtain ⟨v, hv⟩ := hex
    rw [hv, hw.unique (hsound hv)]
  have hfront := hw.front
  cases cs with
  | nil => simp [text] at hfront
  | cons c cs =>
      obtain ⟨rfl, hnumeral⟩ := List.cons_prefix_cons.mp hfront
      obtain ⟨n, rest, hs, -⟩ := Numeral.exists_split? hw.proper hnumeral
      exact ⟨⟨w.letter, n⟩, by rw [atFront?, if_pos hw.letter, hs]; rfl⟩

/-! ## Words of a text -/

theorem isLetter_eq_false_of_isDecimalDigit {c : Char} (h : isDecimalDigit c) :
    isLetter c = false := by
  have hall : ∀ n : Fin 128, isDecimalDigit (Char.ofNat n) → isLetter (Char.ofNat n) = false := by
    decide +kernel
  by_contra hc
  rw [Bool.not_eq_false] at hc
  have hlt := toNat_lt_of_isPlain (c := c) (by simp [isPlain, hc])
  rw [of_ascii (p := fun c ↦ isDecimalDigit c → isLetter c = false) hall hlt h] at hc
  cases hc

theorem isLetter_eq_false_of_mem_text {n : Numeral} (hn : n.Proper) {c : Char} (h : c ∈ n.text) :
    isLetter c = false := by
  rw [Numeral.text_eq, List.mem_append, Option.mem_toList] at h
  rcases h with h | h
  · rcases hn.sign c h with rfl | rfl <;> decide
  · rcases hn.isDecimalDigit_or_of_mem_body h with h | rfl
    · exact isLetter_eq_false_of_isDecimalDigit h
    · decide

theorem scan_append_of_no_letter {cs : List Char} (h : ∀ c ∈ cs, isLetter c = false)
    (rest : List Char) : scan (cs ++ rest) = scan rest := by
  induction cs with
  | nil => rfl
  | cons c cs ih =>
      rw [List.cons_append, scan_cons_of_not_isLetter (h c List.mem_cons_self)]
      exact ih fun d hd ↦ h d (List.mem_cons_of_mem c hd)

/-- Passing over a numeral passes over no word, for a numeral has no letters. -/
theorem scan_cons (c : Char) (cs : List Char) :
    scan (c :: cs) = (atFront? (c :: cs)).toList ++ scan cs := by
  rw [scan, atFront?]
  split
  next hc =>
    split
    next n rest hs =>
      have hcs := Numeral.text_append_of_split? hs
      have hn := Numeral.proper_of_split? hs
      rw [hs, ← hcs, scan_append_of_no_letter fun d hd ↦ isLetter_eq_false_of_mem_text hn hd]
      rfl
    next hs =>
      rw [hs]
      rfl
  next => rfl

/-- The words of a text with their places, counted from the given number on. -/
def occurrences : Nat → List Char → List (Nat × Word)
  | _, [] => []
  | i, c :: cs => ((atFront? (c :: cs)).map (i, ·)).toList ++ occurrences (i + 1) cs

theorem map_snd_occurrences (i : Nat) (cs : List Char) :
    (occurrences i cs).map Prod.snd = scan cs := by
  induction cs generalizing i with
  | nil => rw [occurrences, scan, List.map_nil]
  | cons c cs ih =>
      rw [occurrences, List.map_append, ih, scan_cons]
      cases atFront? (c :: cs) <;> rfl

theorem mem_occurrences_iff {i k : Nat} {w : Word} {cs : List Char} :
    (k, w) ∈ occurrences i cs ↔ ∃ m, k = i + m ∧ w.Opens (cs.drop m) := by
  induction cs generalizing i with
  | nil =>
      constructor
      · intro h
        cases h
      · rintro ⟨m, -, hw⟩
        have hfront := hw.front
        simp [text] at hfront
  | cons c cs ih =>
      have hhere : (k, w) ∈ ((atFront? (c :: cs)).map (i, ·)).toList ↔
          k = i ∧ w.Opens (c :: cs) := by
        rw [← atFront?_eq_some_iff]
        cases atFront? (c :: cs) <;> simp [eq_comm]
      rw [occurrences, List.mem_append, hhere, ih]
      constructor
      · rintro (⟨rfl, hw⟩ | ⟨m, rfl, hw⟩)
        · exact ⟨0, rfl, hw⟩
        · exact ⟨m + 1, by omega, hw⟩
      · rintro ⟨_ | m, rfl, hw⟩
        · exact Or.inl ⟨rfl, hw⟩
        · exact Or.inr ⟨m, by omega, hw⟩

theorem pairwise_occurrences (i : Nat) (cs : List Char) :
    ((occurrences i cs).map Prod.fst).Pairwise (· < ·) := by
  induction cs generalizing i with
  | nil => exact List.Pairwise.nil
  | cons c cs ih =>
      have hlater : ∀ k ∈ (occurrences (i + 1) cs).map Prod.fst, i < k := by
        intro k hk
        obtain ⟨⟨k, w⟩, hkw, rfl⟩ := List.mem_map.mp hk
        obtain ⟨m, rfl, -⟩ := mem_occurrences_iff.mp hkw
        dsimp only
        omega
      rw [occurrences, List.map_append]
      cases atFront? (c :: cs) with
      | none => exact ih (i + 1)
      | some w => exact List.pairwise_cons.mpr ⟨hlater, ih (i + 1)⟩

example : (occurrences 0 "X1.2.3Y1.J+-1I-.5".toList).map (fun o ↦ (o.1, o.2.letter,
    String.ofList o.2.numeral.text)) = [(0, 'X', "1.2"), (6, 'Y', "1"), (13, 'I', "-.5")] := by
  decide +kernel

/-- The finite number that the numeral of the word is read as. -/
def kept? (w : Word) : Option Binary64 :=
  (Binary64.read? w.numeral.text).filter Binary64.isFinite

/-- What is kept of the words with a letter, in order. -/
def keptOf (letter : Char) (ws : List Word) : List Binary64 :=
  (ws.filter (·.letter = letter)).filterMap kept?

theorem keptOf_append (letter : Char) (ws vs : List Word) :
    keptOf letter (ws ++ vs) = keptOf letter ws ++ keptOf letter vs := by
  simp [keptOf]

theorem keptOf_append_singleton (letter : Char) (ws : List Word) (w : Word) :
    keptOf letter (ws ++ [w]) =
      keptOf letter ws ++ if w.letter = letter then w.kept?.toList else [] := by
  rw [keptOf_append, List.append_right_inj]
  unfold keptOf
  by_cases h : w.letter = letter
  · cases hk : w.kept? <;> simp [h, hk]
  · simp [h]

end Word

namespace Block

open Word

/-- All codes that words keep, the last coordinate or offset that they keep of each letter, and the
number of words that keep nothing. -/
def ofKept (ws : List Word) : Block where
  codes := keptOf 'G' ws
  x := (keptOf 'X' ws).getLast?
  y := (keptOf 'Y' ws).getLast?
  i := (keptOf 'I' ws).getLast?
  j := (keptOf 'J' ws).getLast?
  dropped := ws.countP (·.kept?.isNone)

theorem ofWords_eq_ofKept {ws : List Word} (h : ∀ w ∈ ws, w.numeral.Proper) :
    ofWords ws = ofKept ws := by
  induction ws using List.reverseRecOn with
  | nil => rfl
  | append_singleton ws w ih =>
      have hw : w.numeral.value? = w.kept? := Numeral.value?_eq (h w (by simp))
      have ih := ih fun v hv ↦ h v (List.mem_append_left _ hv)
      have hadd : ofWords (ws ++ [w]) = (ofWords ws).add w := by simp [ofWords]
      rw [hadd, ih]
      unfold add ofKept
      rw [hw]
      simp only [keptOf_append_singleton, List.countP_append]
      cases hk : w.kept? with
      | none => simp [hk]
      | some v =>
          dsimp only
          split
          next hl => simp [hl, hk]
          next hl => simp [hl, hk]
          next hl => simp [hl, hk]
          next hl => simp [hl, hk]
          next hl => simp [hl, hk]
          next hG hX hY hI hJ =>
            simp [if_neg hG, if_neg hX, if_neg hY, if_neg hI, if_neg hJ, hk]

/-- A line is read as the words of its code: one where the code opens with it, in the order of their
places, and no other. A line without code is not read. -/
theorem read?_eq_of_occurrences (line : List Char) :
    let code := uppercase (stripComment line)
    ∃ found : List (Nat × Word), (found.map Prod.fst).Pairwise (· < ·) ∧
      (∀ k w, (k, w) ∈ found ↔ w.Opens (code.drop k)) ∧
      read? line = if code = [] then none else some (ofKept (found.map Prod.snd)) := by
  intro code
  have hmem {k : Nat} {w : Word} : (k, w) ∈ occurrences 0 code ↔ w.Opens (code.drop k) := by
    simp [mem_occurrences_iff]
  have hproper : ∀ w ∈ (occurrences 0 code).map Prod.snd, w.numeral.Proper := by
    intro w hw
    obtain ⟨⟨k, w⟩, hkw, rfl⟩ := List.mem_map.mp hw
    exact (hmem.mp hkw).proper
  refine ⟨occurrences 0 code, pairwise_occurrences 0 code, fun k w ↦ hmem, ?_⟩
  rw [← ofWords_eq_ofKept hproper, map_snd_occurrences]
  unfold read?
  simp only [List.isEmpty_iff]
  rfl

end Block

end Toolpath
