import Mathlib.Tactic
import Toolpath.Toml.Printer
import Toolpath.Toml.Text

/-!
# Strings read back

Whichever of the four forms a string is written in, the reader that the form calls for gives the
text back and stops behind the closing quotes. In a long form up to two quotes may stand in a row, so
quotes at the end of the text run into the closing ones; they are told apart by their number alone,
and for this reason no quote may follow.
-/

namespace Toolpath.Toml

theorem toNat_lt_of_isControl {c : Char} (h : isControl c) : c.toNat < 128 := by
  simp only [isControl, Bool.or_eq_true, Bool.and_eq_true, decide_eq_true_iff] at h
  omega

theorem isPlain_of_not_isControl {c : Char} (h : ¬isControl c) (hbreak : c ≠ '\n') : isPlain c := by
  simp only [isControl, Bool.or_eq_true, Bool.and_eq_true, decide_eq_true_iff, not_or, not_and,
    not_not] at h
  simp only [isPlain, Bool.or_eq_true, Bool.and_eq_true, decide_eq_true_iff]
  by_cases htab : c = '\t'
  · exact Or.inl htab
  · refine Or.inr ⟨?_, h.2⟩
    by_contra hlt
    exact hbreak (h.1 ⟨by omega, htab⟩)

/-! ## Escapes -/

theorem hexDigit?_upper : ∀ n < 16, hexDigit? (Nat.digitChar n).toUpper = some n := by
  decide

theorem basic?_text (long : Bool) (c : Char) (cs : List Char) : basic? long .text (c :: cs) =
    if c = '\\' then basic? long .escape cs
    else if c = '"' then
      if long then (closing? '"' (c :: cs)).or (consChar c (basic? long .text cs))
      else some ([], cs)
    else if long && c = '\n' then consChar c (basic? long .text cs)
    else if long && c = '\r' && cs.head? = some '\n' then basic? long .text cs
    else if isPlain c then consChar c (basic? long .text cs)
    else none := rfl

theorem basic?_escape (long : Bool) {c e : Char} (h : escape? c = some e) (cs : List Char) :
    basic? long .text ('\\' :: c :: cs) = consChar e (basic? long .text cs) := by
  rw [basic?_text, if_pos rfl, basic?]
  simp only [reduceCtorEq, decide_false, Bool.false_and, Bool.false_eq_true, if_false, h]

theorem basic?_digit (long : Bool) {c : Char} {d : Nat} (h : hexDigit? c = some d) (left value : Nat)
    (cs : List Char) : basic? long (.digits (left + 2) value) (c :: cs) =
      basic? long (.digits (left + 1) (16 * value + d)) cs := by
  rw [basic?]
  simp [h]

theorem basic?_lastDigit (long : Bool) {c e : Char} {d value : Nat} (h : hexDigit? c = some d)
    (he : scalar? (16 * value + d) = some e) (cs : List Char) :
    basic? long (.digits 1 value) (c :: cs) = consChar e (basic? long .text cs) := by
  rw [basic?]
  simp [h, he]

theorem scalar?_toNat (c : Char) : scalar? c.toNat = some c := by
  have hvalid : c.toNat.isValidChar := c.valid
  rw [scalar?, if_pos hvalid, Char.ofNat_toNat]

/-- Two digits are enough for a control character. -/
theorem basic?_control (long : Bool) {c : Char} (h : c.toNat < 128) (cs : List Char) :
    basic? long .text (('\\' :: 'u' :: controlDigits c.toNat) ++ cs) =
      consChar c (basic? long .text cs) := by
  have hzero : hexDigit? '0' = some 0 := by decide
  have hhigh := hexDigit?_upper (c.toNat / 16) (by omega)
  have hlow := hexDigit?_upper (c.toNat % 16) (by omega)
  have hvalue : 16 * (c.toNat / 16) + c.toNat % 16 = c.toNat := Nat.div_add_mod c.toNat 16
  calc
    _ = basic? long (.digits 4 0) (controlDigits c.toNat ++ cs) := rfl
    _ = basic? long (.digits 1 (c.toNat / 16))
          ((Nat.digitChar (c.toNat % 16)).toUpper :: cs) := by
      simp only [controlDigits, List.cons_append, List.nil_append]
      rw [basic?_digit long hzero, basic?_digit long hzero, basic?_digit long hhigh]
      simp only [Nat.mul_zero, Nat.zero_add]
    _ = consChar c (basic? long .text cs) := by
      apply basic?_lastDigit long hlow
      rw [hvalue, scalar?_toNat]

/-- Only the quote is escaped by where it stands. -/
theorem basic?_escapeChar (long : Bool) {c : Char} (h : c ≠ '"') (cs : List Char) :
    basic? long .text (escapeChar long c ++ cs) = consChar c (basic? long .text cs) := by
  unfold escapeChar
  split
  · exact basic?_escape long rfl cs
  · exact basic?_escape long rfl cs
  · exact basic?_escape long rfl cs
  · exact basic?_escape long rfl cs
  · exact basic?_escape long rfl cs
  · cases long with
    | true => rfl
    | false => exact basic?_escape false rfl cs
  · split
    next hcontrol =>
      exact basic?_control long (toNat_lt_of_isControl hcontrol) cs
    next hplain =>
      have hplain := isPlain_of_not_isControl hplain (by assumption)
      rw [List.singleton_append, basic?_text]
      simp_all

/-! ## Closing quotes -/

section Closing

variable {q : Char} {rest : List Char}

theorem closing?_of_third {a b c : Char} {cs : List Char} (h : c ≠ q) :
    closing? q (a :: b :: c :: cs) = none := by
  have hall : ¬(a = q ∧ b = q ∧ c = q) := fun hall ↦ h hall.2.2
  rcases cs with _ | ⟨d, _ | ⟨e, cs⟩⟩ <;> exact if_neg hall

theorem closing?_of_second {a b : Char} {cs : List Char} (h : b ≠ q) :
    closing? q (a :: b :: cs) = none := by
  rcases cs with _ | ⟨c, cs⟩
  · rfl
  · have hall : ¬(a = q ∧ b = q ∧ c = q) := fun hall ↦ h hall.2.1
    rcases cs with _ | ⟨d, _ | ⟨e, cs⟩⟩ <;> exact if_neg hall

theorem closing?_quotes (hrest : rest.head? ≠ some q) :
    closing? q (q :: q :: q :: rest) = some ([], rest) := by
  rcases rest with _ | ⟨d, _ | ⟨e, cs⟩⟩ <;> simp_all [closing?]

theorem closing?_one (hrest : rest.head? ≠ some q) :
    closing? q (q :: q :: q :: q :: rest) = some ([q], rest) := by
  rcases rest with _ | ⟨e, cs⟩ <;> simp_all [closing?]

theorem closing?_two : closing? q (q :: q :: q :: q :: q :: rest) = some ([q, q], rest) := by
  simp [closing?]

end Closing

/-! ## Basic strings -/

/-- What is written for a character does not begin with a quote or the start of a line break. -/
theorem head?_escapeChar_append (long : Bool) {c : Char} (h : c ≠ '"') (cs : List Char) :
    ∃ d ds, escapeChar long c ++ cs = d :: ds ∧ d ≠ '"' ∧ d ≠ '\r' ∧ (d = '\n' → c = '\n') := by
  unfold escapeChar
  split
  · exact ⟨_, _, rfl, by decide⟩
  · exact ⟨_, _, rfl, by decide⟩
  · exact ⟨_, _, rfl, by decide⟩
  · exact ⟨_, _, rfl, by decide⟩
  · exact ⟨_, _, rfl, by decide⟩
  · cases long <;> exact ⟨_, _, rfl, by decide⟩
  · split
    · exact ⟨_, _, rfl, by decide, by decide, nofun⟩
    · exact ⟨_, _, rfl, h, by assumption, id⟩

theorem escapeText_cons_of_ne (long : Bool) (quotes : Nat) {c : Char} (h : c ≠ '"') (cs : List Char) :
    escapeText long quotes (c :: cs) = escapeChar long c ++ escapeText long 0 cs := by
  rw [escapeText, if_neg h]

theorem basic?_escapeText (text rest : List Char) :
    basic? false .text (escapeText false 0 text ++ '"' :: rest) = some (text, rest) := by
  induction text with
  | nil => rfl
  | cons c cs ih =>
      by_cases hc : c = '"'
      · subst hc
        have hescaped : escapeText false 0 ('"' :: cs) = '\\' :: '"' :: escapeText false 0 cs := rfl
        rw [hescaped, List.cons_append, List.cons_append, basic?_escape false rfl, ih, consChar]
      · rw [escapeText_cons_of_ne false 0 hc, List.append_assoc, basic?_escapeChar false hc, ih, consChar]

theorem escapeText_quote {quotes : Nat} (h : quotes < 2) (cs : List Char) :
    escapeText true quotes ('"' :: cs) = '"' :: escapeText true (quotes + 1) cs := by
  rw [escapeText, if_pos rfl, if_pos rfl, if_pos h]

theorem escapeText_quote_of_le {quotes : Nat} (h : 2 ≤ quotes) (cs : List Char) :
    escapeText true quotes ('"' :: cs) = '\\' :: '"' :: escapeText true 0 cs := by
  rw [escapeText, if_pos rfl, if_pos rfl, if_neg (by omega)]

/-- A quote that stands for itself is closed only where the rest of the text is quotes. -/
theorem closing?_escapeText {rest : List Char} (hrest : rest.head? ≠ some '"') (cs : List Char)
    {quotes : Nat} (hquotes : quotes < 2) :
    closing? '"' ('"' :: (escapeText true (quotes + 1) cs ++ '"' :: '"' :: '"' :: rest)) = none ∨
      closing? '"' ('"' :: (escapeText true (quotes + 1) cs ++ '"' :: '"' :: '"' :: rest)) =
        some ('"' :: cs, rest) := by
  rcases cs with _ | ⟨c, cs⟩
  · exact Or.inr (closing?_one hrest)
  by_cases hc : c = '"'
  · subst hc
    by_cases hsecond : quotes + 1 < 2
    · rw [escapeText_quote hsecond]
      obtain rfl : quotes = 0 := by omega
      rcases cs with _ | ⟨d, cs⟩
      · exact Or.inr closing?_two
      by_cases hd : d = '"'
      · rw [hd, escapeText_quote_of_le (by decide)]
        exact Or.inl (closing?_of_third (by decide))
      · obtain ⟨e, es, he, hne, -⟩ := head?_escapeChar_append true hd (escapeText true 0 cs)
        rw [escapeText_cons_of_ne true _ hd, he]
        exact Or.inl (closing?_of_third hne)
    · rw [escapeText_quote_of_le (by omega)]
      exact Or.inl (closing?_of_second (by decide))
  · obtain ⟨e, es, he, hne, -⟩ := head?_escapeChar_append true hc (escapeText true 0 cs)
    rw [escapeText_cons_of_ne true _ hc, he]
    exact Or.inl (closing?_of_second hne)

/-- Where a quote stands for itself, the reader has to see that it does not belong to the closing
ones, or how many of them do not. -/
theorem basic?_escapeText_long {rest : List Char} (hrest : rest.head? ≠ some '"') (text : List Char)
    (quotes : Nat) : basic? true .text (escapeText true quotes text ++ '"' :: '"' :: '"' :: rest) =
      some (text, rest) := by
  induction text generalizing quotes with
  | nil =>
      rw [escapeText, List.nil_append, basic?_text, closing?_quotes hrest]
      rfl
  | cons c cs ih =>
      by_cases hc : c = '"'
      · subst hc
        by_cases hquotes : quotes < 2
        · rw [escapeText_quote hquotes, List.cons_append, basic?_text, ih, consChar]
          rcases closing?_escapeText hrest cs hquotes with h | h <;> rw [h] <;> rfl
        · rw [escapeText_quote_of_le (by omega), List.cons_append, List.cons_append,
            basic?_escape true rfl, ih, consChar]
      · rw [escapeText_cons_of_ne true quotes hc, List.append_assoc, basic?_escapeChar true hc, ih,
          consChar]

/-! ## Literal strings -/

theorem le_longestRun (c : Char) (run : Nat) (cs : List Char) : run ≤ longestRun c run cs := by
  induction cs generalizing run with
  | nil => exact le_rfl
  | cons d cs ih =>
      rw [longestRun]
      split
      · exact (Nat.le_succ run).trans (ih (run + 1))
      · exact Nat.le_max_left _ _

theorem longestRun_mono (c : Char) {m n : Nat} (h : m ≤ n) (cs : List Char) :
    longestRun c m cs ≤ longestRun c n cs := by
  induction cs generalizing m n with
  | nil => exact h
  | cons d cs ih =>
      rw [longestRun, longestRun]
      split
      · exact ih (Nat.succ_le_succ h)
      · exact max_le_max h le_rfl

theorem longestRun_le_cons (c d : Char) (cs : List Char) :
    longestRun c 0 cs ≤ longestRun c 0 (d :: cs) := by
  rw [longestRun]
  split
  · exact longestRun_mono c (Nat.zero_le 1) cs
  · exact Nat.le_max_right _ _

theorem notMem_of_longestRun_eq_zero {c : Char} {cs : List Char} (h : longestRun c 0 cs = 0) :
    c ∉ cs := by
  induction cs with
  | nil => exact List.not_mem_nil
  | cons d cs ih =>
      have hrest := longestRun_le_cons c d cs
      rw [List.mem_cons, not_or]
      refine ⟨?_, ih (by omega)⟩
      rintro rfl
      have hfirst := le_longestRun c (0 + 1) cs
      rw [longestRun, if_pos rfl] at h
      omega

theorem literal?_cons (long : Bool) (c : Char) (cs : List Char) : literal? long (c :: cs) =
    if c = '\x27' then
      if long then (closing? c (c :: cs)).or (consChar c (literal? long cs))
      else some ([], cs)
    else if long && c = '\n' then consChar c (literal? long cs)
    else if long && c = '\r' && cs.head? = some '\n' then literal? long cs
    else if isPlain c then consChar c (literal? long cs)
    else none := rfl

theorem isControl_return : isControl '\r' := by
  decide

/-- A character of a literal string stands for itself. -/
theorem literal?_of_not_isControl (long : Bool) {c : Char} (hquote : c ≠ '\x27')
    (hcontrol : ¬isControl c) (hbreak : long ∨ c ≠ '\n') (cs : List Char) :
    literal? long (c :: cs) = consChar c (literal? long cs) := by
  have hreturn : c ≠ '\r' := fun h ↦ hcontrol (h ▸ isControl_return)
  rw [literal?_cons, if_neg hquote]
  by_cases hc : c = '\n'
  · rw [if_pos (by simp [hbreak.resolve_right (not_not.mpr hc), hc])]
  · simp [hc, hreturn, isPlain_of_not_isControl hcontrol hc]

theorem literal?_append {text : List Char}
    (h : ∀ c ∈ text, ¬isControl c ∧ c ≠ '\x27' ∧ c ≠ '\n') (rest : List Char) :
    literal? false (text ++ '\x27' :: rest) = some (text, rest) := by
  induction text with
  | nil => rfl
  | cons c cs ih =>
      obtain ⟨hcontrol, hquote, hbreak⟩ := h c List.mem_cons_self
      rw [List.cons_append, literal?_of_not_isControl false hquote hcontrol (Or.inr hbreak),
        ih fun d hd ↦ h d (List.mem_cons_of_mem c hd), consChar]

theorem closing?_literal {rest : List Char} (hrest : rest.head? ≠ some '\x27') {cs : List Char}
    (hrun : longestRun '\x27' 0 ('\x27' :: cs) ≤ 2) :
    closing? '\x27' ('\x27' :: (cs ++ '\x27' :: '\x27' :: '\x27' :: rest)) = none ∨
      closing? '\x27' ('\x27' :: (cs ++ '\x27' :: '\x27' :: '\x27' :: rest)) =
        some ('\x27' :: cs, rest) := by
  rcases cs with _ | ⟨c, cs⟩
  · exact Or.inr (closing?_one hrest)
  by_cases hc : c = '\x27'
  · subst hc
    rcases cs with _ | ⟨d, cs⟩
    · exact Or.inr closing?_two
    · refine Or.inl (closing?_of_third ?_)
      rintro rfl
      have hthree := le_longestRun '\x27' 3 cs
      exact absurd (hthree.trans hrun) (by decide)
  · exact Or.inl (closing?_of_second hc)

theorem literal?_append_long {rest : List Char} (hrest : rest.head? ≠ some '\x27') {text : List Char}
    (h : ∀ c ∈ text, ¬isControl c) (hrun : longestRun '\x27' 0 text ≤ 2) :
    literal? true (text ++ '\x27' :: '\x27' :: '\x27' :: rest) = some (text, rest) := by
  induction text with
  | nil =>
      rw [List.nil_append, literal?_cons, closing?_quotes hrest]
      rfl
  | cons c cs ih =>
      have hcs := ih (fun d hd ↦ h d (List.mem_cons_of_mem c hd))
        ((longestRun_le_cons _ c cs).trans hrun)
      by_cases hc : c = '\x27'
      · subst hc
        rw [List.cons_append, literal?_cons, hcs, consChar]
        rcases closing?_literal hrest hrun with h | h <;> rw [h] <;> rfl
      · rw [List.cons_append, literal?_of_not_isControl true hc (h c List.mem_cons_self) (Or.inl rfl),
          hcs, consChar]

/-! ## The four forms -/

/-- A literal form is taken where nothing has to be escaped and the quotes cannot end it. -/
theorem formOf_spec (text : List Char) :
    (formOf text = .literal →
      (∀ c ∈ text, ¬isControl c) ∧ longestRun '\x27' 0 text = 0 ∧ '\n' ∉ text) ∧
    (formOf text = .longLiteral →
      (∀ c ∈ text, ¬isControl c) ∧ longestRun '\x27' 0 text ≤ 2) := by
  have hcontrols : (!text.any isControl) = true → ∀ c ∈ text, ¬isControl c := by
    simp
  unfold formOf
  dsimp only
  split
  · exact ⟨nofun, nofun⟩
  split
  next h =>
    simp only [Bool.and_eq_true, decide_eq_true_iff, Bool.not_eq_true', List.contains_eq_mem,
      decide_eq_false_iff_not] at h
    refine ⟨fun _ ↦ ⟨hcontrols ?_, h.1.2, h.2⟩, nofun⟩
    rw [h.1.1, Bool.not_false]
  split
  · exact ⟨nofun, nofun⟩
  split
  next h =>
    rw [Bool.and_eq_true, decide_eq_true_iff] at h
    exact ⟨nofun, fun _ ↦ ⟨hcontrols h.1, h.2⟩⟩
  split
  · exact ⟨nofun, nofun⟩
  · exact ⟨nofun, nofun⟩

theorem newline?_eq_none {cs : List Char} (hfeed : cs.head? ≠ some '\n')
    (hreturn : cs.head? ≠ some '\r') : newline? cs = none := by
  unfold newline?
  split
  · exact absurd rfl hfeed
  · exact absurd rfl hreturn
  · rfl

/-- The line break that opens a long string with breaks is not part of it. -/
theorem newline?_lead (text : List Char) {cs : List Char}
    (h : '\n' ∉ text → cs.head? ≠ some '\n' ∧ cs.head? ≠ some '\r') :
    (newline? ((if text.contains '\n' then ['\n'] else []) ++ cs)).getD
      ((if text.contains '\n' then ['\n'] else []) ++ cs) = cs := by
  split
  next => rfl
  next hbreak =>
    obtain ⟨hfeed, hreturn⟩ := h (by simpa using hbreak)
    rw [List.nil_append, newline?_eq_none hfeed hreturn, Option.getD_none]

theorem string?_basic {cs : List Char} (h : ∀ ds, cs ≠ '"' :: '"' :: ds) :
    string? ('"' :: cs) = basic? false .text cs := by
  unfold string?
  split <;> simp_all

theorem string?_literal {cs : List Char} (h : ∀ ds, cs ≠ '\x27' :: '\x27' :: ds) :
    string? ('\x27' :: cs) = literal? false cs := by
  unfold string?
  split <;> simp_all

theorem escapeText_append_ne {rest : List Char} (h : rest.head? ≠ some '"') (text ds : List Char) :
    escapeText false 0 text ++ '"' :: rest ≠ '"' :: '"' :: ds := by
  rcases text with _ | ⟨c, cs⟩
  · rintro ⟨⟩
    exact h rfl
  by_cases hc : c = '"'
  · subst hc
    rintro ⟨⟩
  · obtain ⟨e, es, he, hne, -⟩ := head?_escapeChar_append false hc (escapeText false 0 cs)
    rw [escapeText_cons_of_ne false 0 hc, he]
    exact fun heq ↦ hne (List.cons.inj heq).1

theorem head?_escapeText_append {text : List Char} (cs : List Char) (h : '\n' ∉ text) :
    (escapeText true 0 text ++ '"' :: cs).head? ≠ some '\n' ∧
      (escapeText true 0 text ++ '"' :: cs).head? ≠ some '\r' := by
  rcases text with _ | ⟨c, text⟩
  · exact ⟨by rintro ⟨⟩, by rintro ⟨⟩⟩
  by_cases hc : c = '"'
  · rw [hc, escapeText_quote (by decide)]
    exact ⟨by rintro ⟨⟩, by rintro ⟨⟩⟩
  · obtain ⟨e, es, he, -, hreturn, hbreak⟩ := head?_escapeChar_append true hc (escapeText true 0 text)
    rw [escapeText_cons_of_ne true 0 hc, he]
    refine ⟨fun heq ↦ h ?_, fun heq ↦ hreturn (Option.some.inj heq)⟩
    rw [← hbreak (Option.some.inj heq)]
    exact List.mem_cons_self

theorem append_ne_of_notMem {q : Char} {text rest : List Char} (htext : q ∉ text)
    (hrest : rest.head? ≠ some q) (ds : List Char) : text ++ q :: rest ≠ q :: q :: ds := by
  rcases text with _ | ⟨c, text⟩
  · rintro ⟨⟩
    exact hrest rfl
  · intro heq
    refine htext ?_
    rw [← (List.cons.inj heq).1]
    exact List.mem_cons_self

theorem head?_literal_append {text : List Char} (hcontrol : ∀ c ∈ text, ¬isControl c)
    (cs : List Char) (h : '\n' ∉ text) : (text ++ '\x27' :: cs).head? ≠ some '\n' ∧
      (text ++ '\x27' :: cs).head? ≠ some '\r' := by
  rcases text with _ | ⟨c, text⟩
  · exact ⟨by rintro ⟨⟩, by rintro ⟨⟩⟩
  · refine ⟨fun heq ↦ h ?_, fun heq ↦ hcontrol c List.mem_cons_self ?_⟩
    · rw [← Option.some.inj heq]
      exact List.mem_cons_self
    · rw [Option.some.inj heq]
      exact isControl_return

/-- A quoted text is read back, and reading stops behind it. -/
theorem string?_quote (text : List Char) {rest : List Char} (hdouble : rest.head? ≠ some '"')
    (hsingle : rest.head? ≠ some '\x27') : string? (quote text ++ rest) = some (text, rest) := by
  unfold quote
  dsimp only
  split <;> simp only [List.append_assoc, List.cons_append, List.nil_append]
  next h =>
    rw [string?_basic (escapeText_append_ne hdouble text)]
    exact basic?_escapeText text rest
  next h =>
    obtain ⟨hcontrol, hquotes, hbreak⟩ := (formOf_spec text).1 h
    have hquote := notMem_of_longestRun_eq_zero hquotes
    rw [string?_literal (append_ne_of_notMem hquote hsingle)]
    refine literal?_append (fun c hc ↦ ⟨hcontrol c hc, ?_, ?_⟩) rest
    · exact ne_of_mem_of_not_mem hc hquote
    · exact ne_of_mem_of_not_mem hc hbreak
  next h =>
    rw [string?, newline?_lead text (head?_escapeText_append _)]
    exact basic?_escapeText_long hdouble text 0
  next h =>
    obtain ⟨hcontrol, hrun⟩ := (formOf_spec text).2 h
    rw [string?, newline?_lead text (head?_literal_append hcontrol _)]
    exact literal?_append_long hsingle hcontrol hrun

end Toolpath.Toml
