import Toolpath.Proofs.Number.Spelled

/-!
# Entered numbers

A text that is read as a finite number consists of digits, signs, points and the letter of an
exponent, however it is spelled. It holds no blank, no comment and no line end, and in upper case its
only letter is that of the exponent.
-/

namespace Toolpath

/-- The characters that a finite number can be entered with. -/
def isNumberChar (c : Char) : Bool :=
  isDigit c || c = '+' || c = '-' || c = '.' || c = 'e' || c = 'E'

theorem isNumberChar_of_isDigit {c : Char} (h : isDigit c) : isNumberChar c := by
  simp [isNumberChar, h]

theorem isNumberChar_of_sign {c : Char} (h : c = '+' ∨ c = '-') : isNumberChar c := by
  rcases h with rfl | rfl <;> decide

theorem isDigit_of_isNumberChar {c : Char} (h : isNumberChar c) (hd : isDecimalDigit c) :
    isDigit c := by
  unfold isNumberChar at h
  simp only [Bool.or_eq_true, decide_eq_true_iff] at h
  rcases h with ((((h | rfl) | rfl) | rfl) | rfl) | rfl
  · exact h
  all_goals exact absurd hd (by decide)

theorem toNat_lt_of_isNumberChar {c : Char} (h : isNumberChar c) : c.toNat < 128 := by
  unfold isNumberChar at h
  simp only [Bool.or_eq_true, decide_eq_true_iff] at h
  rcases h with ((((h | rfl) | rfl) | rfl) | rfl) | rfl
  · exact toNat_lt_of_isPlain (by simp [isPlain, h])
  all_goals decide

theorem isNumberChar_spec {c : Char} (h : isNumberChar c) :
    isBlank c = false ∧ c ≠ ';' ∧ ∀ d ∈ upperChar c, Word.isLetter d → d = 'E' := by
  have hall : ∀ n : Fin 128, isNumberChar (Char.ofNat n) → isBlank (Char.ofNat n) = false ∧
      Char.ofNat n ≠ ';' ∧ (upperChar (Char.ofNat n)).all fun d ↦ !Word.isLetter d || d = 'E' := by
    decide +kernel
  obtain ⟨hblank, hsemi, hupper⟩ := of_ascii (p := fun c ↦ isNumberChar c → isBlank c = false ∧
    c ≠ ';' ∧ (upperChar c).all fun d ↦ !Word.isLetter d || d = 'E') hall
    (toNat_lt_of_isNumberChar h) h
  refine ⟨hblank, hsemi, fun d hd hl ↦ ?_⟩
  simpa [hl] using List.all_eq_true.mp hupper d hd

/-! ## Numbers -/

theorem isNumberChar_of_mem_text {e : Spelling} (he : e.Proper) {c : Char} (h : c ∈ e.text) :
    isNumberChar c := by
  rw [Spelling.text, List.mem_append, Option.mem_toList] at h
  rcases h with h | h
  · exact isNumberChar_of_sign (he.sign c h)
  · rcases Spelling.mem_body.mp h with h | ⟨ds, hds, rfl | h⟩ | ⟨p, hp, rfl | h | h⟩
    · exact isNumberChar_of_isDigit (he.whole c h)
    · decide
    · exact isNumberChar_of_isDigit (he.fraction ds hds c h)
    · rcases (he.power p hp).letter with h | h <;> rw [h] <;> decide
    · exact isNumberChar_of_sign ((he.power p hp).sign c h)
    · exact isNumberChar_of_isDigit ((he.power p hp).digits.2 c h)

theorem isNumberChar_of_read? {text : List Char} {v : Binary64} (h : Binary64.read? text = some v)
    (hv : v.isFinite) : ∀ c ∈ text, isNumberChar c := by
  obtain ⟨e, he, rfl, -⟩ := Spelling.exists_of_read? h hv
  exact fun c ↦ isNumberChar_of_mem_text he

theorem toList_toString_uint32 (n : UInt32) : (toString n).toList = digitsOfNat n.toNat :=
  Nat.toList_repr

end Toolpath
