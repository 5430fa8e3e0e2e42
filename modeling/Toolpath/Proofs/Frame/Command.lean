import Toolpath.Proofs.Frame.Coordinate
import Toolpath.Proofs.Number.Whole
import Toolpath.Proofs.Program.Positions

/-!
# Reading commands

A command is a line of plain words: a code, or the code of a straight motion and the coordinates of a
target. It is interpreted as it was written, with the coordinates as they are read back.
-/

namespace Toolpath

/-! ## Codes and coordinates -/

/-- The word of a whole code. -/
def Word.code (digits : List Char) : Word := ⟨'G', ⟨none, digits, none⟩⟩

def Word.coordinate (letter : Char) (v : Binary64) : Word := ⟨letter, .ofThousandths v.thousandths⟩

/-- The digits that a code with this value is written with. -/
structure Word.Writes (digits : List Char) (v : Binary64) : Prop where
  ne_nil : digits ≠ []
  all_isDigit : digits.all isDigit
  value : (Word.code digits).numeral.value? = some v

theorem Word.Writes.plain {digits : List Char} {v : Binary64} (h : Writes digits v) :
    (Word.code digits).Plain where
  letter := (by decide : isLetter 'G')
  proper := ⟨by simp [code],
    fun c hc ↦ isDecimalDigit_of_isDigit (List.all_eq_true.mp h.all_isDigit c hc),
    fun _ ↦ h.ne_nil, by simp [code]⟩
  digits := ⟨List.all_eq_true.mp h.all_isDigit, by simp [code]⟩

theorem Word.writes_digitsOfNat {n : Nat} (hn : n < 9007199254740992) :
    Writes (digitsOfNat n) (.ofNat n) where
  ne_nil := Nat.toDigits_ne_nil
  all_isDigit := List.all_eq_true.mpr fun _ hc ↦ isDigit_of_mem_digitsOfNat hc
  value := by
    have hplain : (code (digitsOfNat n)).numeral.Plain :=
      ⟨fun c hc ↦ isDigit_of_mem_digitsOfNat hc, by simp [code]⟩
    have hvalue : (code (digitsOfNat n)).numeral.decimal.toBinary64 = .ofNat n := by
      rw [← Binary64.toBinary64_whole]
      simp [code, Numeral.decimal, Decimal.ofDigits]
    have hfinite := (Binary64.ofNat_exact (Or.inl hn)).1
    rw [← hvalue] at hfinite ⊢
    exact Numeral.value?_of_plain hplain hfinite

theorem Word.writes_zero : Writes ['0'] 0 := writes_digitsOfNat (n := 0) (by decide)

theorem Word.writes_one : Writes ['1'] 1 := writes_digitsOfNat (n := 1) (by decide)

theorem Word.writes_ninety : Writes ['9', '0'] 90 := writes_digitsOfNat (n := 90) (by decide)

def LengthUnit.digits : LengthUnit → List Char
  | .inch => ['2', '0']
  | .millimetre => ['2', '1']

def LengthUnit.value : LengthUnit → Binary64
  | .inch => 20
  | .millimetre => 21

theorem Word.writes_unit (u : LengthUnit) : Writes u.digits u.value := by
  cases u with
  | inch => exact writes_digitsOfNat (n := 20) (by decide)
  | millimetre => exact writes_digitsOfNat (n := 21) (by decide)

theorem LengthUnit.toList_command (u : LengthUnit) :
    u.command.toList = Word.line [.code u.digits] := by
  cases u <;> decide +kernel

theorem Word.toList_absolute : "G90".toList = line [.code ['9', '0']] := by
  decide +kernel

theorem Word.plain_coordinate {letter : Char} (h : isLetter letter) (v : Binary64) :
    (Word.coordinate letter v).Plain where
  letter := h
  proper := Numeral.proper_ofThousandths _
  digits := Numeral.plain_ofThousandths _

/-- The point that is read where a point was printed. -/
def Point.readBack (p : Point) : Point :=
  ⟨.ofThousandths p.x.thousandths, .ofThousandths p.y.thousandths⟩

theorem Point.Finite.readBack {p : Point} (hp : p.Finite) : p.readBack.Finite :=
  ⟨Binary64.isFinite_ofThousandths_thousandths hp.1,
    Binary64.isFinite_ofThousandths_thousandths hp.2⟩

theorem Word.value?_coordinate {v : Binary64} (hv : v.isFinite) (letter : Char) :
    (Word.coordinate letter v).numeral.value? = some (.ofThousandths v.thousandths) := by
  have hfin := Binary64.isFinite_ofThousandths_thousandths hv
  rw [← Binary64.toBinary64_ofThousandths] at hfin ⊢
  exact Numeral.value?_of_plain (Numeral.plain_ofThousandths _) hfin

/-! ## Targets -/

def Word.target (digits : List Char) (p : Point) : List Word :=
  [.code digits, .coordinate 'X' p.x, .coordinate 'Y' p.y]

theorem Word.plain_target {digits : List Char} {v : Binary64} (hv : Writes digits v) (p : Point) :
    ∀ w ∈ target digits p, w.Plain := by
  intro w hw
  simp only [target, List.mem_cons, List.not_mem_nil, or_false] at hw
  rcases hw with rfl | rfl | rfl
  · exact hv.plain
  · exact plain_coordinate (by decide) _
  · exact plain_coordinate (by decide) _

theorem Word.line_target (digits : List Char) {p : Point} (hp : p.Finite) :
    line (target digits p) = 'G' :: digits ++ ' ' :: (targetWords p).toList := by
  simp [target, line, text, code, coordinate, targetWords, coord, coordText_eq hp.1,
    coordText_eq hp.2, Numeral.text]

theorem Block.ofWords_target {digits : List Char} {v : Binary64} (hv : Word.Writes digits v)
    {p : Point} (hp : p.Finite) :
    ofWords (Word.target digits p) =
      { codes := [v], x := some p.readBack.x, y := some p.readBack.y } := by
  unfold ofWords Word.target
  rw [List.foldl_cons, List.foldl_cons, List.foldl_cons, List.foldl_nil, add_code rfl hv.value,
    add_x rfl (Word.value?_coordinate hp.1 'X'), add_y rfl (Word.value?_coordinate hp.2 'Y')]
  rfl

namespace Modal

theorem step_line {ws : List Word} (hne : ws ≠ []) (h : ∀ w ∈ ws, w.Plain) (s : Modal) :
    s.step (Word.line ws) = s.apply (Block.ofWords ws) := by
  unfold step
  rw [Block.read?_line hne h]

theorem step_code {digits : List Char} {v : Binary64} (hv : Word.Writes digits v) (s : Modal) :
    s.step (Word.line [.code digits]) = (s.applyValue v, .noTarget 0) := by
  have hplain := hv.plain
  rw [step_line (by simp) (by simpa using hplain)]
  unfold Block.ofWords
  rw [List.foldl_cons, List.foldl_nil, Block.add_code rfl hv.value]
  rfl

theorem applyValue_of_code? {v : Binary64} {n : Nat} (h : v.code? = some n) (s : Modal) :
    s.applyValue v = s.applyCode n := by
  unfold applyValue
  rw [h]

theorem applyValue_ofNat {n : Nat} (hn : n ≤ 4294967295) (s : Modal) :
    s.applyValue (.ofNat n) = s.applyCode n :=
  applyValue_of_code? (Binary64.code?_ofNat hn) s

/-- A block with the code of a straight motion and a target. -/
theorem apply_target {motion : Motion} (hmotion : ∀ clockwise, motion ≠ .arc clockwise) {s : Modal}
    {v : Binary64} (hcode : s.applyValue v = { s with motion := motion })
    (hs : s.distance = .absolute) {b : Block} {q : Point} (hcodes : b.codes = [v])
    (hx : b.x = some q.x) (hy : b.y = some q.y) :
    s.apply b = ({ s with motion := motion, position := q },
      .moved ⟨s.position, q, .straight⟩ b.dropped) := by
  unfold apply applyCodes
  rw [hcodes, List.foldl_cons, List.foldl_nil, hcode]
  cases motion with
  | arc clockwise => exact absurd rfl (hmotion clockwise)
  | rapid => simp [Block.hasTarget, target, path?, hs, hx, hy]
  | linear => simp [Block.hasTarget, target, path?, hs, hx, hy]

theorem applyValue_zero (s : Modal) : s.applyValue 0 = { s with motion := .rapid } :=
  applyValue_ofNat (n := 0) (by decide) s

theorem applyValue_one (s : Modal) : s.applyValue 1 = { s with motion := .linear } :=
  applyValue_ofNat (n := 1) (by decide) s

theorem step_target {digits : List Char} {v : Binary64} (hv : Word.Writes digits v)
    {motion : Motion} (hmotion : ∀ clockwise, motion ≠ .arc clockwise) {s : Modal}
    (hcode : s.applyValue v = { s with motion := motion }) (hs : s.distance = .absolute)
    {p : Point} (hp : p.Finite) :
    s.step (Word.line (Word.target digits p)) =
      ({ s with motion := motion, position := p.readBack },
        .moved ⟨s.position, p.readBack, .straight⟩ 0) := by
  rw [step_line (by simp [Word.target]) (Word.plain_target hv p), Block.ofWords_target hv hp]
  exact apply_target hmotion hcode hs rfl rfl rfl

theorem step_rapid {s : Modal} (hs : s.distance = .absolute) {p : Point} (hp : p.Finite) :
    s.step (Word.line (Word.target ['0'] p)) =
      ({ s with motion := .rapid, position := p.readBack },
        .moved ⟨s.position, p.readBack, .straight⟩ 0) :=
  step_target Word.writes_zero (by simp) (applyValue_zero s) hs hp

theorem step_feed {s : Modal} (hs : s.distance = .absolute) {p : Point} (hp : p.Finite) :
    s.step (Word.line (Word.target ['1'] p)) =
      ({ s with motion := .linear, position := p.readBack },
        .moved ⟨s.position, p.readBack, .straight⟩ 0) :=
  step_target Word.writes_one (by simp) (applyValue_one s) hs hp

theorem step_absolute (s : Modal) :
    s.step (Word.line [.code ['9', '0']]) = ({ s with distance := .absolute }, .noTarget 0) := by
  rw [step_code Word.writes_ninety]
  exact congrArg (·, Outcome.noTarget 0) (applyValue_ofNat (n := 90) (by decide) s)

theorem step_unit (u : LengthUnit) (s : Modal) :
    s.step (Word.line [.code u.digits]) = ({ s with unit := some u }, .noTarget 0) := by
  rw [step_code (Word.writes_unit u)]
  cases u with
  | inch => exact congrArg (·, Outcome.noTarget 0) (applyValue_ofNat (n := 20) (by decide) s)
  | millimetre => exact congrArg (·, Outcome.noTarget 0) (applyValue_ofNat (n := 21) (by decide) s)

end Modal

end Toolpath
