import Toolpath.Proofs.Frame.Coverage
import Toolpath.Proofs.Program.Separation

/-!
# Coordinates with three places

A finite coordinate is printed as the numeral of one multiple of a thousandth, in the shape in which
such numbers are usually written. It is the multiple nearest to the coordinate, so larger coordinates
are printed as numbers that are at least as large. Behind a letter the numeral is one word of a line,
and the value of the word is printed as the same numeral, whether doubles are denser or rarer than
thousandths there.
-/

namespace Toolpath

/-! ## The nearest multiple -/

/-- No multiple of a thousandth is nearer to the number, and its last digit is even where another
one is as near. -/
structure IsNearestThousandth (k : Int) (q : ℚ) : Prop where
  nearest : ∀ j : Int, |k / 1000 - q| ≤ |j / 1000 - q|
  even : ∀ j : Int, j ≠ k → |j / 1000 - q| = |k / 1000 - q| → k % 2 = 0

theorem Binary64.isNearestThousandth (x : Binary64) : IsNearestThousandth x.thousandths x.value := by
  have hunit : (0 : ℚ) < 1000 * unit := mul_pos (by norm_num) (by exact_mod_cast unit_pos)
  have hdistance (j : Int) :
      |j / 1000 - x.value| = (|j * unit - x.ticks * 1000| : Int) / (1000 * unit : ℚ) := by
    have hsub : j / 1000 - x.value = (j * unit - x.ticks * 1000 : Int) / (1000 * unit : ℚ) := by
      have hne : (unit : ℚ) ≠ 0 := right_ne_zero_of_mul hunit.ne'
      rw [value]
      push_cast
      field_simp
    rw [hsub, abs_div, abs_of_pos hunit, ← Int.cast_abs]
  have hhalf := isHalfEven_thousandths x
  refine ⟨fun j ↦ ?_, fun j hj htie ↦ ?_⟩
  · rw [hdistance, hdistance]
    exact div_le_div_of_nonneg_right (Int.cast_le.mpr (hhalf.abs_le j)) hunit.le
  · rw [hdistance, hdistance, div_left_inj' hunit.ne', Int.cast_inj] at htie
    exact hhalf.even_of_tie hj htie

/-! ## The shape of the numeral -/

/-- A minus or nothing, digits without a zero in front of others, a point and three digits. -/
structure Numeral.HasThreePlaces (n : Numeral) : Prop where
  sign : ∀ c ∈ n.sign, c = '-'
  whole : IsRun n.whole
  lead : ∀ ds, n.whole = '0' :: ds → ds = []
  fraction : ∃ ds, n.fraction = some ds ∧ ds.length = 3 ∧ ∀ c ∈ ds, isDigit c

theorem Numeral.hasThreePlaces_ofThousandths (k : Int) : (ofThousandths k).HasThreePlaces where
  sign c hc := by
    have hsign : c ∈ if decide (k < 0) then some '-' else none := hc
    split at hsign
    · exact (Option.some.inj hsign).symm
    · cases hsign
  whole := isRun_digitsOfNat _
  lead ds h := (eq_zero_of_digitsOfNat h).2
  fraction := by
    refine ⟨_, rfl, length_paddedDigits (by norm_num) (Nat.mod_lt _ (by norm_num)), fun c hc ↦ ?_⟩
    exact isDigit_of_mem_paddedDigits hc

theorem coord_ne_negative_zero (v : Binary64) : coord v ≠ "-0.000" := by
  intro h
  have hchars := congrArg String.toList h
  rw [coord, String.toList_ofList] at hchars
  unfold coordText at hchars
  dsimp only at hchars
  split at hchars
  · cases hchars
  · next hne => exact hne hchars

/-! ## The word of a coordinate -/

theorem Word.ofLine_line {ws : List Word} (h : ∀ w ∈ ws, w.Plain) : ofLine (line ws) = ws := by
  have htake : (line ws).takeWhile (· != ';') = line ws := by
    apply List.takeWhile_eq_self_iff.mpr
    exact fun c hc ↦ bne_iff_ne.mpr (line_spec h hc).2.1
  rw [ofLine_eq, htake, uppercase_eq_self fun c hc ↦ (line_spec h hc).1]
  exact scan_line fun w hw ↦ ⟨(h w hw).letter, (h w hw).proper⟩

section Finite

variable {v : Binary64} (hv : v.isFinite)

include hv

theorem Word.line_coordinate (letter : Char) :
    line [.coordinate letter v] = letter :: coordText v := by
  rw [line_singleton, coordText_eq hv]
  rfl

theorem Word.ofLine_coordinate {letter : Char} (h : isLetter letter) :
    ofLine (letter :: coordText v) = [.coordinate letter v] := by
  rw [← line_coordinate hv]
  exact ofLine_line (List.forall_mem_singleton.mpr (plain_coordinate h v))

theorem Block.read?_coordinate : read? ('X' :: coordText v) =
    some { x := some (.ofThousandths v.thousandths) } := by
  have hplain : ∀ w ∈ [Word.coordinate 'X' v], w.Plain :=
    List.forall_mem_singleton.mpr (Word.plain_coordinate (by decide) v)
  rw [← Word.line_coordinate hv, read?_line (List.cons_ne_nil _ _) hplain, ofWords, List.foldl_cons,
    List.foldl_nil, add_x rfl (Word.value?_coordinate hv 'X')]

/-! ## Main result -/

/-- A finite coordinate is printed with three places, as the nearest multiple of a thousandth. The
numbers that are printed keep the order, and what a scanner reads behind a letter is one word, without
anything dropped, whose value is printed as it was. -/
theorem coord_correct :
    (∃ (n : Numeral) (k : Int), coordText v = n.text ∧ n.HasThreePlaces ∧
      exactNumber? (coord v) = some (k / 1000 : ℚ) ∧ IsNearestThousandth k v.value) ∧
    coord v ≠ "-0.000" ∧
    (∀ w : Binary64, w.isFinite → v.le w → ∃ a b, exactNumber? (coord v) = some a ∧
      exactNumber? (coord w) = some b ∧ a ≤ b) ∧
    ∃ n u, Word.ofLine ('X' :: coordText v) = [⟨'X', n⟩] ∧ n.text = coordText v ∧
      Block.read? ('X' :: coordText v) = some { x := some u } ∧ coord u = coord v := by
  refine ⟨?_, coord_ne_negative_zero v, fun w hw hle ↦ ?_, ?_⟩
  · exact ⟨.ofThousandths v.thousandths, v.thousandths, coordText_eq hv,
      Numeral.hasThreePlaces_ofThousandths _, exactNumber?_coord hv, v.isNearestThousandth⟩
  · have hmono := Binary64.thousandths_mono (Binary64.le_iff.mp hle).2.2
    refine ⟨_, _, exactNumber?_coord hv, exactNumber?_coord hw, ?_⟩
    gcongr
  · exact ⟨_, _, Word.ofLine_coordinate hv (by decide), (coordText_eq hv).symm,
      Block.read?_coordinate hv, coord_ofThousandths hv⟩

end Finite

/-- One sixteenth lies in the middle of two multiples, of which the even one is printed. -/
theorem coord_correct_tie :
    let v : Binary64 := (Decimal.mk true 625 (-4)).toBinary64
    v.isFinite ∧ coord v = "-0.062" ∧ (∃ k : Int,
      exactNumber? (coord v) = some (k / 1000 : ℚ) ∧ IsNearestThousandth k v.value) ∧
      ∃ u, Block.read? "X-0.062".toList = some { x := some u } ∧ coord u = "-0.062" := by
  intro v
  have hv : v.isFinite := by decide +kernel
  have htext : coordText v = "-0.062".toList := by decide +kernel
  have hcoord : coord v = "-0.062" := by rw [coord, htext, String.ofList_toList]
  obtain ⟨⟨n, k, -, -, hnumber, hnearest⟩, -, -, m, u, -, -, hread, hu⟩ := coord_correct hv
  rw [htext] at hread
  exact ⟨hv, hcoord, ⟨k, hnumber, hnearest⟩, u, hread, hu.trans hcoord⟩

end Toolpath
