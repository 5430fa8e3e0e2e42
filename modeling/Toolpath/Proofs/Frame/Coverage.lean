import Toolpath.Proofs.Frame.Overflow
import Toolpath.Proofs.Number.Exact

/-!
# The printed outline around the printed toolpath

Printing a coordinate rounds it to thousandths, and rounding keeps the order. So the numbers that stand
in the commands of an outline bound the printed coordinates of all points that were moved, and each of
them is the printed coordinate of one of these points.
-/

namespace Toolpath

/-! ## Numbers in texts -/

/-- The number of a text that is one numeral and nothing else. -/
def exactNumber? (text : String) : Option ℚ :=
  match Numeral.split? text.toList with
  | some (n, []) => n.decimal?.map Decimal.value
  | _ => none

theorem Numeral.value_ofThousandths (k : Int) : (ofThousandths k).decimal.value = k / 1000 := by
  have hk : (if decide (k < 0) then -1 else 1) * (k.natAbs : ℚ) = k := by
    rw [Nat.cast_natAbs]
    rcases lt_or_ge k 0 with h | h
    · simp [h, abs_of_neg h]
    · simp [not_lt.mpr h, abs_of_nonneg h]
  rw [ofThousandths, decimal_ofPlaces _ (by norm_num), Decimal.value, hk]
  norm_num [div_eq_mul_inv]

theorem exactNumber?_coord {x : Binary64} (hx : x.isFinite) :
    exactNumber? (coord x) = some (x.thousandths / 1000 : ℚ) := by
  have hsplit := Numeral.split?_text_append (Numeral.proper_ofThousandths x.thousandths) Numeral.stops_nil
  rw [List.append_nil] at hsplit
  rw [exactNumber?, coord, String.toList_ofList, coordText_eq hx, hsplit]
  dsimp only
  rw [Numeral.decimal?_of_plain (Numeral.plain_ofThousandths _), Option.map_some,
    Numeral.value_ofThousandths]

/-- The number of a text lies between those of two others. -/
def PrintedBetween (low text high : String) : Prop :=
  ∃ a v b, exactNumber? low = some a ∧ exactNumber? text = some v ∧ exactNumber? high = some b ∧
    a ≤ v ∧ v ≤ b

theorem printedBetween_coord {x y z : Binary64} (hx : x.isFinite) (hz : z.isFinite) (hxy : x.le y)
    (hyz : y.le z) : PrintedBetween (coord x) (coord y) (coord z) := by
  have hy : y.isFinite := Binary64.isFinite_of_le hxy hyz hx hz
  have hlow := Binary64.thousandths_mono (Binary64.le_iff.mp hxy).2.2
  have hhigh := Binary64.thousandths_mono (Binary64.le_iff.mp hyz).2.2
  refine ⟨_, _, _, exactNumber?_coord hx, exactNumber?_coord hy, exactNumber?_coord hz, ?_, ?_⟩
  · gcongr
  · gcongr

/-! ## Numbers in commands -/

namespace Outline

/-- The numeral behind a letter in a command. -/
def printed? (letter : Char) (command : String) : Option String :=
  ((Word.scan command.toList).find? (·.letter = letter)).map fun w ↦ String.ofList w.numeral.text

/-- The commands with a code of one digit. -/
def withCode (digit : Char) (o : Outline) : List String :=
  o.commands.filter fun c ↦ ['G', digit, ' '].isPrefixOf c.toList

theorem withCode_zero (b : Box) (u : Option LengthUnit) :
    (ofBox b u).withCode '0' = ["G0 " ++ targetWords b.min] := by
  rcases u with _ | u
  · simp [withCode, ofBox, Box.corners]
  · cases u <;> simp [withCode, ofBox, Box.corners, LengthUnit.command]

theorem withCode_one (b : Box) (u : Option LengthUnit) :
    (ofBox b u).withCode '1' = b.corners.tail.map fun q ↦ "G1 " ++ targetWords q := by
  rcases u with _ | u
  · simp [withCode, ofBox, Box.corners]
  · cases u <;> simp [withCode, ofBox, Box.corners, LengthUnit.command]

theorem printed?_target (head : String) {digits : List Char} {v : Binary64}
    (hv : Word.Writes digits v) (hhead : head.toList = 'G' :: digits ++ [' ']) {p : Point}
    (hp : p.Finite) : printed? 'X' (head ++ targetWords p) = some (coord p.x) ∧
      printed? 'Y' (head ++ targetWords p) = some (coord p.y) := by
  have hline : (head ++ targetWords p).toList = Word.line (Word.target digits p) := by
    simp [Word.line_target digits hp, hhead]
  have hscan := Word.scan_line fun w hw ↦
    ⟨(Word.plain_target hv p w hw).letter, (Word.plain_target hv p w hw).proper⟩
  rw [printed?, printed?, hline, hscan]
  constructor
  · simp [Word.target, Word.code, Word.coordinate, coord, coordText_eq hp.1]
  · simp [Word.target, Word.code, Word.coordinate, coord, coordText_eq hp.2]

end Outline

/-! ## Main result -/

theorem Box.Touched.coord_eq {c : Point → Binary64} {side : Binary64} {ps : List Point}
    (h : Touched c side ps) (hside : side.isFinite) : ∃ p ∈ ps, coord (c p) = coord side := by
  obtain ⟨p, hp, heq⟩ := h
  exact ⟨p, hp, coord_congr hside heq⟩

theorem touched_ne_nil_of_moves {program : String} (h : 0 < (Frame.ofProgram program).tally.moves) :
    Modal.touched {} (lines program.toList) ≠ [] := by
  intro htouched
  have hdegenerate : (Frame.ofProgram program).isDegenerate = true :=
    (Survey.isDegenerate_feedAll (s := {}) rfl (lines program.toList)).mpr htouched
  rw [Frame.isDegenerate, decide_eq_true_iff] at hdegenerate
  omega

/-- The outline of a program that moves within the range of doubles has one rapid. The numbers in it and
in the first two feed moves lie around the printed coordinates of every start, end and arc extreme, and
each of them is the printed coordinate of one of these points. -/
theorem outline_covers_printed {program : String} (hfinite : (Frame.ofProgram program).bounds.Finite)
    (hmoves : 0 < (Frame.ofProgram program).tally.moves) :
    let outline := (Frame.ofProgram program).outline
    let points := Modal.touched {} (lines program.toList)
    ∃ rapid first second rest left right bottom top,
      outline.withCode '0' = [rapid] ∧ outline.withCode '1' = first :: second :: rest ∧
      (Outline.printed? 'X' rapid = some left ∧ Outline.printed? 'X' first = some right ∧
        Outline.printed? 'Y' first = some bottom ∧ Outline.printed? 'Y' second = some top) ∧
      (∀ q ∈ points, PrintedBetween left (coord q.x) right ∧ PrintedBetween bottom (coord q.y) top) ∧
      (∃ q ∈ points, coord q.x = left) ∧ (∃ q ∈ points, coord q.x = right) ∧
      (∃ q ∈ points, coord q.y = bottom) ∧ ∃ q ∈ points, coord q.y = top := by
  intro outline points
  have hextent : (Frame.ofProgram program).bounds.IsExtent points :=
    (Survey.bounds_feedAll (s := {}) rfl Point.defined_origin _).2 (touched_ne_nil_of_moves hmoves)
  have hzero : outline.withCode '0' = _ := Outline.withCode_zero _ _
  have hone : outline.withCode '1' = _ := Outline.withCode_one _ _
  generalize (Frame.ofProgram program).bounds = b at hfinite hextent hzero hone
  obtain ⟨⟨hleft, hbottom⟩, hright, htop⟩ := hfinite
  have hrapid := Outline.printed?_target "G0 " Word.writes_zero (by decide +kernel)
    (p := b.min) ⟨hleft, hbottom⟩
  have hfirst := Outline.printed?_target "G1 " Word.writes_one (by decide +kernel)
    (p := ⟨b.max.x, b.min.y⟩) ⟨hright, hbottom⟩
  have hsecond := Outline.printed?_target "G1 " Word.writes_one (by decide +kernel)
    (p := b.max) ⟨hright, htop⟩
  refine ⟨_, _, _, _, coord b.min.x, coord b.max.x, coord b.min.y, coord b.max.y, hzero, hone,
    ⟨hrapid.1, hfirst.1, hfirst.2, hsecond.2⟩, fun q hq ↦ ?_, hextent.left.coord_eq hleft,
    hextent.right.coord_eq hright, hextent.bottom.coord_eq hbottom, hextent.top.coord_eq htop⟩
  obtain ⟨⟨hxl, hxr⟩, hyb, hyt⟩ := hextent.contains q hq
  exact ⟨printedBetween_coord hleft hright hxl hxr, printedBetween_coord hbottom htop hyb hyt⟩

/-- A half circle over the top whose ends are not on the grid of thousandths. The number at its upper
side is the printed coordinate of its extreme and of neither end. -/
theorem outline_covers_printed_half_circle :
    let program := "G1 X0.0004 Y-0.0005\nG2 X1.9996 Y0.0005 I1 J0"
    let outline := (Frame.ofProgram program).outline
    let points := Modal.touched {} (lines program.toList)
    (Frame.ofProgram program).bounds.Finite ∧ 0 < (Frame.ofProgram program).tally.moves ∧
      points.map (fun q ↦ coord q.y) = ["0.000", "-0.001", "-0.001", "0.001", "1.000", "-0.001"] ∧
      ∃ rapid first second rest left right bottom,
        outline.withCode '0' = [rapid] ∧ outline.withCode '1' = first :: second :: rest ∧
        (Outline.printed? 'X' rapid = some left ∧ Outline.printed? 'X' first = some right ∧
          Outline.printed? 'Y' first = some bottom ∧ Outline.printed? 'Y' second = some "1.000") ∧
        (∀ q ∈ points, PrintedBetween left (coord q.x) right ∧
          PrintedBetween bottom (coord q.y) "1.000") ∧
        ∃ q ∈ points, coord q.y = "1.000" := by
  intro program outline points
  have hfinite : (Frame.ofProgram program).bounds.Finite := by decide +kernel
  have hmoves : 0 < (Frame.ofProgram program).tally.moves := by decide +kernel
  have hprinted : points.map (fun q ↦ coord q.y) =
      ["0.000", "-0.001", "-0.001", "0.001", "1.000", "-0.001"] := by decide +kernel
  obtain ⟨rapid, first, second, rest, left, right, bottom, top, hzero, hone,
    ⟨hleft, hright, hbottom, htop⟩, hbetween, -, -, -, hattained⟩ :=
    outline_covers_printed hfinite hmoves
  have hcommands : outline.withCode '1' = ["G1 X2.000 Y-0.001", "G1 X2.000 Y1.000",
      "G1 X0.000 Y1.000", "G1 X0.000 Y-0.001"] := by decide +kernel
  obtain ⟨-, hsecond⟩ := List.cons.inj (hcommands.symm.trans hone)
  obtain ⟨rfl, -⟩ := List.cons.inj hsecond
  obtain rfl : "1.000" = top := Option.some.inj (Eq.trans (by decide +kernel) htop)
  exact ⟨hfinite, hmoves, hprinted, rapid, first, _, rest, left, right, bottom, hzero, hone,
    ⟨hleft, hright, hbottom, htop⟩, hbetween, hattained⟩

end Toolpath
