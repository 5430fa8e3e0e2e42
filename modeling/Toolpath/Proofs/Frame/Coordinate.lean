import Toolpath.Frame.Outline
import Toolpath.Proofs.Number.Spelled
import Toolpath.Proofs.Number.Thousandths

/-!
# Printed coordinates

A coordinate is printed as the numeral of its thousandths, which has no sign at zero. What is read
back, in a word or on its own, is the double nearest to the thousandths, so the coordinate that was
read back is printed in the same way.
-/

namespace Toolpath

namespace Numeral

/-! ## Numerals with a fixed number of places -/

/-- The numeral of a magnitude in units of the last place. -/
def ofPlaces (negative : Bool) (places n : Nat) : Numeral where
  sign := if negative then some '-' else none
  whole := digitsOfNat (n / 10 ^ places)
  fraction := some (paddedDigits places (n % 10 ^ places))

theorem text_ofPlaces (negative : Bool) (places n : Nat) :
    (ofPlaces negative places n).text = (placesForm negative places n).text := by
  cases negative <;> simp [ofPlaces, placesForm, text, Written.text]

theorem plain_ofPlaces (negative : Bool) (places n : Nat) : (ofPlaces negative places n).Plain := by
  refine ⟨fun c hc ↦ isDigit_of_mem_digitsOfNat hc, fun ds hds c hc ↦ ?_⟩
  obtain rfl := Option.some.inj hds
  exact isDigit_of_mem_paddedDigits hc

theorem proper_ofPlaces (negative : Bool) {places : Nat} (hp : 0 < places) (n : Nat) :
    (ofPlaces negative places n).Proper := by
  obtain ⟨hwhole, hfraction⟩ := plain_ofPlaces negative places n
  refine ⟨?_, fun c hc ↦ isDecimalDigit_of_isDigit (hwhole c hc), by simp [ofPlaces], ?_⟩
  · cases negative <;> simp [ofPlaces]
  · intro ds hds
    refine ⟨?_, fun c hc ↦ isDecimalDigit_of_isDigit (hfraction ds hds c hc)⟩
    obtain rfl := Option.some.inj hds
    rw [← List.length_pos_iff, length_paddedDigits hp (Nat.mod_lt _ (by positivity))]
    exact hp

theorem decimal_ofPlaces (negative : Bool) {places : Nat} (hp : 0 < places) (n : Nat) :
    (ofPlaces negative places n).decimal = ⟨negative, n, -places⟩ := by
  have hlen := length_paddedDigits hp (Nat.mod_lt n (show 0 < 10 ^ places by positivity))
  unfold decimal ofPlaces Decimal.ofDigits
  simp only [Option.getD_some, natOfDigits_places hp, hlen]
  cases negative <;> simp

def ofThousandths (k : Int) : Numeral := ofPlaces (decide (k < 0)) 3 k.natAbs

theorem ofThousandths_of_ne_zero (negative : Bool) {n : Nat} (hn : n ≠ 0) :
    ofThousandths (if negative then -n else n) = ofPlaces negative 3 n := by
  unfold ofThousandths
  cases negative with
  | false =>
      rw [if_neg Bool.false_ne_true, Int.natAbs_natCast, decide_eq_false (by omega)]
  | true =>
      rw [if_pos rfl, Int.natAbs_neg, Int.natAbs_natCast, decide_eq_true (by omega)]

theorem plain_ofThousandths (k : Int) : (ofThousandths k).Plain :=
  plain_ofPlaces _ _ _

theorem proper_ofThousandths (k : Int) : (ofThousandths k).Proper :=
  proper_ofPlaces _ (by norm_num) _

end Numeral

/-! ## Reading thousandths -/

namespace Binary64

theorem toBinary64_thousandths (negative : Bool) (n : Nat) :
    (Decimal.mk negative n (-3)).toBinary64 =
      if n = 0 then zero negative else round negative (n * unit) 1000 := by
  rw [show (-3 : Int) = .negSucc 2 from rfl]
  unfold Decimal.toBinary64
  dsimp only
  by_cases hn : n = 0
  · rw [if_pos hn, if_pos hn]
  · rw [if_neg hn, if_neg hn, if_neg (by omega), if_neg (by omega)]

theorem toBinary64_ofThousandths (k : Int) :
    (Numeral.ofThousandths k).decimal.toBinary64 = ofThousandths k := by
  have hneg : decide (k * unit < 0) = decide (k < 0) := by
    have hu : (0 : Int) < unit := by exact_mod_cast unit_pos
    rw [decide_eq_decide]
    constructor <;> intro h <;> by_contra hge <;> nlinarith
  unfold Numeral.ofThousandths
  rw [Numeral.decimal_ofPlaces _ (by norm_num), Nat.cast_ofNat, toBinary64_thousandths]
  rw [ofThousandths_eq]
  unfold nearest
  rw [hneg, Int.natAbs_mul, Int.natAbs_natCast]
  by_cases hk : k = 0
  · subst hk
    decide +kernel
  · rw [if_neg (by omega)]

/-- A decimal with three places is read as the double nearest to its thousandths, up to the sign of
zero. -/
theorem ticks_toBinary64_thousandths (negative : Bool) (n : Nat) :
    (Decimal.mk negative n (-3)).toBinary64.ticks =
      (ofThousandths (if negative then -n else n)).ticks := by
  by_cases hn : n = 0
  · subst hn
    rw [toBinary64_thousandths, ofThousandths_eq]
    revert negative
    decide +kernel
  · rw [← toBinary64_ofThousandths, Numeral.ofThousandths_of_ne_zero negative hn,
      Numeral.decimal_ofPlaces _ (by norm_num), Nat.cast_ofNat]

end Binary64

/-! ## Printing coordinates -/

theorem fixedText_eq (places : Nat) {x : Binary64} (hx : x.isFinite) :
    fixedText places x = (Numeral.ofPlaces x.isNegative places (x.scaled places)).text := by
  rw [fixedText, if_pos hx, Numeral.text_ofPlaces]

theorem coordText_eq {x : Binary64} (hx : x.isFinite) :
    coordText x = (Numeral.ofThousandths x.thousandths).text := by
  have hzero : ['-', '0', '.', '0', '0', '0'] = (Numeral.ofPlaces true 3 0).text := by
    decide +kernel
  unfold coordText Binary64.thousandths
  dsimp only
  rw [fixedText_eq 3 hx, hzero]
  by_cases hn : x.scaled 3 = 0
  · rw [hn]
    cases x.isNegative <;> decide +kernel
  · rw [Numeral.ofThousandths_of_ne_zero _ hn, if_neg]
    intro h
    have heq := (Numeral.proper_ofPlaces _ (by norm_num) _).eq_of_text_eq
      (Numeral.proper_ofPlaces _ (by norm_num) _) h
    have hdec := congrArg Numeral.decimal heq
    rw [Numeral.decimal_ofPlaces _ (by norm_num), Numeral.decimal_ofPlaces _ (by norm_num)] at hdec
    exact hn (Decimal.mk.inj hdec).2.1

theorem ofString?_coord {x : Binary64} (hx : x.isFinite) :
    Binary64.ofString? (coord x) = some (.ofThousandths x.thousandths) := by
  unfold Binary64.ofString? coord
  rw [String.toList_ofList, coordText_eq hx, Numeral.read?_text (Numeral.proper_ofThousandths _)
    (Numeral.plain_ofThousandths _), Binary64.toBinary64_ofThousandths]

/-- A coordinate that was printed and read is printed in the same way. -/
theorem coord_ofThousandths {x : Binary64} (hx : x.isFinite) :
    coord (.ofThousandths x.thousandths) = coord x := by
  unfold coord
  rw [coordText_eq hx, coordText_eq (Binary64.isFinite_ofThousandths_thousandths hx),
    Binary64.thousandths_ofThousandths_thousandths]

/-- The text does not tell the two zeros apart. -/
theorem coord_congr {x y : Binary64} (hy : y.isFinite) (h : x.eq y) : coord x = coord y := by
  obtain ⟨hxn, hyn, ht⟩ := Binary64.eq_iff.mp h
  have hx := Binary64.isFinite_of_eq (Binary64.eq_iff.mpr ⟨hyn, hxn, ht.symm⟩) hy
  unfold coord
  rw [coordText_eq hx, coordText_eq hy, Binary64.thousandths_congr ht]

/-- A double that stands for a decimal with three places is read back unchanged. -/
theorem eq_ofThousandths_thousandths {negative : Bool} {n : Nat}
    (hx : (Decimal.mk negative n (-3)).toBinary64.isFinite) :
    (Binary64.ofThousandths (Decimal.mk negative n (-3)).toBinary64.thousandths).eq
      (Decimal.mk negative n (-3)).toBinary64 := by
  have ht := Binary64.ticks_toBinary64_thousandths negative n
  generalize (Decimal.mk negative n (-3)).toBinary64 = x at hx ht ⊢
  generalize (if negative then -(n : Int) else n) = k at ht
  have hxn := Binary64.ne_nan_of_isFinite hx
  have hk := Binary64.isFinite_of_eq
    (Binary64.eq_iff.mpr ⟨hxn, Binary64.ofThousandths_ne_nan k, ht⟩) hx
  refine Binary64.eq_iff.mpr ⟨Binary64.ofThousandths_ne_nan _, hxn, ?_⟩
  rw [Binary64.thousandths_congr ht, ht]
  exact Binary64.ticks_ofThousandths_thousandths_ofThousandths hk

end Toolpath
