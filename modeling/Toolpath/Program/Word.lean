import Toolpath.Number.Decimal
import Toolpath.Text.DecimalDigit

/-!
# Words

A word is a capital letter directly followed by a numeral. A numeral is an optional sign and digits,
with a point in front of the last run of digits or without one; it is as long as possible. Scanning
takes the words from left to right and passes over everything else.

Any decimal digit belongs to a numeral, but only the ten ASCII digits have a value here, and only
a finite value counts.
-/

namespace Toolpath

structure Numeral where
  sign : Option Char
  whole : List Char
  /-- The digits after the point, where there is a point. -/
  fraction : Option (List Char)
  deriving DecidableEq

structure Word where
  letter : Char
  numeral : Numeral
  deriving DecidableEq

namespace Numeral

def text (n : Numeral) : List Char :=
  n.sign.toList ++ n.whole ++ (match n.fraction with | none => [] | some ds => '.' :: ds)

/-- The sign at the front, if there is one, and the rest. -/
def splitSign : List Char → Option Char × List Char
  | '+' :: cs => (some '+', cs)
  | '-' :: cs => (some '-', cs)
  | cs => (none, cs)

/-- The digits and the point at the front of a text. A point without a digit after it does not
belong to the numeral. -/
def splitDigits? (sign : Option Char) (cs : List Char) : Option (Numeral × List Char) :=
  let whole := cs.takeWhile isDecimalDigit
  let rest := cs.dropWhile isDecimalDigit
  let plain := if whole.isEmpty then none else some (⟨sign, whole, none⟩, rest)
  match rest with
  | '.' :: tail =>
    let ds := tail.takeWhile isDecimalDigit
    if ds.isEmpty then plain else some (⟨sign, whole, some ds⟩, tail.dropWhile isDecimalDigit)
  | _ => plain

/-- The longest numeral at the front of a text, and the rest. -/
def split? (cs : List Char) : Option (Numeral × List Char) :=
  let (sign, cs) := splitSign cs
  splitDigits? sign cs

theorem sign_append_of_splitSign {cs : List Char} :
    (splitSign cs).1.toList ++ (splitSign cs).2 = cs := by
  unfold splitSign
  split <;> simp

theorem text_append_of_splitDigits? {sign : Option Char} {cs rest : List Char} {n : Numeral}
    (h : splitDigits? sign cs = some (n, rest)) : n.text ++ rest = sign.toList ++ cs := by
  have hcs := List.takeWhile_append_dropWhile (p := isDecimalDigit) (l := cs)
  unfold splitDigits? at h
  simp only at h
  split at h
  · next tail htail =>
    have htl := List.takeWhile_append_dropWhile (p := isDecimalDigit) (l := tail)
    split at h
    · split at h
      · simp at h
      · obtain ⟨rfl, rfl⟩ := Prod.mk.inj (Option.some.inj h)
        simp [text, hcs]
    · obtain ⟨rfl, rfl⟩ := Prod.mk.inj (Option.some.inj h)
      rw [htail] at hcs
      simp [text, htl, hcs]
  · split at h
    · simp at h
    · obtain ⟨rfl, rfl⟩ := Prod.mk.inj (Option.some.inj h)
      simp [text, hcs]

/-- Splitting loses nothing. -/
theorem text_append_of_split? {cs rest : List Char} {n : Numeral}
    (h : split? cs = some (n, rest)) : n.text ++ rest = cs :=
  (text_append_of_splitDigits? h).trans sign_append_of_splitSign

theorem length_rest_le {cs rest : List Char} {n : Numeral} (h : split? cs = some (n, rest)) :
    rest.length ≤ cs.length := by
  rw [← text_append_of_split? h]
  simp

/-- The decimal that a numeral of ASCII digits stands for. -/
def decimal? (n : Numeral) : Option Decimal :=
  let fraction := n.fraction.getD []
  if n.whole.all isDigit && fraction.all isDigit then
    some (.ofDigits (n.sign == some '-') n.whole fraction 0)
  else none

/-- The nearest double, unless it is infinite. -/
def value? (n : Numeral) : Option Binary64 :=
  (n.decimal?.map Decimal.toBinary64).filter Binary64.isFinite

end Numeral

namespace Word

def isLetter (c : Char) : Bool := 'A' ≤ c && c ≤ 'Z'

def scan : List Char → List Word
  | [] => []
  | c :: cs =>
    if isLetter c then
      match _h : Numeral.split? cs with
      | some (n, rest) => ⟨c, n⟩ :: scan rest
      | none => scan cs
    else scan cs
termination_by cs => cs.length
decreasing_by
  · have := Numeral.length_rest_le _h
    simp only [List.length_cons]
    omega
  · simp
  · simp

end Word

end Toolpath
