import Toolpath.Number.Decimal

/-!
# Reading a number

An entered number is an optional sign and a decimal with an optional exponent, or one of the words
for an infinity and for no number, in any case. Digits may be missing on one side of the point but
not on both. Nothing else may stand around it.
-/

namespace Toolpath

/-- The sign in front of a number, minus being true, and the rest. -/
def splitSign : List Char → Bool × List Char
  | '-' :: cs => (true, cs)
  | '+' :: cs => (false, cs)
  | cs => (false, cs)

/-- The digits at the front and the rest. -/
def splitDigits (cs : List Char) : List Char × List Char := cs.span isDigit

/-- The digits after a point at the front, if there is one, and the rest. -/
def splitFraction : List Char → List Char × List Char
  | '.' :: cs => splitDigits cs
  | cs => ([], cs)

/-- A signed integer that is the whole of the text and has at least one digit. -/
def exponentOfText (cs : List Char) : Option Int :=
  let (negative, ds) := splitSign cs
  if ds.isEmpty || !ds.all isDigit then none
  else some (if negative then -(natOfDigits ds : Int) else natOfDigits ds)

/-- The power of ten that ends a number: nothing, or a letter and an integer. -/
def exponentSuffix : List Char → Option Int
  | [] => some 0
  | 'e' :: cs => exponentOfText cs
  | 'E' :: cs => exponentOfText cs
  | _ => none

namespace Decimal

def ofUnsigned? (negative : Bool) (cs : List Char) : Option Decimal :=
  let (whole, cs) := splitDigits cs
  let (fraction, cs) := splitFraction cs
  if whole.isEmpty && fraction.isEmpty then none
  else (exponentSuffix cs).map (ofDigits negative whole fraction)

end Decimal

namespace Binary64

/-- The words that stand for something other than a finite number. -/
def ofWord? (negative : Bool) (cs : List Char) : Option Binary64 :=
  match cs.map Char.toLower with
  | ['i', 'n', 'f'] => some (.infinity negative)
  | ['i', 'n', 'f', 'i', 'n', 'i', 't', 'y'] => some (.infinity negative)
  | ['n', 'a', 'n'] => some .nan
  | _ => none

/-- The double nearest to the number that the text is. -/
def read? (text : List Char) : Option Binary64 :=
  let (negative, cs) := splitSign text
  (ofWord? negative cs).or ((Decimal.ofUnsigned? negative cs).map Decimal.toBinary64)

def ofString? (text : String) : Option Binary64 := read? text.toList

end Binary64

end Toolpath
