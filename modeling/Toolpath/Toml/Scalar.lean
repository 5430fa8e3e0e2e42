import Toolpath.Number.Arithmetic
import Toolpath.Number.Reading
import Toolpath.Text.Hexadecimal
import Toolpath.Toml.Value

/-!
# Numbers, truth values and dates in TOML

Such a value is a run of letters, digits and a few marks; the whole run has to have one of the
forms. An underscore may stand between two digits. Integers have 64 binary digits, and a float is
the nearest double, which must not be the positive infinity unless it is named.
-/

namespace Toolpath.Toml

def isWordChar (c : Char) : Bool :=
  c.isAlphanum || c = '_' || c = '-' || c = '+' || c = '.' || c = ':'

/-- The digits of a run that begins and ends with one and has at most one underscore between two of
them. -/
def grouped? (isDigit : Char → Bool) : List Char → Option (List Char)
  | [] => none
  | [c] => if isDigit c then some [c] else none
  | c :: '_' :: cs => if isDigit c then (grouped? isDigit cs).map (c :: ·) else none
  | c :: cs => if isDigit c then (grouped? isDigit cs).map (c :: ·) else none

def inBase? (base : Nat) (cs : List Char) : Option Nat :=
  (grouped? (fun c => (hexDigit? c).any (· < base)) cs).map fun ds =>
    ds.foldl (fun n c => base * n + (hexDigit? c).getD 0) 0

/-- Decimal digits without a needless zero in front. -/
def wholeDigits? (cs : List Char) : Option (List Char) :=
  match grouped? isDigit cs with
  | some ('0' :: _ :: _) => none
  | ds => ds

def fits (n : Int) : Bool := -9223372036854775808 ≤ n && n ≤ 9223372036854775807

def decimalInteger? (cs : List Char) : Option Int :=
  let (negative, ds) := splitSign cs
  (wholeDigits? ds).map fun ds =>
    if negative then -(natOfDigits ds : Int) else natOfDigits ds

def integer? (cs : List Char) : Option Toml :=
  let n := match cs with
    | '0' :: 'x' :: ds => (inBase? 16 ds).map Int.ofNat
    | '0' :: 'o' :: ds => (inBase? 8 ds).map Int.ofNat
    | '0' :: 'b' :: ds => (inBase? 2 ds).map Int.ofNat
    | cs => decimalInteger? cs
  (n.filter fits).map integer

def isExponentMark (c : Char) : Bool := c = 'e' || c = 'E'

def exponentInteger? (cs : List Char) : Option Int :=
  let (negative, ds) := splitSign cs
  (grouped? isDigit ds).map fun ds => if negative then -(natOfDigits ds : Int) else natOfDigits ds

/-- A float with a fraction, an exponent or both. -/
def decimalFloat? (cs : List Char) : Option Binary64 := do
  guard (cs.any fun c => c = '.' || isExponentMark c)
  let (negative, cs) := splitSign cs
  let mantissa := cs.takeWhile (!isExponentMark ·)
  let whole ← wholeDigits? (mantissa.takeWhile (· != '.'))
  let fraction ← match mantissa.dropWhile (· != '.') with
    | [] => some []
    | _ :: ds => grouped? isDigit ds
  let exponent ← match cs.dropWhile (!isExponentMark ·) with
    | [] => some 0
    | _ :: ds => exponentInteger? ds
  let x := (Decimal.ofDigits negative whole fraction exponent).toBinary64
  if x = .infinity false then none else some x

def namedFloat? (cs : List Char) : Option Binary64 :=
  let (negative, cs) := splitSign cs
  match cs with
  | ['i', 'n', 'f'] => some (.infinity negative)
  | ['n', 'a', 'n'] => some .nan
  | _ => none

def float? (cs : List Char) : Option Toml := ((namedFloat? cs).or (decimalFloat? cs)).map float

def fixedNumber? (count : Nat) (cs : List Char) : Option Nat :=
  if cs.length = count ∧ cs.all isDigit then some (natOfDigits cs) else none

def isNumberUpTo (least greatest : Nat) (cs : List Char) : Bool :=
  (fixedNumber? 2 cs).any fun n => least ≤ n && n ≤ greatest

def isLeapYear (y : Nat) : Bool := y % 4 = 0 && (y % 100 ≠ 0 || y % 400 = 0)

def daysInMonth (year month : Nat) : Nat :=
  if month = 2 then if isLeapYear year then 29 else 28
  else if month = 4 || month = 6 || month = 9 || month = 11 then 30 else 31

def isDate (cs : List Char) : Bool :=
  match fixedNumber? 4 (cs.take 4), cs.drop 4 with
  | some year, ['-', m₁, m₂, '-', d₁, d₂] =>
    isNumberUpTo 1 12 [m₁, m₂] &&
      isNumberUpTo 1 (daysInMonth year (natOfDigits [m₁, m₂])) [d₁, d₂]
  | _, _ => false

/-- Hours, minutes, seconds and possibly digits of a second. A leap second is allowed. -/
def isTime : List Char → Bool
  | h₁ :: h₂ :: ':' :: m₁ :: m₂ :: ':' :: s₁ :: s₂ :: cs =>
    isNumberUpTo 0 23 [h₁, h₂] && isNumberUpTo 0 59 [m₁, m₂] && isNumberUpTo 0 60 [s₁, s₂] &&
      match cs with
      | [] => true
      | '.' :: ds => !ds.isEmpty && ds.all isDigit
      | _ => false
  | _ => false

def isOffset : List Char → Bool
  | ['Z'] => true
  | ['z'] => true
  | [sign, h₁, h₂, ':', m₁, m₂] =>
    (sign = '+' || sign = '-') && isNumberUpTo 0 23 [h₁, h₂] && isNumberUpTo 0 59 [m₁, m₂]
  | _ => false

def startsOffset (c : Char) : Bool := c = 'Z' || c = 'z' || c = '+' || c = '-'

/-- A time, and possibly its offset from universal time. -/
def isTimeWithOffset (cs : List Char) : Bool :=
  let offset := cs.dropWhile (!startsOffset ·)
  isTime (cs.takeWhile (!startsOffset ·)) && (offset.isEmpty || isOffset offset)

/-- A date, a time, or both with a separator between them. -/
def isMoment (cs : List Char) : Bool :=
  isTime cs ||
    isDate (cs.take 10) &&
      match cs.drop 10 with
      | [] => true
      | c :: time => (c = 'T' || c = 't' || c = ' ') && isTimeWithOffset time

def word? (cs : List Char) : Option Toml :=
  match cs with
  | ['t', 'r', 'u', 'e'] => some (bool true)
  | ['f', 'a', 'l', 's', 'e'] => some (bool false)
  | cs => (integer? cs).or ((float? cs).or (if isMoment cs then some moment else none))

def startsTime : List Char → Bool
  | h₁ :: h₂ :: ':' :: _ => isDigit h₁ && isDigit h₂
  | _ => false

/-- A blank and a time after a date belong to it. -/
def withTime (date rest : List Char) : List Char × List Char :=
  match rest with
  | ' ' :: cs =>
    if isDate date && startsTime cs then
      (date ++ ' ' :: cs.takeWhile isWordChar, cs.dropWhile isWordChar)
    else (date, rest)
  | _ => (date, rest)

/-- The number, truth value or date at the front of a text, and the rest. -/
def scalar (cs : List Char) : Option (Toml × List Char) :=
  let (word, rest) := withTime (cs.takeWhile isWordChar) (cs.dropWhile isWordChar)
  (word? word).map fun v => (v, rest)

end Toolpath.Toml
