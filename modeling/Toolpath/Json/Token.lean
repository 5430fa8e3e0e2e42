import Toolpath.Json.Value
import Toolpath.Text.Hexadecimal

/-!
# JSON tokens

The text of a document is cut into brackets, separators, words, numbers and strings, with blanks
between them as it pleases. Numbers and strings are as long as possible.
-/

namespace Toolpath.Json

inductive Token where
  | openArray
  | closeArray
  | openObject
  | closeObject
  | colon
  | comma
  | null
  | bool (value : Bool)
  | number (written : Written)
  | string (text : Option String)
  deriving DecidableEq

def isSpace (c : Char) : Bool := c = ' ' || c = '\t' || c = '\n' || c = '\r'

/-- A character of a string, or one half of what an escape with four digits stands for. -/
inductive Piece where
  | char (c : Char)
  | unit (n : Nat)
  deriving DecidableEq

/-- The number that a run of hexadecimal digits stands for. -/
def hexValue? (cs : List Char) : Option Nat :=
  cs.foldl (fun n c => n.bind fun n => (hexDigit? c).map (16 * n + ·)) (some 0)

/-- What a letter after a backslash stands for. -/
def escape? : Char → Option Char
  | '"' => some '"'
  | '\\' => some '\\'
  | '/' => some '/'
  | 'b' => some '\x08'
  | 'f' => some '\x0c'
  | 'n' => some '\n'
  | 'r' => some '\r'
  | 't' => some '\t'
  | _ => none

/-- The pieces of a string up to the closing quote, and the rest. Control characters have to be
escaped. -/
def pieces? : List Char → Option (List Piece × List Char)
  | [] => none
  | '"' :: cs => some ([], cs)
  | '\\' :: 'u' :: a :: b :: c :: d :: cs =>
    match hexValue? [a, b, c, d], pieces? cs with
    | some n, some (ps, rest) => some (.unit n :: ps, rest)
    | _, _ => none
  | '\\' :: e :: cs =>
    match escape? e, pieces? cs with
    | some c, some (ps, rest) => some (.char c :: ps, rest)
    | _, _ => none
  | c :: cs =>
    if c.toNat < 32 then none
    else match pieces? cs with
      | some (ps, rest) => some (.char c :: ps, rest)
      | none => none

def isHigh (n : Nat) : Bool := 0xD800 ≤ n && n ≤ 0xDBFF

def isLow (n : Nat) : Bool := 0xDC00 ≤ n && n ≤ 0xDFFF

/-- The characters that pieces make. A high and a low half next to each other make one; a half that
stands alone makes none. -/
def chars? : List Piece → Option (List Char)
  | [] => some []
  | .char c :: ps => (chars? ps).map (c :: ·)
  | .unit n :: .unit m :: ps =>
    if isHigh n then
      if isLow m then
        (chars? ps).map (Char.ofNat (0x10000 + (n - 0xD800) * 0x400 + (m - 0xDC00)) :: ·)
      else none
    else if isLow n then none
    else (chars? (.unit m :: ps)).map (Char.ofNat n :: ·)
  | .unit n :: ps =>
    if isHigh n || isLow n then none else (chars? ps).map (Char.ofNat n :: ·)

def textOf (ps : List Piece) : Option String := (chars? ps).map String.ofList

/-- The digits before the point: a zero alone, or digits that do not start with one. -/
def whole? : List Char → Option (List Char × List Char)
  | '0' :: cs => some (['0'], cs)
  | cs =>
    let ds := cs.takeWhile isDigit
    if ds.isEmpty then none else some (ds, cs.dropWhile isDigit)

/-- A point with at least one digit after it, or nothing. -/
def fraction? : List Char → Option (Option (List Char) × List Char)
  | '.' :: cs =>
    let ds := cs.takeWhile isDigit
    if ds.isEmpty then none else some (some ds, cs.dropWhile isDigit)
  | cs => some (none, cs)

/-- At least one digit after the mark of an exponent and its sign. -/
def exponentDigits? (sign : Option Char) (cs : List Char) :
    Option (Option (Option Char × List Char) × List Char) :=
  let ds := cs.takeWhile isDigit
  if ds.isEmpty then none else some (some (sign, ds), cs.dropWhile isDigit)

def signedExponent? : List Char → Option (Option (Option Char × List Char) × List Char)
  | '+' :: cs => exponentDigits? (some '+') cs
  | '-' :: cs => exponentDigits? (some '-') cs
  | cs => exponentDigits? none cs

def exponent? : List Char → Option (Option (Option Char × List Char) × List Char)
  | 'e' :: cs => signedExponent? cs
  | 'E' :: cs => signedExponent? cs
  | cs => some (none, cs)

def unsigned? (negative : Bool) (cs : List Char) : Option (Written × List Char) := do
  let (whole, cs) ← whole? cs
  let (fraction, cs) ← fraction? cs
  let (exponent, cs) ← exponent? cs
  some (⟨negative, whole, fraction, exponent⟩, cs)

/-- The number at the front of a text, and the rest. -/
def number? : List Char → Option (Written × List Char)
  | '-' :: cs => unsigned? true cs
  | cs => unsigned? false cs

/-- The token that starts with the given character, and the rest. -/
def token? (c : Char) (cs : List Char) : Option (Token × List Char) :=
  match c, cs with
  | '[', cs => some (.openArray, cs)
  | ']', cs => some (.closeArray, cs)
  | '\x7b', cs => some (.openObject, cs)
  | '\x7d', cs => some (.closeObject, cs)
  | ':', cs => some (.colon, cs)
  | ',', cs => some (.comma, cs)
  | 'n', 'u' :: 'l' :: 'l' :: cs => some (.null, cs)
  | 't', 'r' :: 'u' :: 'e' :: cs => some (.bool true, cs)
  | 'f', 'a' :: 'l' :: 's' :: 'e' :: cs => some (.bool false, cs)
  | '"', cs => (pieces? cs).map fun (ps, rest) => (.string (textOf ps), rest)
  | c, cs => (number? (c :: cs)).map fun (w, rest) => (.number w, rest)

/-- The tokens of a text. The count bounds their number; a text has no more tokens than
characters. -/
def tokensUpTo : Nat → List Char → Option (List Token)
  | _, [] => some []
  | 0, _ => none
  | n + 1, c :: cs =>
    if isSpace c then tokensUpTo n cs
    else match token? c cs with
      | some (t, rest) => (tokensUpTo n rest).map (t :: ·)
      | none => none

def tokens? (cs : List Char) : Option (List Token) := tokensUpTo cs.length cs

end Toolpath.Json
