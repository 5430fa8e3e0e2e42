import Toolpath.Text.Hexadecimal

/-!
# Strings in TOML

A basic string has escapes and a literal one has none; the long form of each may run over several
lines. A reader goes over the characters one by one and keeps in mind where it is.
-/

namespace Toolpath.Toml

/-- Tabs and everything but the control characters of ASCII. -/
def isPlain (c : Char) : Bool := c = '\t' || (32 ≤ c.toNat && c.toNat ≠ 127)

/-- A line feed, alone or after a carriage return, at the front. -/
def newline? : List Char → Option (List Char)
  | '\n' :: cs => some cs
  | '\r' :: '\n' :: cs => some cs
  | _ => none

/-- Three quotes end a long string, and up to two more before them belong to it. -/
def closing? (quote : Char) : List Char → Option (List Char × List Char)
  | a :: b :: c :: d :: e :: cs =>
    if a = quote ∧ b = quote ∧ c = quote then
      if d = quote then
        if e = quote then some ([quote, quote], cs) else some ([quote], e :: cs)
      else some ([], d :: e :: cs)
    else none
  | [a, b, c, d] =>
    if a = quote ∧ b = quote ∧ c = quote then
      if d = quote then some ([quote], []) else some ([], [d])
    else none
  | [a, b, c] => if a = quote ∧ b = quote ∧ c = quote then some ([], []) else none
  | _ => none

def scalar? (n : Nat) : Option Char := if n.isValidChar then some (Char.ofNat n) else none

/-- What a letter after a backslash stands for. -/
def escape? : Char → Option Char
  | 'b' => some '\x08'
  | 't' => some '\t'
  | 'n' => some '\n'
  | 'f' => some '\x0c'
  | 'r' => some '\r'
  | '"' => some '"'
  | '\\' => some '\\'
  | _ => none

/-- Where the reader of a basic string is. -/
inductive Place where
  | text
  /-- After a backslash. -/
  | escape
  /-- After a backslash and blanks: the line has to end. -/
  | lineEnd
  /-- After a line that ended with a backslash: blanks do not count. -/
  | margin
  /-- Within the digits of an escape. -/
  | digits (left value : Nat)
  deriving DecidableEq

def isMargin (c : Char) (cs : List Char) : Bool :=
  c = ' ' || c = '\t' || c = '\n' || (c = '\r' && cs.head? = some '\n')

def consChar (c : Char) : Option (List Char × List Char) → Option (List Char × List Char)
  | some (text, rest) => some (c :: text, rest)
  | none => none

/-- The text of a basic string up to its closing quotes, and the rest. -/
def basic? (long : Bool) (place : Place) : List Char → Option (List Char × List Char)
  | [] => none
  | c :: cs =>
    match if place = .margin && !isMargin c cs then .text else place with
    | .text =>
      if c = '\\' then basic? long .escape cs
      else if c = '"' then
        if long then (closing? '"' (c :: cs)).or (consChar c (basic? long .text cs))
        else some ([], cs)
      else if long && c = '\n' then consChar c (basic? long .text cs)
      else if long && c = '\r' && cs.head? = some '\n' then basic? long .text cs
      else if isPlain c then consChar c (basic? long .text cs)
      else none
    | .escape =>
      match escape? c with
      | some e => consChar e (basic? long .text cs)
      | none =>
        if c = 'u' then basic? long (.digits 4 0) cs
        else if c = 'U' then basic? long (.digits 8 0) cs
        else if long && (c = ' ' || c = '\t') then basic? long .lineEnd cs
        else if long && isMargin c cs then basic? long .margin cs
        else none
    | .lineEnd =>
      if c = ' ' || c = '\t' then basic? long .lineEnd cs
      else if isMargin c cs then basic? long .margin cs
      else none
    | .margin => basic? long .margin cs
    | .digits left value =>
      match hexDigit? c with
      | none => none
      | some d =>
        if left = 1 then
          match scalar? (16 * value + d) with
          | some e => consChar e (basic? long .text cs)
          | none => none
        else basic? long (.digits (left - 1) (16 * value + d)) cs

/-- The text of a literal string up to its closing quotes, and the rest. -/
def literal? (long : Bool) : List Char → Option (List Char × List Char)
  | [] => none
  | c :: cs =>
    if c = '\x27' then
      if long then (closing? c (c :: cs)).or (consChar c (literal? long cs))
      else some ([], cs)
    else if long && c = '\n' then consChar c (literal? long cs)
    else if long && c = '\r' && cs.head? = some '\n' then literal? long cs
    else if isPlain c then consChar c (literal? long cs)
    else none

/-- A string of any of the four kinds. The first line end of a long one does not count. -/
def string? : List Char → Option (List Char × List Char)
  | '"' :: '"' :: '"' :: cs => basic? true .text ((newline? cs).getD cs)
  | '"' :: cs => basic? false .text cs
  | '\x27' :: '\x27' :: '\x27' :: cs => literal? true ((newline? cs).getD cs)
  | '\x27' :: cs => literal? false cs
  | _ => none

end Toolpath.Toml
