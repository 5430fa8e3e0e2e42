import Toolpath.Json.Value

/-!
# Writing JSON

A document is written either without any blank or with every item and field on a line of its own,
two blanks deeper than the bracket around it. In strings only the quote, the backslash and control
characters are escaped. A string without text is written as an empty one.
-/

namespace Toolpath.Json

def hexPair (n : Nat) : List Char := [Nat.digitChar (n / 16), Nat.digitChar (n % 16)]

def escapeChar (c : Char) : List Char :=
  match c with
  | '"' => ['\\', '"']
  | '\\' => ['\\', '\\']
  | '\x08' => ['\\', 'b']
  | '\t' => ['\\', 't']
  | '\n' => ['\\', 'n']
  | '\x0c' => ['\\', 'f']
  | '\r' => ['\\', 'r']
  | c => if c.toNat < 32 then ['\\', 'u', '0', '0'] ++ hexPair c.toNat else [c]

def quote (text : List Char) : List Char := '"' :: text.flatMap escapeChar ++ ['"']

def stringText (text : Option String) : List Char := quote (text.getD "").toList

def wordOf (b : Bool) : List Char :=
  if b then ['t', 'r', 'u', 'e'] else ['f', 'a', 'l', 's', 'e']

/-- How the items and fields of brackets are set apart. -/
structure Spacing where
  /-- What stands before an item at the given depth, and before the closing bracket. -/
  lineBreak : Nat → List Char
  afterColon : List Char

def compact : Spacing := ⟨fun _ => [], []⟩

def pretty : Spacing := ⟨fun depth => '\n' :: List.replicate (2 * depth) ' ', [' ']⟩

mutual

def chars (s : Spacing) (depth : Nat) : Json → List Char
  | null => ['n', 'u', 'l', 'l']
  | bool b => wordOf b
  | number w => w.text
  | string t => stringText t
  | array [] => ['[', ']']
  | array (v :: vs) =>
    '[' :: s.lineBreak (depth + 1) ++ chars s (depth + 1) v ++ items s (depth + 1) vs ++
      s.lineBreak depth ++ [']']
  | object [] => ['\x7b', '\x7d']
  | object ((k, v) :: fs) =>
    '\x7b' :: s.lineBreak (depth + 1) ++ stringText k ++ ':' :: s.afterColon ++
      chars s (depth + 1) v ++ fields s (depth + 1) fs ++ s.lineBreak depth ++ ['\x7d']

def items (s : Spacing) (depth : Nat) : List Json → List Char
  | [] => []
  | v :: vs => ',' :: s.lineBreak depth ++ chars s depth v ++ items s depth vs

def fields (s : Spacing) (depth : Nat) : List (Option String × Json) → List Char
  | [] => []
  | (k, v) :: fs =>
    ',' :: s.lineBreak depth ++ stringText k ++ ':' :: s.afterColon ++ chars s depth v ++
      fields s depth fs

end

def render (s : Spacing) (v : Json) : String := String.ofList (chars s 0 v)

end Toolpath.Json
