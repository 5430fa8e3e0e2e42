import Toolpath.Toml.Document
import Toolpath.Toml.Scalar
import Toolpath.Toml.Text

/-!
# Reading TOML

A text is read into statements, one on a line, which are then assembled. Arrays and inline tables
are nested less than eighty deep, and a dotted key has less than eighty parts.
-/

namespace Toolpath.Toml

def skipBlanks (cs : List Char) : List Char := cs.dropWhile fun c => c = ' ' || c = '\t'

/-- The end of a line, with blanks and a comment before it. -/
def lineEnd? (comment : Bool) : List Char → Option (List Char)
  | [] => some []
  | '\n' :: cs => some cs
  | '\r' :: '\n' :: cs => some cs
  | c :: cs =>
    if comment then if isPlain c then lineEnd? true cs else none
    else if c = '#' then lineEnd? true cs
    else if c = ' ' || c = '\t' then lineEnd? false cs
    else none

/-- Skips blanks, line ends and comments. -/
def filler? (comment : Bool) : List Char → Option (List Char)
  | [] => some []
  | '\n' :: cs => filler? false cs
  | '\r' :: '\n' :: cs => filler? false cs
  | c :: cs =>
    if comment then if isPlain c then filler? true cs else none
    else if c = '#' then filler? true cs
    else if c = ' ' || c = '\t' then filler? false cs
    else some (c :: cs)

def isBareKeyChar (c : Char) : Bool := c.isAlphanum || c = '_' || c = '-'

/-- One part of a key: a short string or a bare word. -/
def keyPart? (cs : List Char) : Option (String × List Char) :=
  let read := match cs with
    | '"' :: cs => basic? false .text cs
    | '\x27' :: cs => literal? false cs
    | cs =>
      let word := cs.takeWhile isBareKeyChar
      if word.isEmpty then none else some (word, cs.dropWhile isBareKeyChar)
  read.map fun (word, rest) => (String.ofList word, rest)

/-- The parts of a key, between blanks and dots, at most the given number of them. -/
def keyParts? : Nat → List Char → Option (List String × List Char)
  | 0, _ => none
  | n + 1, cs => do
    let (part, cs) ← keyPart? (skipBlanks cs)
    match skipBlanks cs with
    | '.' :: cs =>
      let (parts, cs) ← keyParts? n cs
      some (part :: parts, cs)
    | cs => some ([part], cs)

def key? (cs : List Char) : Option (List String × List Char) := keyParts? 79 cs

def items? (value : List Char → Option (Toml × List Char)) :
    Nat → List Char → Option (List Toml × List Char)
  | 0, _ => none
  | n + 1, cs => do
    match ← filler? false cs with
    | ']' :: cs => some ([], cs)
    | cs =>
      let (v, cs) ← value cs
      match ← filler? false cs with
      | ',' :: cs =>
        let (vs, cs) ← items? value n cs
        some (v :: vs, cs)
      | ']' :: cs => some ([v], cs)
      | _ => none

def pair? (value : List Char → Option (Toml × List Char)) (cs : List Char) :
    Option ((List String × String × Toml) × List Char) := do
  let (parts, cs) ← key? cs
  match parts.getLast?, cs with
  | some key, '=' :: cs =>
    let (v, cs) ← value (skipBlanks cs)
    some ((parts.dropLast, key, v), cs)
  | _, _ => none

/-- The pairs of an inline table that is not empty, up to its closing brace. -/
def pairs? (value : List Char → Option (Toml × List Char)) :
    Nat → List Char → Option (List (List String × String × Toml) × List Char)
  | 0, _ => none
  | n + 1, cs => do
    let (p, cs) ← pair? value cs
    match skipBlanks cs with
    | ',' :: cs =>
      let (ps, cs) ← pairs? value n cs
      some (p :: ps, cs)
    | '\x7d' :: cs => some ([p], cs)
    | _ => none

/-- A value with at most so many brackets around another one within it. -/
def valueUpTo? : Nat → List Char → Option (Toml × List Char)
  | _, '"' :: cs => (string? ('"' :: cs)).map fun (t, rest) => (string (String.ofList t), rest)
  | _, '\x27' :: cs =>
    (string? ('\x27' :: cs)).map fun (t, rest) => (string (String.ofList t), rest)
  | 0, '[' :: _ => none
  | 0, '\x7b' :: _ => none
  | depth + 1, '[' :: cs =>
    (items? (valueUpTo? depth) (cs.length + 1) cs).map fun (vs, rest) => (array vs, rest)
  | depth + 1, '\x7b' :: cs =>
    match skipBlanks cs with
    | '\x7d' :: cs => some (inline [], cs)
    | cs => do
      let (ps, rest) ← pairs? (valueUpTo? depth) (cs.length + 1) cs
      some (← ofPairs? ps, rest)
  | _, cs => scalar cs

def value? (cs : List Char) : Option (Toml × List Char) := valueUpTo? 79 cs

def statement? : List Char → Option (Statement × List Char)
  | '[' :: '[' :: cs => do
    match ← key? cs with
    | (path, ']' :: ']' :: cs) => some (.arrayHeader path, cs)
    | _ => none
  | '[' :: cs => do
    match ← key? cs with
    | (path, ']' :: cs) => some (.header path, cs)
    | _ => none
  | cs => (pair? value? cs).map fun ((path, key, v), rest) => (.value path key v, rest)

/-- The statements of a text, at most the given number of them. -/
def statementsUpTo? : Nat → List Char → Option (List Statement)
  | 0, _ => none
  | n + 1, cs => do
    match ← filler? false cs with
    | [] => some []
    | cs =>
      let (s, cs) ← statement? cs
      let cs ← lineEnd? false cs
      let ss ← statementsUpTo? n cs
      some (s :: ss)

/-- A byte order mark in front of a text does not count. -/
def skipMark : List Char → List Char
  | '\ufeff' :: cs => cs
  | cs => cs

def read? (text : String) : Option Toml :=
  let cs := skipMark text.toList
  (statementsUpTo? (cs.length + 1) cs).bind ofStatements?

end Toolpath.Toml
