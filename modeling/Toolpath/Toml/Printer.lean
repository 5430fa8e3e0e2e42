import Toolpath.Number.Layout

/-!
# Writing TOML

A string is written in the plainest of the four forms that can hold it: basic without escapes,
literal, long basic without escapes, long literal, and as the last resort with escapes, long only if
there are line feeds. A long string that has line feeds begins on a line of its own. Doubles are
written out in full.
-/

namespace Toolpath.Toml

def layout : Layout where
  positional _ := true
  plus := false
  tie := .up

def doubleText (x : Binary64) : List Char :=
  match layout.written? x with
  | some w => w.text
  | none => if x.isNaN then ['n', 'a', 'n'] else wordText x

/-- The length of the longest run of a character. -/
def longestRun (c : Char) (run : Nat) : List Char → Nat
  | [] => run
  | d :: cs => if d = c then longestRun c (run + 1) cs else Nat.max run (longestRun c 0 cs)

/-- A control character other than tab and line feed. -/
def isControl (c : Char) : Bool :=
  (c.toNat < 32 && c ≠ '\t' && c ≠ '\n') || c.toNat = 127

inductive Form where
  | basic
  | literal
  | longBasic
  | longLiteral
  deriving DecidableEq

def formOf (text : List Char) : Form :=
  let doubles := longestRun '"' 0 text
  let singles := longestRun '\x27' 0 text
  let controls := text.any isControl
  let escapes := controls || text.contains '\\'
  let newline := text.contains '\n'
  if !escapes && doubles = 0 && !newline then .basic
  else if !controls && singles = 0 && !newline then .literal
  else if !escapes && doubles ≤ 2 then .longBasic
  else if !controls && singles ≤ 2 then .longLiteral
  else if newline then .longBasic
  else .basic

def controlDigits (n : Nat) : List Char :=
  ['0', '0', (Nat.digitChar (n / 16)).toUpper, (Nat.digitChar (n % 16)).toUpper]

def escapeChar (long : Bool) (c : Char) : List Char :=
  match c with
  | '\x08' => ['\\', 'b']
  | '\t' => ['\\', 't']
  | '\x0c' => ['\\', 'f']
  | '\r' => ['\\', 'r']
  | '\\' => ['\\', '\\']
  | '\n' => if long then ['\n'] else ['\\', 'n']
  | c => if isControl c then '\\' :: 'u' :: controlDigits c.toNat else [c]

/-- Escapes a basic string. A long one keeps up to two quotes in a row as they are. -/
def escapeText (long : Bool) (quotes : Nat) : List Char → List Char
  | [] => []
  | c :: cs =>
    if c = '"' then
      if quotes < (if long then 2 else 0) then c :: escapeText long (quotes + 1) cs
      else '\\' :: c :: escapeText long 0 cs
    else escapeChar long c ++ escapeText long 0 cs

def quote (text : List Char) : List Char :=
  let lead := if text.contains '\n' then ['\n'] else []
  match formOf text with
  | .basic => '"' :: escapeText false 0 text ++ ['"']
  | .literal => '\x27' :: text ++ ['\x27']
  | .longBasic => ['"', '"', '"'] ++ lead ++ escapeText true 0 text ++ ['"', '"', '"']
  | .longLiteral => ['\x27', '\x27', '\x27'] ++ lead ++ text ++ ['\x27', '\x27', '\x27']

def line (key : String) (value : List Char) : String := key ++ " = " ++ String.ofList value ++ "\n"

end Toolpath.Toml
