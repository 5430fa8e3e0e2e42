import Toolpath.Text.Hidden

/-!
# Quoted text

A text between quotes that shows every one of its characters: a quote, a backslash and a character
that does not show by itself are escaped.
-/

namespace Toolpath

/-- The number of a character in hexadecimal, in braces. -/
def numberedEscape (c : Char) : List Char :=
  ['\\', 'u', '\x7b'] ++ Nat.toDigits 16 c.toNat ++ ['\x7d']

def showChar (c : Char) : List Char :=
  match c with
  | '"' => ['\\', '"']
  | '\\' => ['\\', '\\']
  | '\x00' => ['\\', '0']
  | '\t' => ['\\', 't']
  | '\n' => ['\\', 'n']
  | '\r' => ['\\', 'r']
  | c =>
    if c.toNat < 0x20 || c.toNat = 0x7F || isHidden c then numberedEscape c else [c]

def quoted (text : String) : String :=
  String.ofList ('"' :: text.toList.flatMap showChar ++ ['"'])

end Toolpath
