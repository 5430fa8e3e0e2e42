/-!
# Text without control sequences

What is left of a text when nothing in it may act on a terminal: blanks and line ends stay, other
control characters and the sequences that begin with an escape do not. A blank or a line end inside
a sequence stays too, and what follows it is shown up to the next control character, where the
sequence goes on.
-/

namespace Toolpath

/-- What the next character may belong to. -/
inductive TerminalState where
  | plain
  /-- After an escape. -/
  | escape
  /-- After an escape and the marks that may follow it. -/
  | intermediate
  /-- Between the bracket of a control sequence and its last character. -/
  | control
  /-- At the front of a string for a device. -/
  | device
  /-- Among the parameters of a string for a device. -/
  | deviceParameter
  /-- Among the marks before a string for a device. -/
  | deviceIntermediate
  /-- In a string that a bell ends. -/
  | untilBell
  /-- In a string that its terminator ends. -/
  | untilTerminator
  deriving DecidableEq

namespace TerminalState

def isControl (c : Char) : Bool := c.toNat < 0x20 || c.toNat = 0x7F

/-- Control characters that stay. -/
def isSpacing (c : Char) : Bool := c = '\t' || c = '\n' || c = '\x0c' || c = '\r'

def canShow (c : Char) : Bool := isSpacing c || !isControl c

/-- Cancels whatever sequence has begun. -/
def isCancel (c : Char) : Bool := c = '\x18' || c = '\x1a'

/-- The marks before the last character of a sequence. -/
def isIntermediate (c : Char) : Bool := 0x20 ≤ c.toNat && c.toNat < 0x30

/-- Digits, what separates them, and the marks of a private sequence. -/
def isParameter (c : Char) : Bool := 0x30 ≤ c.toNat && c.toNat < 0x40

def isPrivate (c : Char) : Bool := 0x3C ≤ c.toNat && c.toNat < 0x40

/-- The characters that may be the last one of a sequence. -/
def isFinal (c : Char) : Bool := 0x40 ≤ c.toNat && c.toNat < 0x7F

/-- The terminator of a string is a single byte, which counts inside another character too. -/
def isTerminator (c : Char) : Bool := (String.utf8EncodeChar c).contains 0x9C

/-- Whether a character that can be shown is not part of the sequence. -/
def lets (s : TerminalState) (c : Char) : Bool :=
  match s with
  | plain => true
  | escape | intermediate | control => isSpacing c
  | _ => false

/-- The state after a character that is part of the sequence. -/
def next (s : TerminalState) (c : Char) : TerminalState :=
  match s with
  | plain => plain
  | escape =>
    if isIntermediate c then intermediate
    else match c with
      | '[' => control
      | ']' => untilBell
      | 'P' => device
      | 'X' | '^' | '_' => untilTerminator
      | _ => if isParameter c || isFinal c then plain else escape
  | intermediate => if isParameter c || isFinal c then plain else intermediate
  | control => if isFinal c then plain else control
  | device =>
    if isIntermediate c then deviceIntermediate
    else if isParameter c then deviceParameter
    else if isFinal c then untilTerminator
    else device
  | deviceParameter =>
    if isIntermediate c then deviceIntermediate
    else if isPrivate c || isFinal c then untilTerminator
    else deviceParameter
  | deviceIntermediate =>
    if isParameter c || isFinal c then untilTerminator else deviceIntermediate
  | untilBell => if c = '\x07' then plain else untilBell
  | untilTerminator => if isTerminator c then plain else untilTerminator

/-- The state after a character that is shown: one outside ASCII leaves the sequence. -/
def afterShown (s : TerminalState) (c : Char) : TerminalState :=
  if c.toNat < 0x80 then s else plain

end TerminalState

open TerminalState in
/-- What is shown of a text, where `shown` says whether the character before it was. -/
def visibleFrom (shown : Bool) (s : TerminalState) : List Char → List Char
  | [] => []
  | c :: cs =>
    if c = '\x1b' then visibleFrom false .escape cs
    else if isCancel c then visibleFrom false .plain cs
    else if canShow c && (shown || s.lets c) then c :: visibleFrom true (s.afterShown c) cs
    else visibleFrom false (s.next c) cs

def visible (text : String) : String := String.ofList (visibleFrom false .plain text.toList)

end Toolpath
