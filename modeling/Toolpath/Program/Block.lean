import Toolpath.Number.Arithmetic
import Toolpath.Program.Word
import Toolpath.Text.Blank
import Toolpath.Text.Uppercase

/-!
# Blocks

A block is what the words of one program line say about planar motion. The line is cut at its
comment, trimmed and put in upper case before it is scanned. G words are kept in order; of X, Y, I
and J the last one counts; a word without a value is dropped and only counted.
-/

namespace Toolpath

structure Block where
  codes : List Binary64 := []
  x : Option Binary64 := none
  y : Option Binary64 := none
  i : Option Binary64 := none
  j : Option Binary64 := none
  dropped : Nat := 0
  deriving DecidableEq

/-- The line without its comment and without the blanks around it. -/
def stripComment (line : List Char) : List Char := trim (line.takeWhile (· != ';'))

namespace Block

/-- The block with one more word. -/
def add (b : Block) (w : Word) : Block :=
  match w.numeral.value? with
  | none => { b with dropped := b.dropped + 1 }
  | some v =>
    match w.letter with
    | 'G' => { b with codes := b.codes ++ [v] }
    | 'X' => { b with x := some v }
    | 'Y' => { b with y := some v }
    | 'I' => { b with i := some v }
    | 'J' => { b with j := some v }
    | _ => b

def ofWords (ws : List Word) : Block := ws.foldl add {}

def read? (line : List Char) : Option Block :=
  let code := uppercase (stripComment line)
  if code.isEmpty then none else some (ofWords (Word.scan code))

/-- The line names a target on at least one axis. -/
def hasTarget (b : Block) : Bool := b.x.isSome || b.y.isSome

/-- The offsets of an arc's center, when both are given. -/
def offsets? (b : Block) : Option (Binary64 × Binary64) :=
  match b.i, b.j with
  | some i, some j => some (i, j)
  | _, _ => none

end Block

/-- The number of a G code: a whole number of at most 32 binary digits. A code with a fraction has
none. -/
def Binary64.code? (v : Binary64) : Option Nat :=
  match v.toInt? with
  | some n => if 0 ≤ n ∧ n ≤ 4294967295 then some n.toNat else none
  | none => none

end Toolpath
