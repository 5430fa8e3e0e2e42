import Toolpath.Number.Arithmetic
import Toolpath.Record.Parts
import Toolpath.Toml.Value

/-!
# Values from TOML documents
-/

namespace Toolpath.Toml

/-- A float, or the double nearest to an integer. -/
def toBinary64? : Toml → Option Binary64
  | float x => some x
  | integer n => some (.ofInt n)
  | _ => none

def toNatUpTo? (greatest : Nat) : Toml → Option Nat
  | integer n => if 0 ≤ n ∧ n ≤ greatest then some n.toNat else none
  | _ => none

def toBool? : Toml → Option Bool
  | bool b => some b
  | _ => none

def toText? : Toml → Option String
  | string s => some s
  | _ => none

/-- Nothing is in it. -/
def isVacant : Toml → Bool
  | array [] => true
  | inline [] => true
  | table _ _ [] => true
  | tables [] => true
  | _ => false

/-- A case without contents, by its name or as a table with nothing under its name. -/
def caseName? : Toml → Option String
  | string s => some s
  | inline [(name, v)] => if v.isVacant then some name else none
  | table _ _ [(name, v)] => if v.isVacant then some name else none
  | _ => none

def toCase? {β : Type} (ofName? : String → Option β) (v : Toml) : Option β :=
  (caseName? v).bind ofName?

/-- The parts of a record. Any array is a sequence, and a date has no field of its own. -/
def parts? (names : List String) : Toml → Option (Parts Toml)
  | table _ _ fields => Parts.ofNamed? names fields
  | inline fields => Parts.ofNamed? names fields
  | moment => Parts.ofNamed? names []
  | array items => some (.ofSequence names items)
  | tables items => some (.ofSequence names items)
  | _ => none

end Toolpath.Toml
