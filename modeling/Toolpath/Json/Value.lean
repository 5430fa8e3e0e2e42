import Toolpath.Number.Layout

/-!
# JSON documents

A document keeps its numbers as they are written and the fields of an object in order. A string may
hold half of a surrogate pair; such a string stands for no text.
-/

namespace Toolpath

inductive Json where
  | null
  | bool (value : Bool)
  | number (written : Written)
  | string (text : Option String)
  | array (items : List Json)
  | object (fields : List (Option String × Json))

namespace Json

instance : Inhabited Json := ⟨null⟩

/-- Doubles are written out from a hundred-thousandth up to sixteen digits, and an exponent has a
sign. -/
def layout : Layout where
  positional leading := -5 ≤ leading && leading < 16
  plus := true
  tie := .toEven

/-- The document of a double. What has no digits has no document of its own. -/
def ofDouble (x : Binary64) : Json :=
  match layout.written? x with
  | some w => number w
  | none => null

def ofNat (n : Nat) : Json := number (.ofNat n)

def ofString (s : String) : Json := string (some s)

def record (fields : List (String × Json)) : Json := object (fields.map fun (k, v) => (some k, v))

end Json

end Toolpath
