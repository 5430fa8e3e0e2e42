import Toolpath.Json.Number
import Toolpath.Record.Parts

/-!
# Values from JSON documents
-/

namespace Toolpath.Json

def toBinary64? : Json → Option Binary64
  | number w => toDouble? w
  | _ => none

def toNatUpTo? (greatest : Nat) : Json → Option Nat
  | number w => toNat? greatest w
  | _ => none

def toBool? : Json → Option Bool
  | bool b => some b
  | _ => none

def toText? : Json → Option String
  | string t => t
  | _ => none

/-- Nothing, for the null document, or a value. -/
def toOption? {β : Type} (read : Json → Option β) : Json → Option (Option β)
  | null => some none
  | v => (read v).map some

def toList? {β : Type} (read : Json → Option β) : Json → Option (List β)
  | array items => items.mapM read
  | _ => none

/-- The fields of an object all of whose keys are texts. -/
def namedFields? (fields : List (Option String × Json)) : Option (List (String × Json)) :=
  fields.mapM fun (k, v) => k.map fun k => (k, v)

/-- The parts of a record. A sequence must not be longer than the record. -/
def parts? (names : List String) : Json → Option (Parts Json)
  | object fields => (namedFields? fields).bind (Parts.ofNamed? names)
  | array items => if items.length ≤ names.length then some (.ofSequence names items) else none
  | _ => none

/-- A case without contents, by its name or as an object with nothing under its name. -/
def caseName? : Json → Option String
  | string t => t
  | object [(some name, null)] => some name
  | _ => none

def toCase? {β : Type} (ofName? : String → Option β) (v : Json) : Option β :=
  (caseName? v).bind ofName?

end Toolpath.Json
