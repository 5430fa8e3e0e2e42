/-!
# The parts of a record

A document gives a record either by its field names or as a sequence in the order of the fields. The
parts are what it gives for each field. A field may be required, may have a default, or may be
optional; an optional field has to be there where fields are told apart by position alone.
-/

namespace Toolpath

structure Parts (α : Type) where
  /-- One entry for each field of the record, in order. -/
  values : List (Option α)
  positional : Bool

namespace Parts

variable {α β : Type}

/-- The parts given by name. Names of other fields do not matter, but no known name may come
twice. -/
def ofNamed? (names : List String) (fields : List (String × α)) : Option (Parts α) :=
  if names.all fun n => (fields.filter (·.1 = n)).length ≤ 1 then
    some ⟨names.map fun n => (fields.find? (·.1 = n)).map (·.2), false⟩
  else none

/-- The parts given by position. What is left over is not looked at. -/
def ofSequence (names : List String) (items : List α) : Parts α :=
  ⟨(List.range names.length).map (items[·]?), true⟩

def field (p : Parts α) (i : Nat) : Option α := p.values[i]?.join

def required (p : Parts α) (i : Nat) (read : α → Option β) : Option β :=
  (p.field i).bind read

def withDefault (p : Parts α) (i : Nat) (default : β) (read : α → Option β) : Option β :=
  match p.field i with
  | some a => read a
  | none => some default

def optional (p : Parts α) (i : Nat) (read : α → Option (Option β)) : Option (Option β) :=
  match p.field i with
  | some a => read a
  | none => if p.positional then none else some none

end Parts

end Toolpath
