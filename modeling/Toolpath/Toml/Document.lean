import Toolpath.Toml.Value

/-!
# Assembling a TOML document

A document is a list of statements: headers that open a table, and values with the key that leads to
them from the open table. No value is given twice, no table is opened twice, and dotted keys and
headers do not extend each other's tables.
-/

namespace Toolpath.Toml

inductive Statement where
  /-- The table at a path is opened. -/
  | header (path : List String)
  /-- One more table of the array at a path is opened. -/
  | arrayHeader (path : List String)
  | value (path : List String) (key : String) (value : Toml)

def find? (fields : List (String × Toml)) (key : String) : Option Toml :=
  (fields.find? (·.1 = key)).map (·.2)

/-- The fields with a value under the key, in place of the one that was there. -/
def set (fields : List (String × Toml)) (key : String) (v : Toml) : List (String × Toml) :=
  if (find? fields key).isSome then fields.map fun (k, w) => if k = key then (k, v) else (k, w)
  else fields ++ [(key, v)]

/-- Changes the table at the end of a path, which is made where it is missing. The last table stands
for an array of them. Dotted keys do not lead through a table that a header opened. -/
def alter (dotted : Bool) (change : Toml → Option Toml) : List String → Toml → Option Toml
  | [], t => change t
  | key :: path, table implied d fields =>
    match find? fields key with
    | none =>
      (alter dotted change path (table true dotted [])).map fun t =>
        table implied d (set fields key t)
    | some (table implied' d' fields') =>
      if dotted && !implied' then none
      else (alter dotted change path (table implied' d' fields')).map fun t =>
        table implied d (set fields key t)
    | some (tables items) =>
      match items.getLast? with
      | some last =>
        (alter dotted change path last).map fun t =>
          table implied d (set fields key (tables (items.dropLast ++ [t])))
      | none => none
    | some _ => none
  | _, _ => none

/-- Adds a field. A table that was only implied by a header takes no value from a dotted key. -/
def insert (dotted : Bool) (key : String) (v : Toml) : Toml → Option Toml
  | table implied d fields =>
    if d = dotted ∧ (find? fields key).isNone then some (table implied d (fields ++ [(key, v)]))
    else none
  | _ => none

/-- Opens a table that is new or that was only implied by other headers. -/
def openTable (key : String) : Toml → Option Toml
  | table implied d fields =>
    match find? fields key with
    | none => some (table implied d (fields ++ [(key, emptyTable)]))
    | some (table true false inner) =>
      some (table implied d (set fields key (table false false inner)))
    | some _ => none
  | _ => none

/-- Opens one more table of an array of tables. -/
def openNext (key : String) : Toml → Option Toml
  | table implied d fields =>
    match find? fields key with
    | none => some (table implied d (fields ++ [(key, tables [emptyTable])]))
    | some (tables items) =>
      some (table implied d (set fields key (tables (items ++ [emptyTable]))))
    | some _ => none
  | _ => none

/-- Gives a value to a key below a table. -/
def assign (path : List String) (key : String) (v : Toml) (t : Toml) : Option Toml :=
  alter true (insert (!path.isEmpty) key v) path t

/-- The root of a document so far, and the path of the open table. -/
structure Draft where
  root : Toml := emptyTable
  current : List String := []

/-- Does something to the table above the end of a path. -/
def Draft.enter (d : Draft) (path : List String) (change : String → Toml → Option Toml) :
    Option Draft :=
  match path.getLast? with
  | none => none
  | some key => (alter false (change key) path.dropLast d.root).map fun root => ⟨root, path⟩

def Draft.step (d : Draft) : Statement → Option Draft
  | .header path => d.enter path openTable
  | .arrayHeader path => d.enter path openNext
  | .value path key v =>
    (alter false (assign path key v) d.current d.root).map fun root => { d with root := root }

def ofStatements? (ss : List Statement) : Option Toml :=
  (ss.foldlM Draft.step {}).map (·.root)

/-- The fields of an inline table, given under keys that may be dotted. -/
def ofPairs? (pairs : List (List String × String × Toml)) : Option Toml :=
  match pairs.foldlM (fun t (path, key, v) => assign path key v t) emptyTable with
  | some (table _ _ fields) => some (inline fields)
  | _ => none

end Toolpath.Toml
