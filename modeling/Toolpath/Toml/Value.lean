import Toolpath.Number.Binary64

/-!
# TOML documents

A table made by a header or by dotted keys can still grow while a document is read; whether it was
only implied so far, and whether dotted keys made it, decides how. An inline table is complete where
it stands. A date or a time is told apart from other values but not looked into.
-/

namespace Toolpath

inductive Toml where
  | string (text : String)
  | integer (value : Int)
  | float (value : Binary64)
  | bool (value : Bool)
  | moment
  | array (items : List Toml)
  | inline (fields : List (String × Toml))
  | table (implied dotted : Bool) (fields : List (String × Toml))
  /-- The tables of one array of tables, in order. -/
  | tables (items : List Toml)

namespace Toml

instance : Inhabited Toml := ⟨moment⟩

def emptyTable : Toml := table false false []

end Toml

end Toolpath
