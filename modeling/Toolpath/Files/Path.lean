/-!
# Paths

A path is read piece by piece between its slashes. An empty piece in front makes it absolute; empty
pieces and single dots elsewhere stand for nothing, except that a path may begin with a dot.
-/

namespace Toolpath

def splitAround (separator : Char) : List Char → List (List Char)
  | [] => [[]]
  | c :: cs =>
    if c = separator then [] :: splitAround separator cs
    else match splitAround separator cs with
      | [] => [[c]]
      | p :: ps => (c :: p) :: ps

namespace FilePath

def pieces (path : String) : List String :=
  (splitAround '/' path.toList).map String.ofList

/-- A piece that stands for nothing behind another one. -/
def isVoid (piece : String) : Bool := piece = "" || piece = "."

/-- The pieces without void ones at the end; the first piece stays. -/
def trimVoid : List String → List String
  | [] => []
  | first :: rest => first :: (rest.reverse.dropWhile isVoid).reverse

/-- The name at the end of a path, if it ends with one. -/
def fileName? (path : String) : Option String :=
  match (trimVoid (pieces path)).getLast? with
  | some name => if isVoid name || name = ".." then none else some name
  | none => none

/-- What follows the last dot of the name, unless nothing but that stands before it. -/
def extension? (path : String) : Option String := do
  let name ← fileName? path
  let parts := splitAround '.' name.toList
  if 1 < parts.length ∧ parts.dropLast ≠ [[]] then parts.getLast?.map String.ofList else none

/-- The directory part of a path, if there is one. -/
def parent? (path : String) : Option String :=
  match trimVoid (trimVoid (pieces path)).dropLast with
  | [] => none
  | [""] => some "/"
  | ps => some ("/".intercalate ps)

def join (directory name : String) : String :=
  if directory.toList.getLast? = some '/' then directory ++ name else directory ++ "/" ++ name

end FilePath

end Toolpath
