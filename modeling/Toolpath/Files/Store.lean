import Toolpath.Files.Path

/-!
# A store of files

A store says what stands at every place: a file with its bytes, a directory, or nothing. A place is
the list of names from the root. Paths are resolved one piece at a time, and each piece needs a
directory to be looked up in, so the operations fail in the ways and in the order in which a system
reports it.
-/

namespace Toolpath

inductive Node where
  | file (bytes : List UInt8)
  | directory
  deriving DecidableEq

inductive FileError where
  | notFound
  | alreadyExists
  | notDirectory
  | isDirectory
  | nameTooLong
  | nulInPath
  | notText
  deriving DecidableEq

def FileError.message : FileError → String
  | notFound => "No such file or directory (os error 2)"
  | alreadyExists => "File exists (os error 17)"
  | notDirectory => "Not a directory (os error 20)"
  | isDirectory => "Is a directory (os error 21)"
  | nameTooLong => "File name too long (os error 36)"
  | nulInPath => "file name contained an unexpected NUL byte"
  | notText => "stream did not contain valid UTF-8"

structure Files where
  node : List String → Option Node
  workingDirectory : List String

namespace Files

/-- A store with nothing but the working directory and the directories around it. -/
def bare (workingDirectory : List String) : Files where
  node place := if place.isPrefixOf workingDirectory then some .directory else none
  workingDirectory := workingDirectory

def put (fs : Files) (place : List String) (n : Node) : Files :=
  { fs with node := fun q => if q = place then some n else fs.node q }

/-- Follows pieces from a place on. What stands at the end is not looked at. -/
def walk (fs : Files) (place : List String) : List String → Except FileError (List String)
  | [] => .ok place
  | p :: ps =>
    match fs.node place with
    | none => .error .notFound
    | some (.file _) => .error .notDirectory
    | some .directory =>
      if FilePath.isVoid p then fs.walk place ps
      else if p = ".." then fs.walk place.dropLast ps
      else if 255 < p.utf8ByteSize then .error .nameTooLong
      else fs.walk (place ++ [p]) ps

/-- The places that following pieces from a place on may look at. -/
def trail (place : List String) : List String → List (List String)
  | [] => [place]
  | p :: ps =>
    place ::
      if FilePath.isVoid p then trail place ps
      else if p = ".." then trail place.dropLast ps
      else trail (place ++ [p]) ps

/-- Where pieces start from: the root or the working directory. -/
def origin (fs : Files) (pieces : List String) : List String :=
  if pieces.head? = some "" then [] else fs.workingDirectory

/-- What is wrong with a path before anything is looked up. -/
def pathFault? (path : String) : Option FileError :=
  if path.toList.contains '\x00' then some .nulInPath
  else if path.isEmpty then some .notFound
  else if 4095 < path.utf8ByteSize then some .nameTooLong
  else none

def resolve (fs : Files) (path : String) : Except FileError (List String) :=
  match pathFault? path with
  | some e => .error e
  | none => fs.walk (fs.origin (FilePath.pieces path)) (FilePath.pieces path)

def lookup? (fs : Files) (path : String) : Option Node :=
  match fs.resolve path with
  | .ok place => fs.node place
  | .error _ => none

def isFile (fs : Files) (path : String) : Bool :=
  match fs.lookup? path with
  | some (.file _) => true
  | _ => false

def isDirectory (fs : Files) (path : String) : Bool := fs.lookup? path = some .directory

def textOf? (bytes : List UInt8) : Option String := String.fromUTF8? ⟨bytes.toArray⟩

def read (fs : Files) (path : String) : Except FileError String := do
  match fs.node (← fs.resolve path) with
  | none => .error .notFound
  | some .directory => .error .isDirectory
  | some (.file bytes) =>
    match textOf? bytes with
    | some text => .ok text
    | none => .error .notText

/-- The pieces without empty ones at the end, and whether there were any. -/
def splitTrailing (pieces : List String) : List String × Bool :=
  let kept := (pieces.reverse.dropWhile (· = "")).reverse
  (kept, kept.length < pieces.length)

/-- The place where a file can be created or overwritten. A slash at the end asks for a
directory. -/
def target (fs : Files) (path : String) : Except FileError (List String) :=
  match pathFault? path with
  | some e => .error e
  | none => do
    let pieces := FilePath.pieces path
    let (kept, trailing) := splitTrailing pieces
    let place ← fs.walk (fs.origin pieces)
      (if trailing then kept.dropLast ++ [""] else pieces)
    if trailing || fs.node place = some .directory then .error .isDirectory else .ok place

/-- Puts a file in place of what a path leads to, unless that is a directory. -/
def write (fs : Files) (path : String) (bytes : List UInt8) : Except FileError Files := do
  let place ← fs.target path
  .ok (fs.put place (.file bytes))

def createDirectory (fs : Files) (path : String) : Except FileError Files :=
  match pathFault? path with
  | some e => .error e
  | none => do
    let pieces := FilePath.pieces path
    let place ← fs.walk (fs.origin pieces) (splitTrailing pieces).1
    match fs.node place with
    | some _ => .error .alreadyExists
    | none => .ok (fs.put place .directory)

/-- Makes a directory and those that are missing above it, at most the given number of them. -/
def createUpTo (fs : Files) : Nat → String → Except FileError Files
  | 0, _ => .ok fs
  | n + 1, path =>
    let settle (fs : Files) : Except FileError Files → Except FileError Files
      | .ok made => .ok made
      | .error e => if fs.isDirectory path then .ok fs else .error e
    match fs.createDirectory path with
    | .error .notFound => do
      let above ← match FilePath.parent? path with
        | some parent => fs.createUpTo n parent
        | none => .ok fs
      settle above (above.createDirectory path)
    | result => settle fs result

/-- Makes a directory with all directories above it. -/
def createDirectories (fs : Files) (path : String) : Except FileError Files :=
  fs.createUpTo (FilePath.pieces path).length path

end Files

end Toolpath
