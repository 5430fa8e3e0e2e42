import Toolpath.CommandLine.Run

/-!
# The command

Looks up the files that a command may need, runs it on them, and carries out what it leaves behind:
the output file, the output and the messages.
-/

namespace Toolpath.Command

def pathTo (place : List String) : String := "/" ++ "/".intercalate place

def nodeAt (place : List String) : IO (Option Node) := do
  let path := (← IO.currentDir) / pathTo place
  if ← path.isDir then return some .directory
  if ← path.pathExists then return some (.file (← IO.FS.readBinFile path).data.toList)
  return none

def filesAlong (paths : List String) : IO Files := do
  let here := (FilePath.pieces (← IO.currentDir).toString).filter (!FilePath.isVoid ·)
  let bare := Files.bare here
  let places := paths.flatMap fun path =>
    Files.trail (bare.origin (FilePath.pieces path)) (FilePath.pieces path)
  let nodes ← places.mapM fun place => do return (place, ← nodeAt place)
  return { bare with node := fun place => (nodes.lookup place).join }

def putOutput (before after : Files) (path : String) : IO Unit := do
  match after.lookup? path with
  | some (.file bytes) =>
    if before.lookup? path ≠ some (.file bytes) then
      IO.FS.writeBinFile path ⟨bytes.toArray⟩
  | _ => return

def carryOut (r : Request) : IO UInt32 := do
  let configDirectory :=
    Settings.configDirectory? (← IO.getEnv "XDG_CONFIG_HOME") (← IO.getEnv "HOME")
  let files ← filesAlong (r.paths configDirectory)
  let a := r.run files configDirectory
  r.outputPath.forM (putOutput files a.files)
  (← IO.getStderr).putStr (a.complaint r.jsonEvents)
  (← IO.getStdout).write ⟨a.output.toArray⟩
  return a.status.toUInt32

end Toolpath.Command

open Toolpath in
def main (arguments : List String) : IO UInt32 := do
  match Request.ofArguments arguments with
  | .ok r => Command.carryOut r
  | .error h =>
    (← IO.getStdout).putStr h.output
    (← IO.getStderr).putStr h.complaint
    return h.status.toUInt32
