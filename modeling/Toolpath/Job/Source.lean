import Toolpath.Files.Store
import Toolpath.Job.Run

/-!
# What a job starts from

The program comes from a file or is held in memory, and the position is a fixed one, each of which
may be missing.
-/

namespace Toolpath.Job

/-- The program in a file. What is not a file is not looked into. -/
def programFile (fs : Files) (path : String) : Except Failure String :=
  if fs.isFile path then
    match fs.read path with
    | .ok text => .ok text
    | .error e => .error (.io e.message)
  else .error (.fault (.programNotFound path))

def programHeld : Option String → Except Failure String
  | some text => .ok text
  | none => .error (.fault (.programNotFound "<memory>"))

def fixedPosition : Option Point → Except Failure Point
  | some p => .ok p
  | none => .error (.fault (.positionUnavailable "no position reported"))

end Toolpath.Job
