import Toolpath.Job.Failure
import Toolpath.Text.Lines

/-!
# Sinks

A sink takes the commands of a job all at once and may fail. It is a function on a state of its own:
the batches it has received, or the bytes that a writer has accepted.
-/

namespace Toolpath

structure Sink (σ : Type) where
  execute : List String → σ → σ × Except Failure Unit

namespace Sink

def recording : Sink (List (List String)) where
  execute commands batches := (batches ++ [commands], .ok ())

def failing (f : Failure) : Sink Unit where
  execute _ _ := ((), .error f)

end Sink

/-- A writer accepts bytes while it has room. -/
structure Writer where
  written : List UInt8 := []
  /-- The bytes it still accepts, if there is a limit. -/
  room : Option Nat := none
  flushFails : Bool := false
  /-- What it reports without room. -/
  full : String := "disk full"
  /-- What it reports when flushing fails. -/
  unflushed : String := "flush failed"

def bytesOf (s : String) : List UInt8 := s.toUTF8.data.toList

namespace Writer

/-- Accepts what there is room for and fails if that is not all. -/
def write (w : Writer) (bytes : List UInt8) : Writer × Except Failure Unit :=
  match w.room with
  | none => ({ w with written := w.written ++ bytes }, .ok ())
  | some n =>
    ({ w with written := w.written ++ bytes.take n, room := some (n - bytes.length) },
      if bytes.length ≤ n then .ok () else .error (.io w.full))

def flush (w : Writer) : Except Failure Unit :=
  if w.flushFails then .error (.io w.unflushed) else .ok ()

/-- Writes each command and a line feed after it, up to the first failure, and flushes then. -/
def writeLines (w : Writer) : List String → Writer × Except Failure Unit
  | [] => (w, w.flush)
  | c :: cs =>
    match w.write (bytesOf (c ++ "\n")) with
    | (w, .ok ()) => w.writeLines cs
    | failed => failed

end Writer

def Sink.writing : Sink Writer where
  execute commands w := w.writeLines commands

end Toolpath
