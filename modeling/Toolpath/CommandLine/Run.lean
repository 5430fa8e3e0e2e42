import Toolpath.CommandLine.Arguments
import Toolpath.CommandLine.Breakdown
import Toolpath.Job.Source
import Toolpath.Json.Records
import Toolpath.Settings.Store

/-!
# Running a command

A command loads its settings, opens the output if that is a file, and runs the job. The output file
is made or emptied before the program is read, and it stays empty if the job fails.
-/

namespace Toolpath

def version : String := "0.3.0"

namespace Halt

def status : Halt → Nat
  | misuse _ => 2
  | _ => 0

/-- What is printed instead of a run. The layout of the help belongs to the reader of the arguments and
the day of the build to the builder; neither text is kept here. -/
def output : Halt → String
  | version => "framekit " ++ Toolpath.version ++ "\n"
  | _ => ""

def complaint : Halt → String
  | misuse e => e.message ++ "\n"
  | _ => ""

end Halt

/-- What a command leaves behind. -/
structure Aftermath where
  files : Files
  /-- What is printed. -/
  output : List UInt8
  events : List JobEvent
  breakdown : Option Breakdown

/-- The status of the process is that of success only without a breakdown. -/
def Aftermath.status (a : Aftermath) : Nat := if a.breakdown.isSome then 1 else 0

namespace JobEvent

/-- The part of the program that an event comes from. -/
def target : JobEvent → String
  | survey _ => "framekit_gcode::gcode::frame"
  | _ => "framekit::job"

def isShown (e : JobEvent) : Bool := e.level.shownAt .warn

def toJson (e : JobEvent) : Json :=
  .record [("level", .ofString e.level.name),
    ("fields", .record [("message", .ofString e.message)]), ("target", .ofString e.target)]

def line (asJson : Bool) (e : JobEvent) : String :=
  if asJson then Json.render Json.compact e.toJson
  else e.level.name ++ " " ++ e.target ++ ": " ++ e.message

end JobEvent

/-- What is complained about: the warnings, and the breakdown at the end. -/
def Aftermath.complaint (a : Aftermath) (asJson : Bool) : String :=
  unlines ((a.events.filter (·.isShown)).map (·.line asJson)) ++
    match a.breakdown with
    | some b => b.report
    | none => ""

def Report.toJson (r : Report) : Json :=
  .record ([("version", .ofString version), ("unit_mode", .ofString (unitLabel r.frame.unit))] ++
    r.jsonFields)

def Report.jsonText (r : Report) : String := Json.render Json.pretty r.toJson ++ "\n"

/-- Runs a job. Yields what it reported and the bytes of its output. -/
def ReportForm.perform (form : ReportForm) (j : Job) :
    List JobEvent × Except Failure (List UInt8) :=
  match form with
  | text =>
    let run := j.run .writing {}
    (run.events, run.result.map fun _ => run.sink.written)
  | json =>
    let run := j.run .recording []
    (run.events, run.result.map fun report => bytesOf report.jsonText)

/-- Where the output of a command goes. -/
inductive Destination where
  | printed
  | file (place : List String)
  deriving DecidableEq

/-- Makes or empties the file at a path. -/
def Destination.create (fs : Files) (path : String) : Except FileError (Files × Destination) :=
  match fs.target path with
  | .error e => .error e
  | .ok place => .ok (fs.put place (.file []), .file place)

namespace Request

def paths (r : Request) (configDirectory : Option String) : List String :=
  [r.program] ++ r.outputPath.toList ++
    match r.settingsPath with
    | some path => [path]
    | none => (configDirectory.map Settings.userPath).toList

def openOutput (r : Request) (fs : Files) : Except Breakdown (Files × Destination) :=
  match r.outputPath with
  | none => .ok (fs, .printed)
  | some path =>
    match Destination.create fs path with
    | .error e => .error ⟨"creating " ++ path, [e.message]⟩
    | .ok opened => .ok opened

def settings (r : Request) (fs : Files) (configDirectory : Option String) :
    Except Breakdown Settings :=
  match Settings.loadOrDefault fs configDirectory r.settingsPath with
  | .error e => .error ⟨"loading configuration", e.causes⟩
  | .ok s => .ok s

def job (r : Request) (fs : Files) (s : Settings) : Job where
  settings := s
  program := Job.programFile fs r.program
  position := .ok r.position
  feedText := r.feedText

def run (r : Request) (fs : Files) (configDirectory : Option String) : Aftermath :=
  match r.settings fs configDirectory with
  | .error b => ⟨fs, [], [], some b⟩
  | .ok s =>
    match r.openOutput fs with
    | .error b => ⟨fs, [], [], some b⟩
    | .ok (opened, destination) =>
      match r.form.perform (r.job opened s), destination with
      | (events, .error f), _ =>
        ⟨opened, [], events, some ⟨"framing " ++ r.program, f.causes⟩⟩
      | (events, .ok bytes), .printed => ⟨opened, bytes, events, none⟩
      | (events, .ok bytes), .file place =>
        ⟨opened.put place (.file bytes), [], events, none⟩

end Request

end Toolpath
