import Toolpath.Frame.Event
import Toolpath.Job.Compose
import Toolpath.Job.Sink

/-!
# Running a job

A job reads its program, asks the machine for its position, surveys the program, composes the
commands and hands them to a sink. It stops at the first of these that fails, so the sink sees all
commands or none.
-/

namespace Toolpath

structure Report where
  frame : Frame
  start : Point
  /-- In units of the program, per minute. -/
  feed : Binary64
  commands : List String
  deriving DecidableEq

/-- What a job reports. The files that a program and settings are read from report apart from it. -/
inductive JobEvent where
  | survey (event : SurveyEvent)
  | noMovement
  | converted (entered : Binary64) (unit : FeedUnit) (feed : Binary64)
  | framed (report : Report)
  deriving DecidableEq

/-- Numbers that were entered are written out in full. -/
def Entered.layout : Layout where
  positional _ := true
  plus := false
  tie := .up

/-- A whole number is written without its point. -/
def Entered.number (v : Binary64) : String :=
  match Entered.layout.written? v with
  | some w => String.ofList { w with fraction := w.fraction.filter (· ≠ ['0']) }.text
  | none => String.ofList (wordText v)

namespace JobEvent

def level : JobEvent → Level
  | survey e => e.level
  | noMovement => .warn
  | converted .. => .debug
  | framed _ => .info

def message : JobEvent → String
  | survey e => e.message
  | noMovement => "Program has no XY movement, outline collapses to a point"
  | converted entered unit feed =>
    "Feed " ++ Entered.number entered ++ " " ++ unit.symbol ++ " becomes " ++ fixed 1 feed ++
      " for program units"
  | framed r =>
    "Framed program: " ++ coord r.frame.bounds.width ++ " x " ++ coord r.frame.bounds.height ++
      " at F" ++ fixed 1 r.feed ++ ", " ++ toString r.commands.length ++ " commands sent"

/-- What composing reports: how the feed was converted, unless it was refused. -/
def ofFeed (s : Settings) (frame : Frame) (feedText : String) : List JobEvent :=
  match enteredFeed s (trimmed feedText) with
  | .error _ => []
  | .ok entered => [.converted entered s.feedUnit (s.feedUnit.convert entered frame.unit)]

end JobEvent

/-- What a job starts from. What another side could not give is the failure it gave instead. -/
structure Job where
  settings : Settings := .default
  program : Except Failure String
  position : Except Failure Point
  /-- The feed setting as the operator entered it. -/
  feedText : String

namespace Job

def prepare (j : Job) : List JobEvent × Except Failure Report :=
  match j.program with
  | .error f => ([], .error f)
  | .ok program =>
    match j.position with
    | .error f => ([], .error (f.wrap .positionUnavailable))
    | .ok start =>
      let frame := Frame.ofProgram program
      let events := (surveyEvents program).map .survey ++
        (if frame.isDegenerate then [.noMovement] else []) ++
        JobEvent.ofFeed j.settings frame j.feedText
      match compose j.settings frame start j.feedText with
      | .error e => (events, .error (.fault e))
      | .ok (feed, commands) => (events, .ok ⟨frame, start, feed, commands⟩)

/-- What a run leaves behind: the sink, the events in order, and the report or the failure. -/
structure Run (σ : Type) where
  sink : σ
  events : List JobEvent
  result : Except Failure Report

def run {σ : Type} (j : Job) (sink : Sink σ) (state : σ) : Run σ :=
  match j.prepare with
  | (events, .error f) => ⟨state, events, .error f⟩
  | (events, .ok report) =>
    match sink.execute report.commands state with
    | (state, .error f) => ⟨state, events, .error (f.wrap .execution)⟩
    | (state, .ok ()) => ⟨state, events ++ [.framed report], .ok report⟩

end Job

end Toolpath
