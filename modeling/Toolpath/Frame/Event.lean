import Toolpath.Frame.Survey

/-!
# Events of a survey

What a survey reports while it runs. The report of a line follows from its number and its outcome
alone, so the events of a program are those of its outcomes in order, between a first one about the
size of the program and a last one about the frame.
-/

namespace Toolpath

/-- How severe an event is, from the most severe down. -/
inductive Level where
  | warn
  | info
  | debug
  | trace
  deriving DecidableEq

namespace Level

def name : Level → String
  | warn => "WARN"
  | info => "INFO"
  | debug => "DEBUG"
  | trace => "TRACE"

def rank : Level → Nat
  | warn => 0
  | info => 1
  | debug => 2
  | trace => 3

/-- An event of this level is shown where events down to another level are. -/
def shownAt (level least : Level) : Bool := level.rank ≤ least.rank

end Level

inductive SurveyEvent where
  | started (bytes : Nat)
  | droppedWords (line count : Nat)
  | moved (line : Nat) (move : Move)
  | arcExtreme (point : Point)
  | skippedArc (line : Nat)
  | noMovement
  | finished (frame : Frame)
  deriving DecidableEq

/-- Numbers of a move's path are written out from a ten-thousandth up to sixteen digits. -/
def Path.layout : Layout where
  positional leading := -4 ≤ leading && leading < 16
  plus := false
  tie := .up

def Path.number (v : Binary64) : String := String.ofList (Path.layout.text v)

def Path.description : Path → String
  | .straight => "Straight"
  | .arc center clockwise =>
    "Arc \x7b center: Point2D \x7b x: " ++ Path.number center.x ++ ", y: " ++
      Path.number center.y ++ " \x7d, clockwise: " ++ (if clockwise then "true" else "false") ++
      " \x7d"

namespace SurveyEvent

def level : SurveyEvent → Level
  | started _ => .debug
  | droppedWords .. => .warn
  | moved .. => .trace
  | arcExtreme _ => .trace
  | skippedArc _ => .warn
  | noMovement => .debug
  | finished _ => .debug

def message : SurveyEvent → String
  | started bytes => "Computing frame, input size: " ++ toString bytes ++ " bytes"
  | droppedWords line count =>
    "Malformed words dropped at line " ++ toString line ++ ": " ++ toString count
  | moved line m =>
    "Line " ++ toString line ++ ": " ++ m.path.description ++ " from " ++ m.start.text ++ " to " ++
      m.finish.text
  | arcExtreme p => "Arc extreme " ++ p.text ++ " inside sweep"
  | skippedArc line => "Arc without I/J offsets skipped at line " ++ toString line
  | noMovement => "Program contains no XY movement"
  | finished f =>
    "Frame complete: lines=" ++ toString f.tally.lines ++ ", moves=" ++ toString f.tally.moves ++
      ", arcs=" ++ toString f.tally.arcs ++ ", skipped_arcs=" ++ toString f.tally.skippedArcs ++
      ", bounds=[" ++ f.bounds.min.text ++ " - " ++ f.bounds.max.text ++ "]"

/-- What a line reports: its dropped words first, then its move or the missing one. -/
def ofOutcome (line : Nat) (o : Outcome) : List SurveyEvent :=
  (if o.dropped = 0 then [] else [.droppedWords line o.dropped]) ++
    match o with
    | .moved m _ => .moved line m :: m.extremes.map .arcExtreme
    | .skippedArc .. => [.skippedArc line]
    | _ => []

/-- What consecutive lines report, the first of them having the given number. -/
def ofOutcomes : Nat → List Outcome → List SurveyEvent
  | _, [] => []
  | line, o :: os => ofOutcome line o ++ ofOutcomes (line + 1) os

end SurveyEvent

def Survey.closing (s : Survey) : List SurveyEvent :=
  (if s.box.isEmpty then [.noMovement] else []) ++ [.finished s.frame]

def surveyEvents (program : String) : List SurveyEvent :=
  .started program.utf8ByteSize ::
    SurveyEvent.ofOutcomes 1 (Modal.outcomes {} (lines program.toList)) ++ (survey program).closing

end Toolpath
