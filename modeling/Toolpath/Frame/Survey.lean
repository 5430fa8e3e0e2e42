import Toolpath.Geometry.Box
import Toolpath.Program.Modal
import Toolpath.Text.Lines

/-!
# Surveys and frames

A survey reads a program line by line, grows a box around every move and counts what it meets. Its
frame is the final box with the last unit that the program selected and the counts. No line makes a
survey fail: a line that cannot be understood adds nothing to the box.
-/

namespace Toolpath

structure Tally where
  lines : Nat := 0
  moves : Nat := 0
  /-- The arcs among the moves. -/
  arcs : Nat := 0
  skippedArcs : Nat := 0
  droppedWords : Nat := 0
  deriving DecidableEq

namespace Outcome

def isMove : Outcome → Bool
  | moved .. => true
  | _ => false

def isArc : Outcome → Bool
  | moved m _ => m.isArc
  | _ => false

def isSkippedArc : Outcome → Bool
  | skippedArc .. => true
  | _ => false

end Outcome

def Tally.count (t : Tally) (o : Outcome) : Tally where
  lines := t.lines + 1
  moves := t.moves + o.isMove.toNat
  arcs := t.arcs + o.isArc.toNat
  skippedArcs := t.skippedArcs + o.isSkippedArc.toNat
  droppedWords := t.droppedWords + o.dropped

def Box.coverOutcome (b : Box) (o : Outcome) : Box :=
  match o.move? with
  | some m => b.coverMove m
  | none => b

structure Frame where
  /-- The origin alone when nothing moved. -/
  bounds : Box
  /-- The last unit that the program selected. -/
  unit : Option LengthUnit
  tally : Tally
  deriving DecidableEq

/-- Nothing moved. -/
def Frame.isDegenerate (f : Frame) : Bool := f.tally.moves = 0

structure Survey where
  state : Modal := {}
  box : Box := .empty
  tally : Tally := {}
  deriving DecidableEq

namespace Survey

def startingAt (p : Point) : Survey := { state := { position := p } }

def feed (s : Survey) (line : List Char) : Survey where
  state := (s.state.step line).1
  box := s.box.coverOutcome (s.state.step line).2
  tally := s.tally.count (s.state.step line).2

def feedAll (s : Survey) (ls : List (List Char)) : Survey := ls.foldl feed s

def frame (s : Survey) : Frame := ⟨s.box.finalize, s.state.unit, s.tally⟩

end Survey

def survey (program : String) : Survey := Survey.feedAll {} (lines program.toList)

def Frame.ofProgram (program : String) : Frame := (survey program).frame

end Toolpath
