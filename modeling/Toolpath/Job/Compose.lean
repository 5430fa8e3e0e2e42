import Toolpath.Frame.Outline
import Toolpath.Job.Failure
import Toolpath.Number.Reading
import Toolpath.Settings.Basic

/-!
# Composing the commands of a job

The commands are the outline with the feed on every feed move, and a closing part: the rapid back to
the start, the line that restores the operator's feed setting, and the end of the program, each one
only if the settings ask for it.
-/

namespace Toolpath

def trimmed (s : String) : String := String.ofList (trim s.toList)

/-- The feed that was entered, or the default one when nothing was. -/
def enteredFeed (s : Settings) (text : String) : Except Fault Binary64 :=
  if text.isEmpty then .ok s.defaultFeed
  else match (Binary64.ofString? text).filter Settings.isUsableFeed with
    | some v => .ok v
    | none => .error (.invalidFeedRate text)

/-- Puts the feed into a feed move; other commands stay as they are. -/
def annotate (feed : Binary64) (command : String) : String :=
  match command.toList with
  | 'G' :: '1' :: ' ' :: target => "G1 F" ++ fixed 1 feed ++ " " ++ String.ofList target
  | _ => command

def closing (s : Settings) (start : Point) (text : String) : List String :=
  (if s.returnToStart then ["G0 " ++ targetWords start] else []) ++
    (match s.restoreCall with
      | some call =>
        if text.isEmpty then []
        else ["#" ++ toString s.restoreParameter ++ "=" ++ text ++ " " ++ call]
      | none => []) ++
    if s.endProgram then ["M30"] else []

def compose (s : Settings) (frame : Frame) (start : Point) (feedText : String) :
    Except Fault (Binary64 × List String) :=
  let text := trimmed feedText
  match enteredFeed s text with
  | .error e => .error e
  | .ok entered =>
    let feed := s.feedUnit.convert entered frame.unit
    .ok (feed, frame.outline.commands.map (annotate feed) ++ closing s start text)

end Toolpath
