/-!
# How a job fails

Reading and surveying a program never fail. Whatever goes wrong comes from the sides of a job: the
program that is asked for, the machine, the operator's feed, or the sink of the commands.
-/

namespace Toolpath

/-- A failure that a job knows by its cause. -/
inductive Fault where
  | programNotFound (location : String)
  | positionUnavailable (reason : String)
  | invalidFeedRate (text : String)
  | execution (reason : String)
  deriving DecidableEq

def Fault.message : Fault → String
  | programNotFound location => "Program not found: " ++ location
  | positionUnavailable reason => "Machine position unavailable: " ++ reason
  | invalidFeedRate text => "Invalid feed rate '" ++ text ++ "'"
  | execution reason => "Execution failed: " ++ reason

inductive Failure where
  | fault (fault : Fault)
  | io (reason : String)
  | other (text : String)
  deriving DecidableEq

namespace Failure

/-- The causes, from the outermost to the innermost. Each one's text already holds the next. -/
def causes : Failure → List String
  | fault f => [f.message]
  | io reason => ["I/O error: " ++ reason, reason]
  | other text => [text]

def message (f : Failure) : String := f.causes.headD ""

def isProgramNotFound : Failure → Bool
  | fault (.programNotFound _) => true
  | _ => false

/-- A known cause stays as it is, and any other failure becomes the cause made of its message. -/
def wrap (cause : String → Fault) : Failure → Failure
  | fault f => fault f
  | f => fault (cause f.message)

end Failure

end Toolpath
