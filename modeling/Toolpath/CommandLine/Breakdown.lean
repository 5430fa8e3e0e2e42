/-!
# Breakdowns

How a command reports that it failed: what it was doing, and the causes from the outermost to the
innermost. A single cause stands alone; several are numbered from zero.
-/

namespace Toolpath

structure Breakdown where
  doing : String
  causes : List String
  deriving DecidableEq

namespace Breakdown

/-- Moves every line but the first to the right. -/
def hang (width : Nat) (text : String) : String :=
  String.ofList (text.toList.flatMap fun c =>
    if c = '\n' then '\n' :: List.replicate width ' ' else [c])

def label (n : Nat) : String :=
  let digits := toString n
  String.ofList (List.replicate (5 - digits.length) ' ') ++ digits ++ ": "

/-- Causes with their numbers, the first of them having the given number. -/
def numbered (n : Nat) : List String → String
  | [] => ""
  | c :: cs => "\n" ++ label n ++ hang 7 c ++ numbered (n + 1) cs

def causeText : List String → String
  | [cause] => "\n    " ++ hang 4 cause
  | causes => numbered 0 causes

def report (b : Breakdown) : String :=
  "Error: " ++ b.doing ++ "\n\nCaused by:" ++ causeText b.causes ++ "\n"

end Breakdown

end Toolpath
