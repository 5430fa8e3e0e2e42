/-!
# Lines

A line ends at a line feed, or at a carriage return with a line feed. What follows the last line end
is a line of its own unless it is empty; a carriage return anywhere else belongs to its line.
-/

namespace Toolpath

def lines : List Char → List (List Char)
  | [] => []
  | '\n' :: cs => [] :: lines cs
  | '\r' :: '\n' :: cs => [] :: lines cs
  | c :: cs =>
    match lines cs with
    | [] => [[c]]
    | l :: ls => (c :: l) :: ls

/-- Texts with a line feed after each. -/
def unlines (texts : List String) : String := String.join (texts.map (· ++ "\n"))

end Toolpath
