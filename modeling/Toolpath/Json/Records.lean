import Toolpath.Frame.Outline
import Toolpath.Job.Run
import Toolpath.Json.Decode
import Toolpath.Json.Printer

/-!
# Records as JSON documents

How points, modes, moves, boxes, outlines, frames and reports are written as documents, and how they
are read. Fields have the order in which they are written.
-/

namespace Toolpath

namespace Point

def toJson (p : Point) : Json := .record [("x", .ofDouble p.x), ("y", .ofDouble p.y)]

def ofJson? (v : Json) : Option Point := do
  let p ← v.parts? ["x", "y"]
  some ⟨← p.required 0 Json.toBinary64?, ← p.required 1 Json.toBinary64?⟩

end Point

namespace LengthUnit

def ofName? : String → Option LengthUnit
  | "inch" => some .inch
  | "millimetre" => some .millimetre
  | _ => none

def toJson (u : Option LengthUnit) : Json :=
  match u with
  | some u => .ofString u.name
  | none => .null

def ofJson? : Json → Option (Option LengthUnit) := Json.toOption? (Json.toCase? ofName?)

end LengthUnit

namespace Motion

def name : Motion → String
  | rapid => "Rapid"
  | linear => "Linear"
  | arc true => "ArcCw"
  | arc false => "ArcCcw"

def ofName? : String → Option Motion
  | "Rapid" => some rapid
  | "Linear" => some linear
  | "ArcCw" => some (arc true)
  | "ArcCcw" => some (arc false)
  | _ => none

end Motion

namespace Distance

def name : Distance → String
  | absolute => "Absolute"
  | incremental => "Incremental"

def ofName? : String → Option Distance
  | "Absolute" => some absolute
  | "Incremental" => some incremental
  | _ => none

end Distance

namespace Modal

def toJson (s : Modal) : Json :=
  .record [("position", s.position.toJson), ("motion_mode", .ofString s.motion.name),
    ("coord_mode", .ofString s.distance.name), ("unit_mode", LengthUnit.toJson s.unit)]

def ofJson? (v : Json) : Option Modal := do
  let p ← v.parts? ["position", "motion_mode", "coord_mode", "unit_mode"]
  some {
    position := ← p.required 0 Point.ofJson?
    motion := ← p.required 1 (Json.toCase? Motion.ofName?)
    distance := ← p.required 2 (Json.toCase? Distance.ofName?)
    unit := (← p.optional 3 LengthUnit.ofJson?) }

end Modal

namespace Path

def toJson : Path → Json
  | straight => .ofString "Straight"
  | arc center clockwise =>
    .record [("Arc", .record [("center", center.toJson), ("clockwise", .bool clockwise)])]

def ofJson? (v : Json) : Option Path :=
  match v with
  | .object [(some "Arc", contents)] => do
    let p ← contents.parts? ["center", "clockwise"]
    some (.arc (← p.required 0 Point.ofJson?) (← p.required 1 Json.toBool?))
  | v => if v.caseName? = some "Straight" then some .straight else none

end Path

namespace Move

def toJson (m : Move) : Json :=
  .record [("start", m.start.toJson), ("end", m.finish.toJson), ("kind", m.path.toJson)]

def ofJson? (v : Json) : Option Move := do
  let p ← v.parts? ["start", "end", "kind"]
  some ⟨← p.required 0 Point.ofJson?, ← p.required 1 Point.ofJson?, ← p.required 2 Path.ofJson?⟩

end Move

namespace Box

def toJson (b : Box) : Json := .record [("min", b.min.toJson), ("max", b.max.toJson)]

def ofJson? (v : Json) : Option Box := do
  let p ← v.parts? ["min", "max"]
  some ⟨← p.required 0 Point.ofJson?, ← p.required 1 Point.ofJson?⟩

end Box

namespace Outline

def toJson (o : Outline) : Json :=
  .record [("unit_mode", LengthUnit.toJson o.unit),
    ("commands", .array (o.commands.map .ofString))]

def ofJson? (v : Json) : Option Outline := do
  let p ← v.parts? ["unit_mode", "commands"]
  some ⟨← p.optional 0 LengthUnit.ofJson?, ← p.required 1 (Json.toList? Json.toText?)⟩

end Outline

namespace Tally

def toJson (t : Tally) : Json :=
  .record [("lines", .ofNat t.lines), ("moves", .ofNat t.moves), ("arcs", .ofNat t.arcs),
    ("skipped_arcs", .ofNat t.skippedArcs), ("dropped_words", .ofNat t.droppedWords)]

/-- Counts have 64 binary digits. -/
def ofJson? (v : Json) : Option Tally := do
  let p ← v.parts? ["lines", "moves", "arcs", "skipped_arcs", "dropped_words"]
  let count (i : Nat) := p.required i (Json.toNatUpTo? 18446744073709551615)
  some ⟨← count 0, ← count 1, ← count 2, ← count 3, ← count 4⟩

end Tally

namespace Frame

def toJson (f : Frame) : Json :=
  .record [("bounds", f.bounds.toJson), ("unit_mode", LengthUnit.toJson f.unit),
    ("stats", f.tally.toJson)]

def ofJson? (v : Json) : Option Frame := do
  let p ← v.parts? ["bounds", "unit_mode", "stats"]
  some ⟨← p.required 0 Box.ofJson?, ← p.optional 1 LengthUnit.ofJson?,
    ← p.required 2 Tally.ofJson?⟩

end Frame

def Report.jsonFields (r : Report) : List (String × Json) :=
  [("frame", r.frame.toJson), ("start", r.start.toJson), ("feed_rate", .ofDouble r.feed),
    ("commands", .array (r.commands.map .ofString))]

end Toolpath
