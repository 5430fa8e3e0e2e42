import Toolpath.Geometry.Move
import Toolpath.Program.Block

/-!
# The modal interpreter

A program is read line by line. Every line may change the modes that stay in force until they are
changed again, and a line with a target moves from the current position to it. All G words of a
line act before its target is resolved.
-/

namespace Toolpath

inductive Motion where
  | rapid
  | linear
  | arc (clockwise : Bool)
  deriving DecidableEq

/-- What the coordinates of a target are measured from. -/
inductive Distance where
  | absolute
  | incremental
  deriving DecidableEq

inductive LengthUnit where
  | inch
  | millimetre
  deriving DecidableEq

def LengthUnit.ofCode? : Nat → Option LengthUnit
  | 20 => some .inch
  | 21 => some .millimetre
  | _ => none

def LengthUnit.command : LengthUnit → String
  | .inch => "G20"
  | .millimetre => "G21"

def LengthUnit.name : LengthUnit → String
  | .inch => "inch"
  | .millimetre => "millimetre"

/-- The name of the unit that a program selected, if it selected one. -/
def unitLabel : Option LengthUnit → String
  | none => "none"
  | some u => u.name

/-- What stays in force from one line to the next. -/
structure Modal where
  position : Point := .origin
  motion : Motion := .rapid
  distance : Distance := .absolute
  unit : Option LengthUnit := none
  deriving DecidableEq

/-- What a line did. -/
inductive Outcome where
  | blank
  | noTarget (dropped : Nat)
  | moved (move : Move) (dropped : Nat)
  /-- An arc without both offsets. The position moved on to the target all the same. -/
  | skippedArc (target : Point) (dropped : Nat)
  deriving DecidableEq

namespace Outcome

def dropped : Outcome → Nat
  | blank => 0
  | noTarget n => n
  | moved _ n => n
  | skippedArc _ n => n

def move? : Outcome → Option Move
  | moved m _ => some m
  | _ => none

end Outcome

namespace Modal

/-- The effect of one G code. Codes of other groups have none. -/
def applyCode (s : Modal) : Nat → Modal
  | 0 => { s with motion := .rapid }
  | 1 => { s with motion := .linear }
  | 2 => { s with motion := .arc true }
  | 3 => { s with motion := .arc false }
  | 20 => { s with unit := some .inch }
  | 21 => { s with unit := some .millimetre }
  | 90 => { s with distance := .absolute }
  | 91 => { s with distance := .incremental }
  | _ => s

def applyValue (s : Modal) (v : Binary64) : Modal :=
  match v.code? with
  | some code => s.applyCode code
  | none => s

def applyCodes (s : Modal) (vs : List Binary64) : Modal := vs.foldl applyValue s

/-- Where the target of a block lies. A missing coordinate keeps its axis in place. -/
def target (s : Modal) (b : Block) : Point :=
  match s.distance with
  | .absolute => ⟨b.x.getD s.position.x, b.y.getD s.position.y⟩
  | .incremental => s.position.offset (b.x.getD 0) (b.y.getD 0)

/-- How the motion in force leads to the target. Offsets count from the start of the arc whatever
coordinates are measured from; without both of them there is no arc. -/
def path? (s : Modal) (b : Block) : Option Path :=
  match s.motion with
  | .rapid => some .straight
  | .linear => some .straight
  | .arc clockwise => b.offsets?.map fun (i, j) => .arc (s.position.offset i j) clockwise

def apply (s : Modal) (b : Block) : Modal × Outcome :=
  let s := s.applyCodes b.codes
  if b.hasTarget then
    let target := s.target b
    let outcome := match s.path? b with
      | some path => .moved ⟨s.position, target, path⟩ b.dropped
      | none => .skippedArc target b.dropped
    ({ s with position := target }, outcome)
  else (s, .noTarget b.dropped)

def step (s : Modal) (line : List Char) : Modal × Outcome :=
  match Block.read? line with
  | some b => s.apply b
  | none => (s, .blank)

/-- The state after some lines. -/
def run (s : Modal) (ls : List (List Char)) : Modal := ls.foldl (fun s l => (s.step l).1) s

/-- What each line did, in order. -/
def outcomes (s : Modal) : List (List Char) → List Outcome
  | [] => []
  | l :: ls => (s.step l).2 :: (s.step l).1.outcomes ls

end Modal

end Toolpath
