import Toolpath.Number.Decimal
import Toolpath.Program.Modal

/-!
# Feed rates

The operator enters a feed in one of four units. A program counts it per minute, in the unit of
length that it selected; without such a unit the number stands as it was entered.
-/

namespace Toolpath

inductive FeedUnit where
  | millimetresPerMinute
  | millimetresPerSecond
  | inchesPerMinute
  | inchesPerSecond
  deriving DecidableEq

/-- The double nearest to 25.4. -/
def millimetresPerInch : Binary64 := (Decimal.mk false 254 (-1)).toBinary64

namespace FeedUnit

/-- The name in settings. -/
def name : FeedUnit → String
  | millimetresPerMinute => "mm_per_min"
  | millimetresPerSecond => "mm_per_sec"
  | inchesPerMinute => "in_per_min"
  | inchesPerSecond => "in_per_sec"

def all : List FeedUnit :=
  [millimetresPerMinute, millimetresPerSecond, inchesPerMinute, inchesPerSecond]

def ofName? (name : String) : Option FeedUnit := all.find? (·.name = name)

/-- The symbol shown to people. -/
def symbol : FeedUnit → String
  | millimetresPerMinute => "mm/min"
  | millimetresPerSecond => "mm/sec"
  | inchesPerMinute => "in/min"
  | inchesPerSecond => "in/sec"

/-- A feed in millimetres per minute, rounded after every factor. -/
def toMillimetresPerMinute (u : FeedUnit) (v : Binary64) : Binary64 :=
  match u with
  | millimetresPerMinute => v
  | millimetresPerSecond => v * 60
  | inchesPerMinute => v * millimetresPerInch
  | inchesPerSecond => v * millimetresPerInch * 60

def convert (u : FeedUnit) (v : Binary64) : Option LengthUnit → Binary64
  | none => v
  | some .millimetre => u.toMillimetresPerMinute v
  | some .inch => u.toMillimetresPerMinute v / millimetresPerInch

end FeedUnit

end Toolpath
