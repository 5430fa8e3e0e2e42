import Toolpath.Settings.Decode
import Toolpath.Toml.Decode
import Toolpath.Toml.Printer
import Toolpath.Toml.Reader

/-!
# Settings as TOML documents
-/

namespace Toolpath.Settings

def tomlReaders : Readers Toml where
  number := Toml.toBinary64?
  flag := Toml.toBool?
  parameter v := (Toml.toNatUpTo? 4294967295 v).map UInt32.ofNat
  feedUnit := Toml.toCase? FeedUnit.ofName?
  call v := (Toml.toText? v).map some
  parts? := Toml.parts?

def ofTomlText? (text : String) : Option Settings :=
  (Toml.read? text).bind (ofDocument? tomlReaders)

def boolText (b : Bool) : List Char :=
  if b then ['t', 'r', 'u', 'e'] else ['f', 'a', 'l', 's', 'e']

/-- One table with a line for each field; a call that is not there has no line. -/
def toTomlText (s : Settings) : String :=
  "[frame]\n" ++
    Toml.line "default_feed_rate" (Toml.doubleText s.defaultFeed) ++
    Toml.line "feed_units" (Toml.quote s.feedUnit.name.toList) ++
    Toml.line "return_to_start" (boolText s.returnToStart) ++
    Toml.line "restore_feed_parameter" (digitsOfNat s.restoreParameter.toNat) ++
    (match s.restoreCall with
      | some call => Toml.line "restore_feed_macro" (Toml.quote call.toList)
      | none => "") ++
    Toml.line "end_program" (boolText s.endProgram)

end Toolpath.Settings
