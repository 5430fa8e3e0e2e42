import Toolpath.Json.Decode
import Toolpath.Json.Printer
import Toolpath.Json.Reader
import Toolpath.Settings.Decode

/-!
# Settings as JSON documents
-/

namespace Toolpath.Settings

def jsonReaders : Readers Json where
  number := Json.toBinary64?
  flag := Json.toBool?
  parameter v := (Json.toNatUpTo? 4294967295 v).map UInt32.ofNat
  feedUnit := Json.toCase? FeedUnit.ofName?
  call := Json.toOption? Json.toText?
  parts? := Json.parts?

def ofJson? (v : Json) : Option Settings := ofDocument? jsonReaders v

def ofJsonText? (text : String) : Option Settings := (Json.read? text).bind ofJson?

def toJson (s : Settings) : Json :=
  .record [("frame", .record [
    ("default_feed_rate", .ofDouble s.defaultFeed),
    ("feed_units", .ofString s.feedUnit.name),
    ("return_to_start", .bool s.returnToStart),
    ("restore_feed_parameter", .ofNat s.restoreParameter.toNat),
    ("restore_feed_macro", match s.restoreCall with
      | some call => .ofString call
      | none => .null),
    ("end_program", .bool s.endProgram)])]

def toJsonText (s : Settings) : String := Json.render Json.pretty s.toJson

end Toolpath.Settings
