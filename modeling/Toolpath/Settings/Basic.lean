import Toolpath.Job.Feed
import Toolpath.Text.Blank

/-!
# Settings

What a job adds to the outline: the feed to use when the operator entered none, the way back to the
start, the line that restores the operator's feed setting, and the end of the program.
-/

namespace Toolpath

structure Settings where
  defaultFeed : Binary64
  feedUnit : FeedUnit
  returnToStart : Bool
  /-- The controller parameter that receives the feed setting. -/
  restoreParameter : UInt32
  /-- The call that follows; without it nothing is restored. -/
  restoreCall : Option String
  endProgram : Bool
  deriving DecidableEq

inductive SettingsError where
  | load (detail : String)
  | save (detail : String)
  | invalid (key reason : String)
  | directory (detail : String)
  | json
  | toml
  | unsupportedFormat (extension : String)
  | unsupportedPlatform (name : String)
  deriving DecidableEq

namespace SettingsError

/-- The causes, from the outermost to the innermost. Each one's text already holds the next. -/
def causes : SettingsError → List String
  | load detail => ["Failed to load settings: " ++ detail]
  | save detail => ["Failed to save settings: " ++ detail]
  | invalid key reason => ["Invalid setting '" ++ key ++ "': " ++ reason]
  | directory detail => ["Config directory error: " ++ detail]
  | json => ["JSON error: not a settings document", "not a settings document"]
  | toml => ["TOML error: not a settings document", "not a settings document"]
  | unsupportedFormat extension =>
    ["Config error: Unsupported config format: " ++ extension,
      "Unsupported config format: " ++ extension]
  | unsupportedPlatform name =>
    ["Config error: Unsupported platform: " ++ name, "Unsupported platform: " ++ name]

def message (e : SettingsError) : String := e.causes.headD ""

end SettingsError

namespace Settings

def default : Settings where
  defaultFeed := 2000
  feedUnit := .inchesPerMinute
  returnToStart := true
  restoreParameter := 1000
  restoreCall := some "M221"
  endProgram := true

instance : Inhabited Settings := ⟨default⟩

/-- A feed that can be used is finite and greater than zero. -/
def isUsableFeed (v : Binary64) : Bool := v.isFinite && Binary64.lt 0 v

def isBlankText (s : String) : Bool := s.toList.all isBlank

/-- The feed is looked at first. -/
def validate (s : Settings) : Except SettingsError Unit :=
  if !isUsableFeed s.defaultFeed then .error (.invalid "frame.default_feed_rate" "must be > 0")
  else if s.restoreCall.any isBlankText then
    .error (.invalid "frame.restore_feed_macro" "must not be blank")
  else .ok ()

end Settings

end Toolpath
