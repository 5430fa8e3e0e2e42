import Toolpath.Files.Store
import Toolpath.Job.Sink
import Toolpath.Settings.Json
import Toolpath.Settings.Toml

/-!
# Settings files

Settings are kept in a file whose extension tells the format. The user's own file stands in the
configuration directory and is used where no other one is asked for.
-/

namespace Toolpath.Settings

inductive Format where
  | json
  | toml
  deriving DecidableEq

def Format.ofPath (path : String) : Except SettingsError Format :=
  match FilePath.extension? path with
  | some "json" => .ok .json
  | some "toml" => .ok .toml
  | some extension => .error (.unsupportedFormat extension)
  | none => .error (.unsupportedFormat "<none>")

namespace Format

def decode : Format → String → Except SettingsError Settings
  | json, text => match ofJsonText? text with
    | some s => .ok s
    | none => .error .json
  | toml, text => match ofTomlText? text with
    | some s => .ok s
    | none => .error .toml

def encode : Format → Settings → String
  | json => toJsonText
  | toml => toTomlText

end Format

/-- What a failure says about a path. -/
def about (path : String) (e : FileError) : String := path ++ ": " ++ e.message

/-- The format is looked at before the file is, and the settings last. -/
def load (fs : Files) (path : String) : Except SettingsError Settings := do
  let format ← Format.ofPath path
  match fs.read path with
  | .error e => .error (.load (about path e))
  | .ok text =>
    let s ← format.decode text
    s.validate
    .ok s

/-- The user's configuration directory: the one that is set, if its path is absolute, or else the
one at home. -/
def configDirectory? (chosen home : Option String) : Option String :=
  match chosen.filter (·.toList.head? = some '/') with
  | some directory => some directory
  | none => (home.filter (!·.isEmpty)).map (FilePath.join · ".config")

def userPath (configDirectory : String) : String :=
  FilePath.join (FilePath.join configDirectory "framekit") "config.toml"

/-- The settings at a path, or else the user's own ones if there are any, or else the defaults. -/
def loadOrDefault (fs : Files) (configDirectory : Option String) :
    Option String → Except SettingsError Settings
  | some path => load fs path
  | none =>
    match (configDirectory.map userPath).filter fs.isFile with
    | some path => load fs path
    | none => .ok default

def makeRoom (fs : Files) (path : String) : Except SettingsError Files :=
  match FilePath.parent? path with
  | none => .ok fs
  | some parent =>
    match fs.createDirectories parent with
    | .ok fs => .ok fs
    | .error e => .error (.directory (about parent e))

/-- Settings that are not valid or have no format are not saved; otherwise the directory is made
first, and it stays even if the file cannot be written. -/
def save (fs : Files) (path : String) (s : Settings) : Files × Except SettingsError Unit :=
  match s.validate, Format.ofPath path with
  | .error e, _ => (fs, .error e)
  | .ok (), .error e => (fs, .error e)
  | .ok (), .ok format =>
    match makeRoom fs path with
    | .error e => (fs, .error e)
    | .ok made =>
      match made.write path (bytesOf (format.encode s)) with
      | .ok written => (written, .ok ())
      | .error e => (made, .error (.save (about path e)))

end Toolpath.Settings
