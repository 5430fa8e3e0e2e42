import Toolpath.CommandLine.Position
import Toolpath.Text.Visible

/-!
# Arguments

What a command is asked to do. Arguments are read from left to right: options, which begin with a
dash and of which most take a value, and the program, which is the only argument without one. The
value of an option is attached to it or stands in the next argument; it is looked at when the next
thing after it is. Behind two dashes alone nothing is an option.
-/

namespace Toolpath

inductive ReportForm where
  /-- The commands, one on a line. -/
  | text
  /-- A document with the frame and the commands. -/
  | json
  deriving DecidableEq

def ReportForm.ofName? : String → Option ReportForm
  | "text" => some text
  | "json" => some json
  | _ => none

structure Request where
  program : String
  position : Point
  /-- The feed as the operator entered it. -/
  feedText : String
  settingsPath : Option String
  form : ReportForm
  outputPath : Option String
  /-- Whether events are reported as documents. -/
  jsonEvents : Bool
  deriving DecidableEq

/-- An option with a value. -/
inductive Flag where
  | position
  | feed
  | config
  | format
  | output
  deriving DecidableEq

namespace Flag

def word : Flag → String
  | position => "position"
  | feed => "feed"
  | config => "config"
  | format => "format"
  | output => "output"

def all : List Flag := [position, feed, config, format, output]

def ofWord? (word : String) : Option Flag := all.find? (·.word = word)

/-- How messages name it. -/
def usage (f : Flag) : String :=
  "--" ++ f.word ++ " <" ++ String.ofList (f.word.toList.map Char.toUpper) ++ ">"

end Flag

inductive UsageError where
  | unexpected (argument : String)
  | unexpectedValue (value option : String)
  | missingValue (flag : Flag)
  | repeated (option : String)
  | position (text : String) (error : PositionError)
  | format (text : String)
  | missingProgram
  deriving DecidableEq

def UsageError.message : UsageError → String
  | unexpected argument => "error: unexpected argument '" ++ visible argument ++ "' found"
  | unexpectedValue value option =>
    "error: unexpected value '" ++ visible value ++ "' for '" ++ option ++
      "' found; no more were expected"
  | missingValue flag =>
    "error: a value is required for '" ++ flag.usage ++ "' but none was supplied"
  | repeated option => "error: the argument '" ++ option ++ "' cannot be used multiple times"
  | position text error =>
    "error: invalid value '" ++ visible text ++ "' for '" ++ Flag.usage .position ++ "': " ++
      error.message
  | format text =>
    "error: invalid value '" ++ visible text ++ "' for '" ++ Flag.usage .format ++ "'"
  | missingProgram => "error: the following required arguments were not provided: <PROGRAM>"

/-- Why a command does not run. -/
inductive Halt where
  | help
  | version
  /-- The version and the day of the build. -/
  | datedVersion
  | misuse (error : UsageError)
  deriving DecidableEq

/-- What has been read so far. -/
structure Draft where
  program : Option String := none
  position : Option Point := none
  feedText : Option String := none
  settingsPath : Option String := none
  form : Option ReportForm := none
  outputPath : Option String := none
  jsonEvents : Bool := false
  /-- A flag that waits for its value, or for its value to be looked at. -/
  pending : Option (Flag × Option String) := none
  deriving DecidableEq

/-- What an argument looks like. -/
inductive Argument where
  | divider
  | long (word : List Char) (value : Option (List Char))
  | short (letter : Char) (rest : List Char)
  | plain
  deriving DecidableEq

def Argument.ofString (a : String) : Argument :=
  match a.toList with
  | ['-', '-'] => .divider
  | '-' :: '-' :: cs =>
    .long (cs.takeWhile (· ≠ '=')) <|
      match cs.dropWhile (· ≠ '=') with
      | _ :: value => some value
      | [] => none
  | '-' :: c :: cs => .short c cs
  | _ => .plain

namespace Draft

def has (d : Draft) : Flag → Bool
  | .position => d.position.isSome
  | .feed => d.feedText.isSome
  | .config => d.settingsPath.isSome
  | .format => d.form.isSome
  | .output => d.outputPath.isSome

def path (f : Flag) (value : String) : Except Halt String :=
  if value.isEmpty then .error (.misuse (.missingValue f)) else .ok value

def set (d : Draft) (f : Flag) (value : String) : Except Halt Draft :=
  if d.has f then .error (.misuse (.repeated f.usage))
  else match f with
    | .position =>
      match Point.ofText value with
      | .ok p => .ok { d with position := some p }
      | .error e => .error (.misuse (.position value e))
    | .feed => .ok { d with feedText := some value }
    | .config => (path f value).map fun p => { d with settingsPath := some p }
    | .format =>
      match ReportForm.ofName? value with
      | some form => .ok { d with form := some form }
      | none => .error (.misuse (.format value))
    | .output => (path f value).map fun p => { d with outputPath := some p }

/-- Sets the flag that is still pending. -/
def settle (d : Draft) : Except Halt Draft :=
  let free := { d with pending := none }
  match d.pending with
  | none => .ok d
  | some (f, none) => .error (.misuse (.missingValue f))
  | some (f, some value) => free.set f value

/-- Takes the program, of which there is one. -/
def place (d : Draft) (a : String) : Except Halt Draft :=
  if d.program.isSome then .error (.misuse (.unexpected a))
  else do
    let d ← d.settle
    if a.isEmpty then .error (.misuse .missingProgram) else .ok { d with program := some a }

def flag (d : Draft) (f : Flag) (value : Option (List Char)) : Except Halt Draft := do
  let d ← d.settle
  match value with
  | some value => d.set f (String.ofList value)
  | none => .ok { d with pending := some (f, none) }

/-- Reports what was asked for instead of a run. -/
def halt (d : Draft) (h : Halt) : Except Halt Draft := do
  let _ ← d.settle
  .error h

def switch (d : Draft) (word : String) : Except Halt Draft :=
  match word with
  | "help" => d.halt .help
  | "version" => d.halt .datedVersion
  | "log-json" => do
    let d ← d.settle
    if d.jsonEvents then .error (.misuse (.repeated "--log-json"))
    else .ok { d with jsonEvents := true }
  | _ => .error (.misuse (.unexpected ("--" ++ word)))

def isSwitch (word : String) : Bool := word = "help" || word = "version" || word = "log-json"

def long (d : Draft) (word : String) (value : Option (List Char)) : Except Halt Draft :=
  match Flag.ofWord? word, value with
  | some f, value => d.flag f value
  | none, none => d.switch word
  | none, some value =>
    .error (.misuse (if isSwitch word then .unexpectedValue (String.ofList value) ("--" ++ word)
      else .unexpected ("--" ++ word)))

/-- Takes an option of one letter. An equals sign may stand before a value that is attached. -/
def short (d : Draft) (letter : Char) (rest : List Char) : Except Halt Draft :=
  match letter, rest with
  | 'h', _ => d.halt .help
  | 'V', _ => d.halt .version
  | 'o', [] => d.flag .output none
  | 'o', '=' :: value => d.flag .output (some value)
  | 'o', value => d.flag .output (some value)
  | c, _ => .error (.misuse (.unexpected (String.ofList ['-', c])))

def give (d : Draft) (f : Flag) (value : String) : Draft :=
  { d with pending := some (f, some value) }

/-- Whether the next argument is a value, whatever it looks like. -/
def isGreedy (d : Draft) : Bool := d.pending = some (.position, none)

def step (d : Draft) (a : String) : Except Halt Draft :=
  if d.isGreedy then .ok (d.give .position a)
  else match Argument.ofString a with
    | .long word value => d.long (String.ofList word) value
    | .short letter rest => d.short letter rest
    | _ =>
      match d.pending with
      | some (f, none) => .ok (d.give f a)
      | _ => d.place a

def read (d : Draft) : List String → Except Halt Draft
  | [] => .ok d
  | a :: as =>
    if a = "--" && !d.isGreedy then as.foldlM place d
    else do (← d.step a).read as

/-- The request, once nothing is pending and a program is named. -/
def finish (d : Draft) : Except Halt Request := do
  let d ← d.settle
  match d.program with
  | none => .error (.misuse .missingProgram)
  | some program => .ok {
      program := program
      position := d.position.getD .origin
      feedText := d.feedText.getD ""
      settingsPath := d.settingsPath
      form := d.form.getD .text
      outputPath := d.outputPath
      jsonEvents := d.jsonEvents }

end Draft

def Request.ofArguments (arguments : List String) : Except Halt Request := do
  (← Draft.read {} arguments).finish

end Toolpath
