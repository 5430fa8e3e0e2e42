import Toolpath.Record.Parts
import Toolpath.Settings.Basic

/-!
# Settings from documents

Every format lays settings over the defaults in the same way. A document without a `frame` entry
gives the defaults; an entry gives each field that it holds, and the defaults of the others, except
that a call which is not there is no call.
-/

namespace Toolpath.Settings

/-- How a format reads single values and records. -/
structure Readers (α : Type) where
  number : α → Option Binary64
  flag : α → Option Bool
  parameter : α → Option UInt32
  feedUnit : α → Option FeedUnit
  call : α → Option (Option String)
  parts? : List String → α → Option (Parts α)

def keys : List String :=
  ["default_feed_rate", "feed_units", "return_to_start", "restore_feed_parameter",
    "restore_feed_macro", "end_program"]

def ofParts? {α : Type} (r : Readers α) (p : Parts α) : Option Settings := do
  some {
    defaultFeed := ← p.withDefault 0 default.defaultFeed r.number
    feedUnit := ← p.withDefault 1 default.feedUnit r.feedUnit
    returnToStart := ← p.withDefault 2 default.returnToStart r.flag
    restoreParameter := ← p.withDefault 3 default.restoreParameter r.parameter
    restoreCall := ← p.optional 4 r.call
    endProgram := ← p.withDefault 5 default.endProgram r.flag }

def ofTable? {α : Type} (r : Readers α) (v : α) : Option Settings :=
  (r.parts? keys v).bind (ofParts? r)

def ofDocument? {α : Type} (r : Readers α) (v : α) : Option Settings := do
  let p ← r.parts? ["frame"] v
  p.withDefault 0 default (ofTable? r)

end Toolpath.Settings
