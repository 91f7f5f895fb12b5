import LayoutTracking.Ron.Structure
import LayoutTracking.Settings.Basic

/-!
# Reading settings

The settings notation, read into settings. A text may leave out any field; one that it gives twice
is an error, and one that is unknown is read over.
-/

set_option autoImplicit false

namespace LayoutTracking

open Ron

/-- The levels that a value may be nested, the outermost structure included. -/
def nestingLimit : Nat := 128

/-- The levels that a field takes: one for its structure and one for its value. -/
def fieldLevels : Nat := 2

namespace Level

def read? : Reader Level := fun glyphs => do
  let (name, rest) ← identifier? (← skipBlanks glyphs)
  return (← ofName? name, rest)

end Level

namespace FilePath

def read? : Reader FilePath := fun glyphs =>
  (Ron.text? glyphs).map fun (chars, rest) => (ofText (String.ofList chars), rest)

end FilePath

namespace PartialLog

def readField? (context : Context) (name : List Char) (given : PartialLog) :
    Reader PartialLog :=
  if name = "level".toList then
    once? given.level Level.read? fun level => { given with level := some level }
  else if name = "console".toList then
    once? given.console bool? fun console => { given with console := some console }
  else if name = "directory".toList then
    once? given.directory (optional? context FilePath.read?)
      fun directory => { given with directory := some directory }
  else
    unknownField? context given

def read? (context : Context) : Reader PartialLog :=
  structure? "LogSettings" (readField? (context.inside fieldLevels)) .empty

end PartialLog

namespace PartialTracker

def readThreshold? : Reader UInt64 := fun glyphs =>
  (natural? UInt64.size glyphs).map fun (value, rest) => (UInt64.ofNat value, rest)

def readField? (context : Context) (name : List Char) (given : PartialTracker) :
    Reader PartialTracker :=
  if name = "small_map_threshold".toList then
    once? given.smallMapThreshold readThreshold?
      fun threshold => { given with smallMapThreshold := some threshold }
  else
    unknownField? context given

def read? (context : Context) : Reader PartialTracker :=
  structure? "LayoutTrackerConfig" (readField? (context.inside fieldLevels)) .empty

end PartialTracker

namespace PartialSettings

def readField? (context : Context) (name : List Char) (given : PartialSettings) :
    Reader PartialSettings :=
  if name = "log".toList then
    once? given.log (PartialLog.read? context) fun log => { given with log := some log }
  else if name = "layouts".toList then
    once? given.layouts (PartialTracker.read? context)
      fun layouts => { given with layouts := some layouts }
  else
    unknownField? context given

def read? (context : Context) : Reader PartialSettings :=
  structure? "ValidationSettings" (readField? (context.inside fieldLevels)) .empty

/-- The settings that all of the glyphs give: attributes, one structure, and nothing behind it. -/
def ofGlyphs? (glyphs : List Glyph) : Option PartialSettings := do
  let (implicitSome, rest) ← attributes? (← skipBlanks glyphs)
  let (given, rest) ← read? ⟨implicitSome, nestingLimit⟩ rest
  match ← skipBlanks rest with
  | [] => return given
  | _ :: _ => none

end PartialSettings

end LayoutTracking
