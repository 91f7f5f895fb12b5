import LayoutTracking.Ron.Quoted
import LayoutTracking.Settings.Basic

/-!
# Writing settings

Settings as text: one field to a line, each level of nesting indented by four spaces, a comma after
every field.
-/

set_option autoImplicit false

namespace LayoutTracking

open Ron

def fieldLine (nesting : Nat) (name : String) (value : List Char) : List Char :=
  List.replicate (4 * nesting) ' ' ++ name.toList ++ [':', ' '] ++ value ++ [',', '\n']

/-- A structure inside so many others: its field lines between parentheses. -/
def structureText (nesting : Nat) (fields : List (List Char)) : List Char :=
  ['(', '\n'] ++ fields.flatten ++ List.replicate (4 * nesting) ' ' ++ [')']

def optionalLine {α : Type} (nesting : Nat) (name : String) (write : α → List Char)
    (value : Option α) : List (List Char) :=
  (value.map fun value => fieldLine nesting name (write value)).toList

def boolText (value : Bool) : List Char := if value then "true".toList else "false".toList

/-- A directory, if there is one and it is a text. A path that is no text cannot be written. -/
def directoryText? : Option FilePath → Option (List Char)
  | none => some "None".toList
  | some path => path.text?.map fun text => "Some(".toList ++ quote text.toList ++ [')']

namespace PartialLog

/-- The log settings that are given, as the value of a field of the settings. -/
def chars? (given : PartialLog) : Option (List Char) := do
  let directory ← given.directory.mapM directoryText?
  return structureText 1
    (optionalLine 2 "level" (·.name.toList) given.level ++
      optionalLine 2 "console" boolText given.console ++
      optionalLine 2 "directory" id directory)

end PartialLog

namespace PartialTracker

/-- The tracker settings that are given, as the value of a field of the settings. -/
def chars (given : PartialTracker) : List Char :=
  structureText 1
    (optionalLine 2 "small_map_threshold" (fun threshold => (toString threshold).toList)
      given.smallMapThreshold)

end PartialTracker

namespace PartialSettings

def chars? (given : PartialSettings) : Option (List Char) := do
  let log ← given.log.mapM PartialLog.chars?
  return structureText 0
    (optionalLine 1 "log" id log ++ optionalLine 1 "layouts" PartialTracker.chars given.layouts)

end PartialSettings

end LayoutTracking
