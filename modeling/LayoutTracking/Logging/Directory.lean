import LayoutTracking.Logging.TimePattern
import LayoutTracking.Settings.File
import LayoutTracking.Text.Utf8

/-!
# Log directories

Where the file system is asked to make the directory of the log files, and why it may refuse. A
path is followed name by name, which fails below anything that is a file. Directories that are not
there yet are made on the way, so nothing else stands against it.
-/

set_option autoImplicit false

namespace LayoutTracking

abbrev FileName := List UInt8

namespace FilePath

def slash : UInt8 := '/'.toUInt8

def dot : FileName := ['.'.toUInt8]

/-- The name by which a directory refers to the one that it is in. -/
def dotDot : FileName := ['.'.toUInt8, '.'.toUInt8]

def names (path : FilePath) : List FileName := (path.bytes.splitOn slash).filter (· ≠ [])

/-- Whether the path begins at the root, wherever the process works. -/
def isAbsolute (path : FilePath) : Bool := path.bytes.head? == some slash

/-- A path in reverse, without the slashes at its end and without single dots there. -/
def trimReversed : List UInt8 → List UInt8
  | first :: second :: rest =>
    if first = slash then trimReversed (second :: rest)
    else if [first] = dot ∧ second = slash then trimReversed rest
    else first :: second :: rest
  | [single] => if single = slash then [] else [single]
  | [] => []

def trimEnd (path : FilePath) : FilePath := ⟨(trimReversed path.bytes.reverse).reverse⟩

/-- The path of the directory, as the directory of a file in it: it is read as a text, its time
patterns are resolved, and its end is trimmed. There is none where the format in a pattern cannot
be read. -/
def ofLogFile? (now : Moment) (directory : FilePath) : Option FilePath :=
  (TimePattern.expand? now (Text.decode directory.bytes)).map fun chars =>
    trimEnd ⟨Text.encode chars⟩

/-- Where the name leads from a directory, both given by the names from the root. Nothing is above
the root. -/
def follow (here : List FileName) (name : FileName) : List FileName :=
  if name = dot then here else if name = dotDot then here.dropLast else here ++ [name]

/-- Why no directory can be made where the names lead from a directory. -/
def obstacleFrom (files : List (List FileName)) (here : List FileName) :
    List FileName → Option FileError
  | [] => if here ∈ files then some .exists else none
  | name :: rest =>
    if here ∈ files then some .notADirectory
    else if 255 < name.length then some .nameTooLong
    else obstacleFrom files (follow here name) rest

def fault? (path : FilePath) : Option FileError :=
  if 0 ∈ path.bytes then some .zeroByte
  else if 4096 ≤ path.bytes.length then some .nameTooLong
  else none

end FilePath

structure FileSystem where
  /-- The files that are no directories, each by the names from the root. -/
  files : List (List FileName)
  /-- Where the process works, by the names from the root. -/
  workingDirectory : List FileName

namespace FileSystem

def obstacle? (system : FileSystem) (path : FilePath) : Option FileError :=
  let start := if path.isAbsolute then [] else system.workingDirectory
  path.fault?.or (FilePath.obstacleFrom system.files start path.names)

end FileSystem

end LayoutTracking
