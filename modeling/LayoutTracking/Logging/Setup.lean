import LayoutTracking.Logging.Directory

/-!
# Setting up logging

Logging is set up once in a process, with a file in the directory of the settings if there is one.
The directory is made where it does not exist. Its path may tell the time.
-/

set_option autoImplicit false

namespace LayoutTracking

structure Host where
  /-- Whether a logger is installed. -/
  hasLogger : Bool
  /-- Records beyond this level are dropped whatever the logger does. -/
  maxLevel : Level
  system : FileSystem
  now : Moment

inductive SetupError where
  /-- A time pattern in the path of the directory cannot be read. -/
  | malformedPattern
  | directory (cause : FileError)
  | alreadyInstalled
deriving DecidableEq, Repr, Inhabited

def SetupError.message : SetupError → String
  | .malformedPattern => "malformed time pattern in the path of the log file"
  | .directory cause => "unable to open log file: " ++ cause.message
  | .alreadyInstalled =>
    "a logger is already installed: attempted to set a logger after the logging system was " ++
      "already initialized"

def Host.obstacle? (host : Host) (directory : FilePath) : Option SetupError :=
  match directory.ofLogFile? host.now with
  | none => some .malformedPattern
  | some path => (host.system.obstacle? path).map .directory

/-- Sets up logging. The directory comes first: where it fails, the level has not moved yet. A
logger that is there already is found only after that. -/
def Host.setUp (host : Host) (settings : LogSettings) : Except SetupError Unit × Host :=
  match settings.directory.bind host.obstacle? with
  | some error => (.error error, host)
  | none =>
    let host := { host with maxLevel := settings.level }
    if host.hasLogger then (.error .alreadyInstalled, host)
    else (.ok (), { host with hasLogger := true })

end LayoutTracking
