/-!
# Settings

What can be configured: where log records go and which are dropped, and how large an image may be
to have its layouts tracked in a flat map.
-/

set_option autoImplicit false

namespace LayoutTracking

inductive Level where
  | off
  | error
  | warn
  | info
  | debug
  | trace
deriving DecidableEq, Repr, Inhabited

namespace Level

def name : Level → String
  | .off => "OFF"
  | .error => "ERROR"
  | .warn => "WARN"
  | .info => "INFO"
  | .debug => "DEBUG"
  | .trace => "TRACE"

def all : List Level := [.off, .error, .warn, .info, .debug, .trace]

/-- The level of a name, in whatever mixture of the two cases of the Latin letters. -/
def ofName? (name : List Char) : Option Level :=
  all.find? fun level => level.name.toList == name.map Char.toUpper

end Level

/-- A path in the file system. Paths are bytes, which usually but not always are a text. -/
structure FilePath where
  bytes : List UInt8
deriving DecidableEq, Inhabited

namespace FilePath

def ofText (text : String) : FilePath := ⟨text.toUTF8.data.toList⟩

def text? (path : FilePath) : Option String := String.fromUTF8? ⟨path.bytes.toArray⟩

end FilePath

structure LogSettings where
  /-- Records beyond this level are dropped. -/
  level : Level
  /-- Whether records go to the console. -/
  console : Bool
  /-- The directory that gets one log file for each run, if any. -/
  directory : Option FilePath
deriving DecidableEq, Inhabited

structure TrackerSettings where
  /-- Images of at most this many subresources are tracked in a flat map. -/
  smallMapThreshold : UInt64
deriving DecidableEq, Inhabited

structure Settings where
  log : LogSettings
  layouts : TrackerSettings
deriving DecidableEq, Inhabited

def LogSettings.standard : LogSettings := ⟨.info, true, some (.ofText "./logs")⟩

def TrackerSettings.standard : TrackerSettings := ⟨16⟩

def Settings.standard : Settings := ⟨.standard, .standard⟩

/-! ## Partial settings

A source of settings may leave out any of them, at either of two levels. What it leaves out is
standard. -/

structure PartialLog where
  level : Option Level
  console : Option Bool
  directory : Option (Option FilePath)
deriving DecidableEq, Inhabited

structure PartialTracker where
  smallMapThreshold : Option UInt64
deriving DecidableEq, Inhabited

structure PartialSettings where
  log : Option PartialLog
  layouts : Option PartialTracker
deriving DecidableEq, Inhabited

namespace PartialLog

def empty : PartialLog := ⟨none, none, none⟩

def complete (given : PartialLog) : LogSettings where
  level := given.level.getD LogSettings.standard.level
  console := given.console.getD LogSettings.standard.console
  directory := given.directory.getD LogSettings.standard.directory

end PartialLog

namespace PartialTracker

def empty : PartialTracker := ⟨none⟩

def complete (given : PartialTracker) : TrackerSettings where
  smallMapThreshold :=
    given.smallMapThreshold.getD TrackerSettings.standard.smallMapThreshold

end PartialTracker

namespace PartialSettings

def empty : PartialSettings := ⟨none, none⟩

def complete (given : PartialSettings) : Settings where
  log := given.log.elim .standard PartialLog.complete
  layouts := given.layouts.elim .standard PartialTracker.complete

end PartialSettings

def LogSettings.toPartial (settings : LogSettings) : PartialLog :=
  ⟨some settings.level, some settings.console, some settings.directory⟩

def TrackerSettings.toPartial (settings : TrackerSettings) : PartialTracker :=
  ⟨some settings.smallMapThreshold⟩

def Settings.toPartial (settings : Settings) : PartialSettings :=
  ⟨some settings.log.toPartial, some settings.layouts.toPartial⟩

@[simp] theorem LogSettings.complete_toPartial (settings : LogSettings) :
    settings.toPartial.complete = settings := rfl

@[simp] theorem TrackerSettings.complete_toPartial (settings : TrackerSettings) :
    settings.toPartial.complete = settings := rfl

@[simp] theorem Settings.complete_toPartial (settings : Settings) :
    settings.toPartial.complete = settings := rfl

end LayoutTracking
