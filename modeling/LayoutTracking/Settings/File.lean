import LayoutTracking.Settings.Reading
import LayoutTracking.Settings.Writing

/-!
# Settings files

Settings as whole texts and files, and everything that can go wrong with these.
-/

set_option autoImplicit false

namespace LayoutTracking

inductive FileError where
  | notFound
  | exists
  | notADirectory
  | nameTooLong
  /-- A path holds the byte zero, which no name may. -/
  | zeroByte
deriving DecidableEq, Repr, Inhabited

def FileError.message : FileError → String
  | .notFound => "No such file or directory (os error 2)"
  | .exists => "File exists (os error 17)"
  | .notADirectory => "Not a directory (os error 20)"
  | .nameTooLong => "File name too long (os error 36)"
  | .zeroByte => "file name contained an unexpected NUL byte"

inductive SettingsError where
  | inaccessible (cause : FileError)
  | malformed
  /-- The directory is no text. -/
  | unwritable
deriving DecidableEq, Repr, Inhabited

/-- What happened, in words. What is wrong with a malformed text is not told. -/
def SettingsError.message : SettingsError → String
  | .inaccessible cause => "unable to access settings file: " ++ cause.message
  | .malformed => "malformed settings"
  | .unwritable =>
    "unable to serialize settings: path contains invalid UTF-8 characters"

namespace Settings

def ofGlyphs (glyphs : List Ron.Glyph) : Except SettingsError Settings :=
  match PartialSettings.ofGlyphs? glyphs with
  | some given => .ok given.complete
  | none => .error .malformed

def ofText (text : String) : Except SettingsError Settings := ofGlyphs (Ron.Glyph.ofText text)

def toText (settings : Settings) : Except SettingsError String :=
  match settings.toPartial.chars? with
  | some chars => .ok (String.ofList chars)
  | none => .error .unwritable

def load (file : Option (List UInt8)) : Except SettingsError Settings :=
  match file with
  | some file => ofGlyphs (Ron.Glyph.ofFile file)
  | none => .error (.inaccessible .notFound)

/-- What saving leaves in a file, of which at least the directory has to be there. -/
def save (settings : Settings) (directoryExists : Bool) : Except SettingsError String :=
  if directoryExists then settings.toText else .error (.inaccessible .notFound)

end Settings

end LayoutTracking
