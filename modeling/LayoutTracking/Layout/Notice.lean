import LayoutTracking.Layout.Snapshot

/-!
# Notices

What an operation reports besides its result: a request that it set aside, or a snapshot that it
had no room for.
-/

set_option autoImplicit false

namespace LayoutTracking

/-- What has to agree between two registries for one to be imported into the other. -/
structure CompatibilityKey where
  image : ImageId
  aspects : Aspects
deriving DecidableEq, Repr, Inhabited

def CompatibilityKey.inspect (key : CompatibilityKey) : String :=
  "CompatibilityKey \x7b image: " ++ key.image.inspect ++ ", aspects: " ++ key.aspects.inspect ++
    " \x7d"

inductive Severity where
  | error
  | warning
  | trace
deriving DecidableEq, Repr, Inhabited

/-- What kind of request named subresources that the image does not have. -/
inductive Request where
  | transition
  | initialLayout
  | layoutUpdate
deriving DecidableEq, Repr, Inhabited

inductive Notice where
  /-- The request was ignored, for its resolved selector does not fit the image. -/
  | outOfRange (request : Request) (image : ImageId) (selector : Selector)
  /-- The view was ignored, for it shows another image. -/
  | foreignView (view : ViewId) (shown image : ImageId)
  /-- The import was refused, for the keys differ. -/
  | incompatible (source destination : CompatibilityKey)
  | notRecorded (error : SnapshotError)
  | notCopied (error : SnapshotError)
deriving DecidableEq, Inhabited

def Request.noun : Request → String
  | .transition => "layout transition"
  | .initialLayout => "initial layout"
  | .layoutUpdate => "layout update"

namespace Notice

def severity : Notice → Severity
  | .outOfRange .. | .foreignView .. => .trace
  | .incompatible .. => .warning
  | .notRecorded _ | .notCopied _ => .error

def message : Notice → String
  | .outOfRange request image selector =>
    "ignoring " ++ request.noun ++ " for image " ++ image.inspect ++
      " with out of range selector " ++ selector.inspect
  | .foreignView view shown image =>
    "ignoring view " ++ view.inspect ++ " of image " ++ shown.inspect ++ " for image " ++
      image.inspect
  | .incompatible source destination =>
    "refusing to import layouts of " ++ source.inspect ++ " into a registry for " ++
      destination.inspect
  | .notRecorded error => "unable to record initial layout state: " ++ error.message
  | .notCopied error => "unable to copy initial layout state: " ++ error.message

end Notice

end LayoutTracking
