import LayoutTracking.Layout.Identity
import LayoutTracking.Layout.ImageLayout
import LayoutTracking.Subresource.SweepRun

/-!
# Images, views and recorders

What is known of an image outside of any recording, of a view into part of an image, and of
whoever records commands.
-/

set_option autoImplicit false

namespace LayoutTracking

structure ImageInfo where
  aspects : Aspects
  mipLevels : UInt32
  arrayLayers : UInt32
  /-- The layout of every subresource when the image is made. -/
  initialLayout : ImageLayout
  debugName : Option String
deriving DecidableEq, Inhabited

def ImageInfo.standard : ImageInfo := ⟨.color, 1, 1, .undefined, none⟩

def ImageInfo.addressing (info : ImageInfo) : Addressing :=
  ⟨info.aspects, info.mipLevels, info.arrayLayers⟩

structure Image where
  id : ImageId
  info : ImageInfo
  /-- The number of the device-wide map that holds its layouts. Aliases may share one. -/
  layoutMap : Nat
  /-- No image is made of more subresources than a word can count. -/
  fits : info.addressing.count < UInt64.size
deriving DecidableEq

instance : Inhabited Image := ⟨⟨default, .standard, 0, by decide⟩⟩

def Image.addressing (image : Image) : Addressing := image.info.addressing

theorem Image.addressing_fits (image : Image) : image.addressing.count < UInt64.size := image.fits

/-- A view of the subresources of an image that a selector covers. -/
structure View where
  id : ViewId
  image : Image
  /-- What the view covers, with its counts resolved for the image. -/
  selector : Selector
deriving DecidableEq, Inhabited

/-- The view of what a selector, not yet resolved, covers of an image. -/
def View.ofSelector (id : ViewId) (image : Image) (selector : Selector) : View :=
  ⟨id, image, image.addressing.normalize selector⟩

def View.sweep (view : View) : Except WordFailure Sweep :=
  Sweep.ofSelector view.image.addressing view.selector

def View.swept (view : View) : Swept := .ofSweep view.sweep

/-- A source of recorded commands, with the debug label active on it. -/
structure Recorder where
  id : RecorderId
  label : Option String
deriving DecidableEq, Inhabited

end LayoutTracking
