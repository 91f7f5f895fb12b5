import LayoutTracking.Layout.Registry

/-!
# Devices

A device has images, and maps that hold the layout of every subresource as the device sees it,
outside of any recording. An image that aliases another of the same shape writes to the same map.
-/

set_option autoImplicit false

namespace LayoutTracking

structure Device where
  images : List Image
  maps : List (AdaptiveMap ImageLayout)
  imageIds : Counter
deriving Inhabited

namespace Device

/-- What became of an operation. If the sweep behind it failed, what was done before stands. -/
structure Outcome where
  device : Device
  /-- Whether any layout moved. -/
  changed : Bool
  notices : List Notice
  failure : Option WordFailure
deriving Inhabited

def empty : Device := ⟨[], [], .fresh⟩

def layoutMap (device : Device) (image : Image) : AdaptiveMap ImageLayout :=
  device.maps.getD image.layoutMap (.empty 0 0)

/-- Stores a layout over every span of a list, with one cursor for all. -/
def paint (map : AdaptiveMap ImageLayout) (spans : List Span) (layout : ImageLayout) :
    Walk (AdaptiveMap ImageLayout) Unit :=
  (Updater.prefer layout).runAll spans (.start map .fresh ())

/-- The map of a new image: every subresource is in the initial layout. -/
def freshMap (info : ImageInfo) (threshold : Nat) : AdaptiveMap ImageLayout :=
  (paint (.empty info.addressing.count threshold) (Swept.full info.addressing).spans
    info.initialLayout).map

def createImage (device : Device) (info : ImageInfo) (fits : info.addressing.count < UInt64.size)
    (threshold : Nat) : Image × Device :=
  let (id, imageIds) := device.imageIds.draw
  let image : Image := ⟨⟨id⟩, info, device.maps.length, fits⟩
  (image,
    { images := device.images ++ [image]
      maps := device.maps ++ [freshMap info threshold]
      imageIds })

/-- Makes an image on the memory of another. Images of the same aspects, mip levels and array
layers share one map, for an index means the same subresource of both; other images do not. -/
def createAlias (device : Device) (info : ImageInfo) (fits : info.addressing.count < UInt64.size)
    (threshold : Nat) (aliased : Image) : Image × Device :=
  if info.addressing = aliased.addressing then
    let (id, imageIds) := device.imageIds.draw
    let image : Image := ⟨⟨id⟩, info, aliased.layoutMap, fits⟩
    (image, { device with images := device.images ++ [image], imageIds })
  else
    device.createImage info fits threshold

def shares (left right : Image) : Bool := left.layoutMap == right.layoutMap

def putMap (device : Device) (image : Image) (map : AdaptiveMap ImageLayout) : Device :=
  { device with maps := device.maps.set image.layoutMap map }

/-- Stores a layout over index spans of the image's map, wherever these come from. -/
def setSpans (device : Device) (image : Image) (spans : List Span) (layout : ImageLayout) :
    Outcome :=
  let walk := paint (device.layoutMap image) spans layout
  ⟨device.putMap image walk.map, walk.changed, [], none⟩

/-- Stores a layout over what a sweep produces, up to its end or its failure. -/
def setSwept (device : Device) (image : Image) (swept : Swept) (layout : ImageLayout) : Outcome :=
  { device.setSpans image swept.spans layout with failure := swept.failure }

/-- Stores a layout over what a selector covers of the image, unless it does not fit. -/
def setLayout (device : Device) (image : Image) (selector : Selector) (layout : ImageLayout) :
    Outcome :=
  let selector := image.addressing.normalize selector
  if image.addressing.admits selector then
    device.setSwept image (.ofSelector image.addressing selector) layout
  else
    ⟨device, false, [.outOfRange .layoutUpdate image.id selector], none⟩

def layoutAt? (device : Device) (image : Image) (index : Nat) : Option ImageLayout :=
  (SpanMap.get? (device.layoutMap image) index).map (·.2)

def layoutOf? (device : Device) (image : Image) (subresource : Subresource) :
    Option ImageLayout :=
  if image.addressing.admitsSubresource subresource then
    device.layoutAt? image (image.addressing.encode subresource)
  else
    none

def searchSpan (device : Device) (image : Image) (query : Span)
    (holds : Span × ImageLayout → Bool) : Search (Span × ImageLayout) :=
  SpanMap.search (device.layoutMap image) query holds

def searchSweep (device : Device) (image : Image) (sweep : Sweep)
    (holds : Span × ImageLayout → Bool) : Except WordFailure (Search (Span × ImageLayout)) :=
  sweep.search fun span => device.searchSpan image span holds

/-- Looks through what is stored of the subresources that a selector covers. -/
def searchSelector (device : Device) (image : Image) (selector : Selector)
    (holds : Span × ImageLayout → Bool) : Except WordFailure (Search (Span × ImageLayout)) := do
  let sweep ← Sweep.ofSelector image.addressing (image.addressing.normalize selector)
  device.searchSweep image sweep holds

end Device

end LayoutTracking
