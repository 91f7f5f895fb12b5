import LayoutTracking.Subresource.Selector

/-!
# Addressing

The subresources of an image lie on a line: all of the first aspect before all of the second, in
an aspect all of the first mip level before all of the second, and in a mip level one array layer
after the other. Addressing turns subresources into indices of that line and back, and decides
which selectors an image admits.
-/

set_option autoImplicit false

namespace LayoutTracking

/-- The shape of an image, as far as addressing its subresources needs it. -/
structure Addressing where
  mask : Aspects
  mipLevels : UInt32
  arrayLayers : UInt32
deriving DecidableEq, Repr, Inhabited

namespace Addressing

/-- The aspects of the image, one by one, in the order in which they lie on the line. -/
def aspects (image : Addressing) : List Aspects := image.mask.singles

def mipSize (image : Addressing) : Nat := image.arrayLayers.toNat

def aspectSize (image : Addressing) : Nat := image.mipSize * image.mipLevels.toNat

/-- The number of subresources. Images are only made where it fits in a word. -/
def count (image : Addressing) : Nat := image.aspectSize * image.aspects.length

def full (image : Addressing) : Selector :=
  ⟨image.mask, 0, image.mipLevels, 0, image.arrayLayers⟩

def aspectIndex? (image : Addressing) (aspect : Aspects) : Option Nat :=
  image.aspects.idxOf? aspect

/-- The index of a subresource. An aspect that the image does not have counts as its first. -/
def encode (image : Addressing) (subresource : Subresource) : Nat :=
  (image.aspectIndex? subresource.aspect).getD 0 * image.aspectSize +
    subresource.mipLevel.toNat * image.mipSize + subresource.arrayLayer.toNat

def decode? (image : Addressing) (index : Nat) : Option Subresource :=
  if image.count ≤ index then
    none
  else
    let inAspect := index % image.aspectSize
    image.aspects[index / image.aspectSize]?.map fun aspect =>
      { aspect
        mipLevel := UInt32.ofNat (inAspect / image.mipSize)
        arrayLayer := UInt32.ofNat (inAspect % image.mipSize) }

/-- The indices of one aspect. For an aspect that the image does not have, the empty span at the
end of the line. -/
def aspectSpan (image : Addressing) (aspect : Aspects) : Span :=
  match image.aspectIndex? aspect with
  | some position => ⟨position * image.aspectSize, (position + 1) * image.aspectSize⟩
  | none => .emptyAt image.count

/-- Whether a resolved selector selects something, only aspects of the image, and no mip level or
array layer past its last. -/
def admits (image : Addressing) (selector : Selector) : Bool :=
  !selector.isEmpty && image.mask.contains selector.aspects &&
    selector.mipLevels.stop ≤ image.mipLevels.toNat &&
    selector.arrayLayers.stop ≤ image.arrayLayers.toNat

/-- Whether a subresource has one aspect bit, out of the mask, and a mip level and an array layer
of the image. -/
def admitsSubresource (image : Addressing) (subresource : Subresource) : Bool :=
  subresource.aspect.isSingle && image.mask.contains subresource.aspect &&
    subresource.mipLevel < image.mipLevels && subresource.arrayLayer < image.arrayLayers

/-- What `remaining` stands for from a base on; any other count stands for itself. -/
def resolveCount (total base count : UInt32) : UInt32 :=
  if count = remaining then UInt32.ofNat (total.toNat - base.toNat) else count

/-- The selector with its counts resolved for the image. Of a multi-planar image, colour means
every plane that the image has. -/
def normalize (image : Addressing) (selector : Selector) : Selector :=
  { selector with
    aspects :=
      if image.mask.isMultiPlanar && selector.aspects.contains .color then
        (selector.aspects.without .color).union (image.mask.inter .allPlanes)
      else
        selector.aspects
    levelCount := resolveCount image.mipLevels selector.baseMipLevel selector.levelCount
    layerCount := resolveCount image.arrayLayers selector.baseArrayLayer selector.layerCount }

end Addressing

end LayoutTracking
