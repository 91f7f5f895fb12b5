import LayoutTracking.Span
import LayoutTracking.Subresource.Aspects

/-!
# Subresources and selectors

A subresource is one array layer of one mip level of one aspect. A selector names a block of
them: every combination of some aspects, a run of mip levels and a run of array layers.
-/

set_option autoImplicit false

namespace LayoutTracking

structure Subresource where
  /-- One aspect bit. -/
  aspect : Aspects
  mipLevel : UInt32
  arrayLayer : UInt32
deriving DecidableEq, Repr, Inhabited

structure Selector where
  aspects : Aspects
  baseMipLevel : UInt32
  levelCount : UInt32
  baseArrayLayer : UInt32
  layerCount : UInt32
deriving DecidableEq, Repr, Inhabited

/-- As the count of a selector: everything from the base to the last level or layer of the image.
What that is depends on the image. It is also the largest count there is. -/
def remaining : UInt32 := 4294967295

/-- Where a run of `count` numbers from `base` stops. A run never stops past the largest number
of 32 bits: one that would is cut there. -/
def runStop (base count : UInt32) : Nat := min (base.toNat + count.toNat) remaining.toNat

namespace Selector

def all (aspects : Aspects) : Selector := ⟨aspects, 0, remaining, 0, remaining⟩

def single (subresource : Subresource) : Selector :=
  ⟨subresource.aspect, subresource.mipLevel, 1, subresource.arrayLayer, 1⟩

def mipLevels (selector : Selector) : Span :=
  ⟨selector.baseMipLevel.toNat, runStop selector.baseMipLevel selector.levelCount⟩

def arrayLayers (selector : Selector) : Span :=
  ⟨selector.baseArrayLayer.toNat, runStop selector.baseArrayLayer selector.layerCount⟩

def isEmpty (selector : Selector) : Bool :=
  selector.aspects.isEmpty || selector.levelCount == 0 || selector.layerCount == 0

def inspect (selector : Selector) : String :=
  "SubresourceRange \x7b aspects: " ++ selector.aspects.inspect ++
    ", base_mip_level: " ++ toString selector.baseMipLevel ++
    ", level_count: " ++ toString selector.levelCount ++
    ", base_array_layer: " ++ toString selector.baseArrayLayer ++
    ", layer_count: " ++ toString selector.layerCount ++ " \x7d"

end Selector

end LayoutTracking
