import LayoutTracking.Subresource.Addressing
import LayoutTracking.Words

/-!
# Sweeps

A sweep produces the indices that a selector covers, as spans, in ascending order and as few as
the shape of the selector lets it. The blocks of the selected aspects are laid out once. Two cursors
then say which block comes next, and how many of its mip levels are done. A step can fail, for no sum
may leave its word: so the sweep of a run of levels that goes past the numbers of 32 bits ends.
-/

set_option autoImplicit false

namespace LayoutTracking

/-- The largest piece that one step of a sweep can produce. -/
inductive Granularity where
  /-- Every mip level and array layer is selected: neighbouring aspects come as one span. -/
  | aspect
  /-- Every array layer is selected: the mip levels of an aspect come as one span. -/
  | mipLevel
  /-- Each mip level of each aspect comes as a span. -/
  | arrayLayer
deriving DecidableEq, Repr, Inhabited

/-- The indices of an aspect, or of several that lie next to one another. -/
structure Block where
  start : UInt64
  length : UInt64
deriving DecidableEq, Repr, Inhabited

structure Sweep where
  blocks : List Block
  granularity : Granularity
  /-- How many indices one mip level takes. -/
  mipSize : UInt64
  baseMipLevel : UInt32
  levelCount : UInt32
  baseArrayLayer : UInt32
  layerCount : UInt32
  /-- How many blocks are finished. -/
  blocksDone : UInt64
  /-- How many mip levels of the block after these are finished. -/
  levelsDone : UInt32
deriving DecidableEq, Repr, Inhabited

namespace Sweep

def nothing : Sweep := ⟨[], .aspect, 0, 0, 0, 0, 0, 0, 0⟩

/-! ## Laying out the blocks -/

/-- The granularity that the counts of a resolved selector allow. -/
def granularityOf (image : Addressing) (selector : Selector) : Granularity :=
  if selector.layerCount = image.arrayLayers then
    if selector.levelCount = image.mipLevels then .aspect else .mipLevel
  else
    .arrayLayer

/-- The places of the selected aspects among those of the image. -/
def positions (image : Addressing) (selector : Selector) : List Nat :=
  (image.aspects.zipIdx.filter fun entry => selector.aspects.contains entry.1).map (·.2)

/-- Puts a block of the given size behind the others. It is joined with the last of them if it
begins where that one stops. -/
def addBlock (joins : Bool) (size start : UInt64) : List Block → Except WordFailure (List Block)
  | [] => .ok [⟨start, size⟩]
  | [last] =>
    if joins then do
      let stop ← Words.add last.start last.length
      if stop = start then
        let length ← Words.add last.length size
        return [⟨last.start, length⟩]
      else
        return [last, ⟨start, size⟩]
    else
      .ok [last, ⟨start, size⟩]
  | first :: next :: rest => do
    let added ← addBlock joins size start (next :: rest)
    return first :: added

/-- The blocks of the aspects at the positions, one after the other. -/
def layOut (joins : Bool) (size : UInt64) (positions : List Nat) :
    Except WordFailure (List Block) :=
  positions.foldlM (fun blocks position => do
    let start ← Words.mul (.ofNat position) size
    addBlock joins size start blocks) []

/-- The sweep of the selector before its first step. -/
def ofBlocks (image : Addressing) (selector : Selector) (blocks : List Block) : Sweep where
  blocks
  granularity := granularityOf image selector
  mipSize := image.arrayLayers.toUInt64
  baseMipLevel := selector.baseMipLevel
  levelCount := selector.levelCount
  baseArrayLayer := selector.baseArrayLayer
  layerCount := selector.layerCount
  blocksDone := 0
  levelsDone := 0

/-- The sweep of a resolved selector. One that the image does not admit is swept to nothing. -/
def ofSelector (image : Addressing) (selector : Selector) : Except WordFailure Sweep :=
  if image.admits selector then do
    let aspectSize ← Words.mul image.arrayLayers.toUInt64 image.mipLevels.toUInt64
    let blocks ← layOut (granularityOf image selector = .aspect) aspectSize
      (positions image selector)
    return ofBlocks image selector blocks
  else
    .ok nothing

def full (image : Addressing) : Except WordFailure Sweep := ofSelector image image.full

/-! ## Stepping -/

def isEmpty (sweep : Sweep) : Bool := sweep.blocks.length ≤ sweep.blocksDone.toNat

/-- The next span, or nothing once all blocks are finished. -/
def next (sweep : Sweep) : Except WordFailure (Option Span × Sweep) :=
  match sweep.blocks[sweep.blocksDone.toNat]? with
  | none => .ok (none, sweep)
  | some block =>
    match sweep.granularity with
    | .aspect => do
      let done ← Words.add sweep.blocksDone 1
      let stop ← Words.add block.start block.length
      return (some ⟨block.start.toNat, stop.toNat⟩, { sweep with blocksDone := done })
    | .mipLevel => do
      let done ← Words.add sweep.blocksDone 1
      let skipped ← Words.mul sweep.baseMipLevel.toUInt64 sweep.mipSize
      let start ← Words.add block.start skipped
      let covered ← Words.mul sweep.levelCount.toUInt64 sweep.mipSize
      let stop ← Words.add start covered
      return (some ⟨start.toNat, stop.toNat⟩, { sweep with blocksDone := done })
    | .arrayLayer => do
      let level ← Words.addPlaces sweep.baseMipLevel sweep.levelsDone
      let skipped ← Words.mul level.toUInt64 sweep.mipSize
      let levelStart ← Words.add block.start skipped
      let start ← Words.add levelStart sweep.baseArrayLayer.toUInt64
      let levels ← Words.addPlaces sweep.levelsDone 1
      let stop ← Words.add start sweep.layerCount.toUInt64
      if levels = sweep.levelCount then
        let done ← Words.add sweep.blocksDone 1
        return (some ⟨start.toNat, stop.toNat⟩,
          { sweep with blocksDone := done, levelsDone := 0 })
      else
        return (some ⟨start.toNat, stop.toNat⟩, { sweep with levelsDone := levels })

/-- How many spans are announced to be left. -/
def length (sweep : Sweep) : Except WordFailure UInt64 :=
  let blocksLeft := UInt64.ofNat (sweep.blocks.length - sweep.blocksDone.toNat)
  match sweep.granularity with
  | .aspect | .mipLevel => .ok blocksLeft
  | .arrayLayer =>
    if blocksLeft = 0 then .ok 0
    else do
      let levels ← Words.mul blocksLeft sweep.levelCount.toUInt64
      Words.sub levels sweep.levelsDone.toUInt64

/-- Steps the sweep so many times, and gathers what the steps answer. -/
def take : Nat → Sweep → Except WordFailure (List (Option Span) × Sweep)
  | 0, sweep => .ok ([], sweep)
  | count + 1, sweep => do
    let (answer, rest) ← sweep.next
    let (answers, left) ← take count rest
    return (answer :: answers, left)

end Sweep

end LayoutTracking
