import LayoutTracking.Subresource.Sweep
import Mathlib.Data.List.Basic

/-!
# What a selector covers

The spans of a selector, as its granularity has them, written down without any stepping, and what
they cover: of the subresources of the image exactly those that the selector names.
-/

set_option autoImplicit false

namespace LayoutTracking

namespace Sweep

/-! ## Joined spans -/

/-- Joins each span with the next where they touch. -/
def joinTouching : List Span → List Span
  | [] => []
  | span :: rest =>
    match joinTouching rest with
    | next :: further =>
      if span.stop = next.start then ⟨span.start, next.stop⟩ :: further
      else span :: next :: further
    | [] => [span]

theorem mem_joinTouching {spans : List Span} (proper : ∀ span ∈ spans, span.start ≤ span.stop)
    (index : Nat) :
    (∀ span ∈ joinTouching spans, span.start ≤ span.stop) ∧
      ((∃ span ∈ joinTouching spans, index ∈ span) ↔ ∃ span ∈ spans, index ∈ span) := by
  induction spans with
  | nil => exact ⟨proper, Iff.rfl⟩
  | cons span rest ih =>
    obtain ⟨properSpan, properRest⟩ := List.forall_mem_cons.mp proper
    obtain ⟨properJoined, same⟩ := ih properRest
    unfold joinTouching
    cases joined : joinTouching rest with
    | nil =>
      rw [joined] at same
      refine ⟨List.forall_mem_cons.mpr ⟨properSpan, nofun⟩, ?_⟩
      rw [List.exists_mem_cons_iff, List.exists_mem_cons_iff, same]
    | cons next further =>
      rw [joined] at same properJoined
      obtain ⟨properNext, properFurther⟩ := List.forall_mem_cons.mp properJoined
      rw [List.exists_mem_cons_iff, ← same, List.exists_mem_cons_iff]
      by_cases touches : span.stop = next.start
      · simp only [if_pos touches]
        refine ⟨List.forall_mem_cons.mpr ⟨by dsimp only; omega, properFurther⟩, ?_⟩
        rw [List.exists_mem_cons_iff, ← or_assoc]
        refine or_congr ?_ Iff.rfl
        simp only [Span.mem_iff]
        omega
      · simp only [if_neg touches]
        exact ⟨List.forall_mem_cons.mpr ⟨properSpan, properJoined⟩,
          by rw [List.exists_mem_cons_iff, List.exists_mem_cons_iff]⟩

/-! ## Indices of subresources -/

/-- The indices of the aspect at a position. -/
def block (image : Addressing) (position : Nat) : Span :=
  ⟨position * image.aspectSize, position * image.aspectSize + image.aspectSize⟩

/-- The indices of each aspect that is selected, in the order of the line. -/
def aspectSpans (image : Addressing) (selector : Selector) : List Span :=
  (positions image selector).map (block image)

theorem exists_mem_aspectSpans {image : Addressing} {selector : Selector} {Holds : Span → Prop} :
    (∃ span ∈ aspectSpans image selector, Holds span) ↔
      ∃ position aspect, image.aspects[position]? = some aspect ∧
        selector.aspects.contains aspect = true ∧ Holds (block image position) := by
  simp only [aspectSpans, positions, List.mem_map, List.mem_filter, List.mem_zipIdx_iff_getElem?]
  constructor
  · rintro ⟨span, ⟨_, ⟨⟨aspect, position⟩, ⟨found, selected⟩, rfl⟩, rfl⟩, holds⟩
    exact ⟨position, aspect, found, selected, holds⟩
  · rintro ⟨position, aspect, found, selected, holds⟩
    exact ⟨_, ⟨position, ⟨(aspect, position), ⟨found, selected⟩, rfl⟩, rfl⟩, holds⟩

end Sweep

theorem mem_block_iff (position other : Nat) {size offset : Nat} (within : offset < size) :
    position * size + offset ∈ (⟨other * size, other * size + size⟩ : Span) ↔
      other = position := by
  rw [Span.mem_iff]
  constructor
  · rintro ⟨reached, bound⟩
    rcases Nat.lt_trichotomy other position with early | same | late
    · have next := Nat.mul_le_mul_right size (Nat.succ_le_of_lt early)
      rw [Nat.succ_mul] at next
      dsimp only at bound
      omega
    · exact same
    · have next := Nat.mul_le_mul_right size (Nat.succ_le_of_lt late)
      rw [Nat.succ_mul] at next
      dsimp only at reached
      omega
  · rintro rfl
    exact ⟨Nat.le_add_right _ _, Nat.add_lt_add_left within _⟩

theorem mul_add_lt_mul (level levels : Nat) {layer size : Nat} (inLevel : layer < size) :
    level * size + layer < levels * size ↔ level < levels := by
  constructor
  · intro bound
    refine Nat.lt_of_not_le fun past => ?_
    have reached := Nat.mul_le_mul_right size past
    omega
  · intro below
    have next := Nat.mul_le_mul_right size (Nat.succ_le_of_lt below)
    rw [Nat.succ_mul] at next
    omega

/-- The selector names the subresource. The runs of levels and layers stop where their base and
count say. -/
structure Selector.Names (selector : Selector) (subresource : Subresource) : Prop where
  aspect : selector.aspects.contains subresource.aspect = true
  mipLevel : subresource.mipLevel.toNat ∈ (⟨selector.baseMipLevel.toNat,
    selector.baseMipLevel.toNat + selector.levelCount.toNat⟩ : Span)
  arrayLayer : subresource.arrayLayer.toNat ∈ (⟨selector.baseArrayLayer.toNat,
    selector.baseArrayLayer.toNat + selector.layerCount.toNat⟩ : Span)

namespace Addressing

/-- The subresource has an aspect of the image, and a mip level and an array layer of it. -/
structure Has (image : Addressing) (subresource : Subresource) : Prop where
  aspect : subresource.aspect ∈ image.aspects
  mipLevel : subresource.mipLevel.toNat < image.mipLevels.toNat
  arrayLayer : subresource.arrayLayer.toNat < image.arrayLayers.toNat

variable {image : Addressing} {subresource : Subresource}

/-- The selector, its counts resolved, names something, and nothing but the aspects, mip levels and
array layers of the image. Its runs stop where base and count say. -/
structure Encloses (image : Addressing) (selector : Selector) : Prop where
  inhabited : selector.isEmpty = false
  aspects : image.mask.contains selector.aspects = true
  mipLevels : selector.baseMipLevel.toNat + selector.levelCount.toNat ≤ image.mipLevels.toNat
  arrayLayers : selector.baseArrayLayer.toNat + selector.layerCount.toNat ≤
    image.arrayLayers.toNat

theorem Encloses.admits {selector : Selector} (encloses : image.Encloses selector) :
    image.admits selector = true := by
  have levelStop : selector.mipLevels.stop ≤ image.mipLevels.toNat :=
    Nat.le_trans (Nat.min_le_left _ _) encloses.mipLevels
  have layerStop : selector.arrayLayers.stop ≤ image.arrayLayers.toNat :=
    Nat.le_trans (Nat.min_le_left _ _) encloses.arrayLayers
  simp [Addressing.admits, encloses.inhabited, encloses.aspects, levelStop, layerStop]

theorem not_admits_of_isEmpty {selector : Selector} (isEmpty : selector.isEmpty = true) :
    image.admits selector = false := by
  simp [admits, isEmpty]

/-- No image admits a selector of nothing. -/
theorem counts_pos {selector : Selector} (admitted : image.admits selector = true) :
    0 < selector.levelCount.toNat ∧ 0 < selector.layerCount.toNat := by
  simp only [admits, Bool.and_eq_true, Bool.not_eq_true', Selector.isEmpty, Bool.or_eq_false_iff,
    beq_eq_false_iff_ne] at admitted
  obtain ⟨⟨⟨⟨⟨-, someLevels⟩, someLayers⟩, -⟩, -⟩, -⟩ := admitted
  exact ⟨Nat.pos_of_ne_zero fun none => someLevels (UInt32.toNat_inj.mp none),
    Nat.pos_of_ne_zero fun none => someLayers (UInt32.toNat_inj.mp none)⟩

def offset (image : Addressing) (subresource : Subresource) : Nat :=
  subresource.mipLevel.toNat * image.mipSize + subresource.arrayLayer.toNat

theorem Has.offset_lt (has : image.Has subresource) :
    image.offset subresource < image.aspectSize := by
  rw [offset, aspectSize, Nat.mul_comm image.mipSize]
  exact (mul_add_lt_mul _ _ has.arrayLayer).mpr has.mipLevel

theorem Has.exists_encode (has : image.Has subresource) :
    ∃ position, image.aspects[position]? = some subresource.aspect ∧
      image.encode subresource = position * image.aspectSize + image.offset subresource := by
  obtain ⟨position, found⟩ := Option.isSome_iff_exists.mp (List.isSome_idxOf?.mpr has.aspect)
  obtain ⟨bound, here, -⟩ := List.idxOf?_eq_some_iff.mp found
  refine ⟨position, List.getElem?_eq_some_iff.mpr ⟨bound, here⟩, ?_⟩
  rw [encode, aspectIndex?, found, offset, Option.getD_some, Nat.add_assoc]

theorem Has.encode_lt (has : image.Has subresource) : image.encode subresource < image.count := by
  obtain ⟨position, found, index⟩ := has.exists_encode
  have bound := (List.getElem?_eq_some_iff.mp found).1
  rw [index, count, Nat.mul_comm image.aspectSize]
  exact (mul_add_lt_mul _ _ has.offset_lt).mpr bound

end Addressing

namespace Sweep

variable {image : Addressing} {selector : Selector} {subresource : Subresource} {position : Nat}

theorem exists_selected_iff {aspect : Aspects} (here : image.aspects[position]? = some aspect)
    {Holds : Span → Prop} {Inside : Prop}
    (only : ∀ other,
      Holds ⟨other * image.aspectSize, other * image.aspectSize + image.aspectSize⟩ ↔
        other = position ∧ Inside) :
    (∃ span ∈ aspectSpans image selector, Holds span) ↔
      selector.aspects.contains aspect = true ∧ Inside := by
  rw [exists_mem_aspectSpans]
  constructor
  · rintro ⟨other, found, atOther, selected, holds⟩
    obtain ⟨rfl, inside⟩ := (only other).mp holds
    obtain rfl := Option.some.inj (atOther.symm.trans here)
    exact ⟨selected, inside⟩
  · rintro ⟨selected, inside⟩
    exact ⟨position, aspect, here, selected, (only position).mpr ⟨rfl, inside⟩⟩

theorem mem_levels_iff (has : image.Has subresource) {base count : Nat}
    (bound : base + count ≤ image.mipLevels.toNat) (other : Nat) :
    position * image.aspectSize + image.offset subresource ∈
        (⟨other * image.aspectSize + base * image.mipSize,
          other * image.aspectSize + base * image.mipSize + count * image.mipSize⟩ : Span) ↔
      other = position ∧ subresource.mipLevel.toNat ∈ (⟨base, base + count⟩ : Span) := by
  have inBlock := mem_block_iff position other has.offset_lt
  have inLevel : subresource.arrayLayer.toNat < image.mipSize := has.arrayLayer
  have early := mul_add_lt_mul subresource.mipLevel.toNat base inLevel
  have late := mul_add_lt_mul subresource.mipLevel.toNat (base + count) inLevel
  have stop := Nat.mul_le_mul_right image.mipSize bound
  rw [Nat.mul_comm image.mipLevels.toNat] at stop
  change (base + count) * image.mipSize ≤ image.aspectSize at stop
  rw [Nat.add_mul] at stop late
  simp only [Span.mem_iff, Addressing.offset] at inBlock ⊢
  constructor
  · rintro ⟨reached, below⟩
    obtain rfl := inBlock.mp ⟨by omega, by omega⟩
    refine ⟨rfl, Nat.le_of_not_lt fun earlier => ?_, late.mp (by omega)⟩
    have before := early.mpr earlier
    omega
  · rintro ⟨rfl, reached, below⟩
    have before := late.mpr below
    have notEarlier := mt early.mp (Nat.not_lt_of_le reached)
    exact ⟨by omega, by omega⟩

theorem mem_layers_iff (has : image.Has subresource) {level base count : Nat}
    (levelBound : level < image.mipLevels.toNat) (bound : base + count ≤ image.arrayLayers.toNat)
    (other : Nat) :
    position * image.aspectSize + image.offset subresource ∈
        (⟨other * image.aspectSize + level * image.mipSize + base,
          other * image.aspectSize + level * image.mipSize + base + count⟩ : Span) ↔
      other = position ∧ level = subresource.mipLevel.toNat ∧
        subresource.arrayLayer.toNat ∈ (⟨base, base + count⟩ : Span) := by
  have inBlock := mem_block_iff position other has.offset_lt
  have inLevel := mem_block_iff subresource.mipLevel.toNat level
    (show subresource.arrayLayer.toNat < image.mipSize from has.arrayLayer)
  have stop := Nat.mul_le_mul_right image.mipSize (Nat.succ_le_of_lt levelBound)
  rw [Nat.mul_comm image.mipLevels.toNat] at stop
  change _ ≤ image.aspectSize at stop
  change base + count ≤ image.mipSize at bound
  rw [Nat.succ_mul] at stop
  simp only [Span.mem_iff, Addressing.offset] at inBlock inLevel ⊢
  constructor
  · rintro ⟨reached, below⟩
    obtain rfl := inBlock.mp ⟨by omega, by omega⟩
    obtain rfl := inLevel.mp ⟨by omega, by omega⟩
    exact ⟨rfl, rfl, by omega, by omega⟩
  · rintro ⟨rfl, rfl, reached, below⟩
    exact ⟨by omega, by omega⟩

/-- The spans of a selector, which its granularity decides. -/
def spansOf (image : Addressing) (selector : Selector) : List Span :=
  match granularityOf image selector with
  | .aspect => joinTouching (aspectSpans image selector)
  | .mipLevel => (aspectSpans image selector).map fun aspect =>
    ⟨aspect.start + selector.baseMipLevel.toNat * image.mipSize,
      aspect.start + selector.baseMipLevel.toNat * image.mipSize +
        selector.levelCount.toNat * image.mipSize⟩
  | .arrayLayer => (aspectSpans image selector).flatMap fun aspect =>
    (List.range selector.levelCount.toNat).map fun level =>
      ⟨aspect.start + (selector.baseMipLevel.toNat + level) * image.mipSize +
          selector.baseArrayLayer.toNat,
        aspect.start + (selector.baseMipLevel.toNat + level) * image.mipSize +
          selector.baseArrayLayer.toNat + selector.layerCount.toNat⟩

theorem layerCount_of_granularity (coarse : granularityOf image selector ≠ .arrayLayer) :
    selector.layerCount = image.arrayLayers := by
  unfold granularityOf at coarse
  split at coarse
  · assumption
  · exact absurd rfl coarse

theorem levelCount_of_granularity (whole : granularityOf image selector = .aspect) :
    selector.levelCount = image.mipLevels := by
  unfold granularityOf at whole
  split at whole
  · split at whole
    · assumption
    · cases whole
  · cases whole

theorem mem_of_whole {start count total : UInt32} (whole : count = total)
    (bound : start.toNat + count.toNat ≤ total.toNat) {place : Nat} (below : place < total.toNat) :
    place ∈ (⟨start.toNat, start.toNat + count.toNat⟩ : Span) := by
  subst whole
  rw [Span.mem_iff]
  dsimp only
  omega

theorem mem_selected_layers_iff (has : image.Has subresource)
    (encloses : image.Encloses selector) (other : Nat) :
    (∃ level < selector.levelCount.toNat,
        position * image.aspectSize + image.offset subresource ∈
          (⟨other * image.aspectSize +
              (selector.baseMipLevel.toNat + level) * image.mipSize +
              selector.baseArrayLayer.toNat,
            other * image.aspectSize +
              (selector.baseMipLevel.toNat + level) * image.mipSize +
              selector.baseArrayLayer.toNat + selector.layerCount.toNat⟩ : Span)) ↔
      other = position ∧
        subresource.mipLevel.toNat ∈ (⟨selector.baseMipLevel.toNat,
          selector.baseMipLevel.toNat + selector.levelCount.toNat⟩ : Span) ∧
        subresource.arrayLayer.toNat ∈ (⟨selector.baseArrayLayer.toNat,
          selector.baseArrayLayer.toNat + selector.layerCount.toNat⟩ : Span) := by
  have levels := encloses.mipLevels
  have layers := encloses.arrayLayers
  constructor
  · rintro ⟨level, below, inside⟩
    obtain ⟨same, atLevel, inLayers⟩ := (mem_layers_iff has (by omega) layers other).mp inside
    refine ⟨same, ?_, inLayers⟩
    rw [Span.mem_iff]
    dsimp only
    omega
  · rintro ⟨same, ⟨reached, below⟩, inLayers⟩
    dsimp only at reached below
    refine ⟨subresource.mipLevel.toNat - selector.baseMipLevel.toNat, by omega, ?_⟩
    exact (mem_layers_iff has (by omega) layers other).mpr ⟨same, by omega, inLayers⟩

theorem mem_pieces_iff (spans : List Span) (count : Nat) (piece : Span → Nat → Span)
    (index : Nat) :
    (∃ span ∈ spans.flatMap fun aspect => (List.range count).map (piece aspect), index ∈ span) ↔
      ∃ aspect ∈ spans, ∃ level < count, index ∈ piece aspect level := by
  simp only [List.mem_flatMap, List.mem_map, List.mem_range]
  constructor
  · rintro ⟨span, ⟨aspect, member, level, below, rfl⟩, inside⟩
    exact ⟨aspect, member, level, below, inside⟩
  · rintro ⟨aspect, member, level, below, inside⟩
    exact ⟨_, ⟨aspect, member, level, below, rfl⟩, inside⟩

/-- The spans of a selector that the image encloses cover the index of a subresource of the image
exactly if the selector names the subresource. -/
theorem spansOf_covers_iff (encloses : image.Encloses selector) (has : image.Has subresource) :
    (∃ span ∈ spansOf image selector, image.encode subresource ∈ span) ↔
      selector.Names subresource := by
  obtain ⟨position, here, index⟩ := has.exists_encode
  rw [spansOf, index]
  cases granular : granularityOf image selector with
  | aspect =>
    have inLevels := mem_of_whole (levelCount_of_granularity granular) encloses.mipLevels
      has.mipLevel
    have coarse : granularityOf image selector ≠ .arrayLayer := by
      rw [granular]
      exact nofun
    have inLayers := mem_of_whole (layerCount_of_granularity coarse) encloses.arrayLayers
      has.arrayLayer
    have proper : ∀ span ∈ aspectSpans image selector, span.start ≤ span.stop := by
      intro span member
      obtain ⟨entry, -, rfl⟩ := List.mem_map.mp member
      exact Nat.le_add_right _ _
    dsimp only
    rw [(mem_joinTouching proper _).2, exists_selected_iff here fun other =>
      (mem_block_iff position other has.offset_lt).trans (and_iff_left trivial).symm]
    exact ⟨fun selected => ⟨selected.1, inLevels, inLayers⟩, fun names => ⟨names.aspect, trivial⟩⟩
  | mipLevel =>
    have coarse : granularityOf image selector ≠ .arrayLayer := by
      rw [granular]
      exact nofun
    have inLayers := mem_of_whole (layerCount_of_granularity coarse) encloses.arrayLayers
      has.arrayLayer
    simp only [List.mem_map, exists_exists_and_eq_and]
    rw [exists_selected_iff here fun other => mem_levels_iff has encloses.mipLevels other]
    exact ⟨fun selected => ⟨selected.1, selected.2, inLayers⟩,
      fun names => ⟨names.aspect, names.mipLevel⟩⟩
  | arrayLayer =>
    dsimp only
    rw [mem_pieces_iff, exists_selected_iff here fun other =>
      mem_selected_layers_iff has encloses other]
    exact ⟨fun selected => ⟨selected.1, selected.2.1, selected.2.2⟩,
      fun names => ⟨names.aspect, names.mipLevel, names.arrayLayer⟩⟩

end Sweep

end LayoutTracking
