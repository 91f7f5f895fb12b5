import LayoutTracking.Proofs.Addresses
import Mathlib.Data.List.Perm.Subperm

/-!
# The spans of a selector are runs

The spans of a selector are as few as there can be: between any two of them lies an index that they
leave out, whichever granularity the selector allows.
-/

set_option autoImplicit false

namespace LayoutTracking

/-! ## Separate spans -/

/-- Spans below a limit, each with an index, in ascending order and with a hole before the next. -/
structure Separate (limit : Nat) (spans : List Span) : Prop where
  inhabited : ∀ span ∈ spans, span.start < span.stop
  apart : spans.Pairwise fun earlier later => earlier.stop < later.start
  inside : ∀ span ∈ spans, span.stop ≤ limit

namespace Separate

variable {limit : Nat} {spans others : List Span}

theorem stop_not_mem (separate : Separate limit spans) {span other : Span} (member : span ∈ spans)
    (within : other ∈ spans) : span.stop ∉ other := by
  rintro ⟨reached, bound⟩
  have inhabited := separate.inhabited span member
  have ascending := List.pairwise_iff_getElem.mp separate.apart
  obtain ⟨first, firstBound, rfl⟩ := List.mem_iff_getElem.mp member
  obtain ⟨second, secondBound, rfl⟩ := List.mem_iff_getElem.mp within
  rcases Nat.lt_trichotomy first second with before | same | after
  · have hole := ascending first second firstBound secondBound before
    omega
  · subst same
    exact Nat.lt_irrefl _ bound
  · have hole := ascending second first secondBound firstBound after
    omega

/-- No spans over the same indices are fewer, since none of them reaches over a hole. -/
theorem length_le (separate : Separate limit spans)
    (same : ∀ index, (∃ other ∈ others, index ∈ other) ↔ ∃ span ∈ spans, index ∈ span) :
    spans.length ≤ others.length := by
  have around : ∀ span ∈ spans, ∃ other ∈ others, span.start ∈ other := by
    intro span member
    exact (same span.start).mpr ⟨span, member, Nat.le_refl _, separate.inhabited span member⟩
  choose! chosen isOther contains using around
  have distinct : (spans.map chosen).Nodup := by
    refine List.pairwise_map.mpr (separate.apart.imp_of_mem ?_)
    intro first second isFirst isSecond hole shared
    have inhabited := separate.inhabited first isFirst
    have starts := (contains first isFirst).1
    have stops := (contains second isSecond).2
    rw [← shared] at stops
    have covered : first.stop ∈ chosen first := ⟨by omega, by omega⟩
    obtain ⟨span, member, inside⟩ := (same _).mp ⟨chosen first, isOther first isFirst, covered⟩
    exact separate.stop_not_mem isFirst member inside
  have included : spans.map chosen ⊆ others := by
    intro other member
    obtain ⟨span, within, rfl⟩ := List.mem_map.mp member
    exact isOther span within
  have shorter := (distinct.subperm included).length_le
  rwa [List.length_map] at shorter

end Separate

namespace Addressing

theorem Encloses.has_of_names {image : Addressing} {selector : Selector}
    (encloses : image.Encloses selector) {subresource : Subresource}
    (isAspect : subresource.aspect ∈ image.aspects) (names : selector.Names subresource) :
    image.Has subresource := by
  have levels := encloses.mipLevels
  have layers := encloses.arrayLayers
  have level := names.mipLevel.2
  have layer := names.arrayLayer.2
  dsimp only at level layer
  exact ⟨isAspect, by omega, by omega⟩

end Addressing

namespace Sweep

/-! ## Joined spans -/

theorem ends_of_mem_joinTouching {spans : List Span} {joined : Span}
    (member : joined ∈ joinTouching spans) :
    (∃ first ∈ spans, first.start = joined.start) ∧ ∃ last ∈ spans, last.stop = joined.stop := by
  induction spans generalizing joined with
  | nil => cases member
  | cons span rest ih =>
    have behind : joined ∈ joinTouching rest →
        (∃ first ∈ span :: rest, first.start = joined.start) ∧
          ∃ last ∈ span :: rest, last.stop = joined.stop := by
      intro within
      obtain ⟨⟨first, isFirst, starts⟩, last, isLast, stops⟩ := ih within
      exact ⟨⟨first, .tail _ isFirst, starts⟩, last, .tail _ isLast, stops⟩
    unfold joinTouching at member
    cases found : joinTouching rest with
    | nil =>
      rw [found] at member
      obtain rfl := List.mem_singleton.mp member
      exact ⟨⟨_, List.mem_cons_self, rfl⟩, _, List.mem_cons_self, rfl⟩
    | cons next further =>
      rw [found] at member behind
      by_cases touches : span.stop = next.start
      · simp only [if_pos touches] at member
        rcases List.mem_cons.mp member with rfl | within
        · obtain ⟨-, last, isLast, stops⟩ := ih (found ▸ List.mem_cons_self)
          exact ⟨⟨span, List.mem_cons_self, rfl⟩, last, .tail _ isLast, stops⟩
        · exact behind (.tail _ within)
      · simp only [if_neg touches] at member
        rcases List.mem_cons.mp member with rfl | within
        · exact ⟨⟨_, List.mem_cons_self, rfl⟩, _, List.mem_cons_self, rfl⟩
        · exact behind within

/-- Once touching spans are joined, spans in ascending order have holes between them. -/
theorem apart_joinTouching {spans : List Span} (proper : ∀ span ∈ spans, span.start < span.stop)
    (ascending : spans.Pairwise fun earlier later => earlier.stop ≤ later.start) :
    (∀ span ∈ joinTouching spans, span.start < span.stop) ∧
      (joinTouching spans).Pairwise fun earlier later => earlier.stop < later.start := by
  induction spans with
  | nil => exact ⟨proper, .nil⟩
  | cons span rest ih =>
    obtain ⟨properSpan, properRest⟩ := List.forall_mem_cons.mp proper
    obtain ⟨before, ascendingRest⟩ := List.pairwise_cons.mp ascending
    obtain ⟨properJoined, apart⟩ := ih properRest ascendingRest
    have reached : ∀ joined ∈ joinTouching rest, span.stop ≤ joined.start := by
      intro joined member
      obtain ⟨⟨first, isFirst, starts⟩, -⟩ := ends_of_mem_joinTouching member
      exact starts ▸ before first isFirst
    unfold joinTouching
    cases found : joinTouching rest with
    | nil => exact ⟨List.forall_mem_singleton.mpr properSpan, List.pairwise_singleton _ _⟩
    | cons next further =>
      rw [found] at properJoined apart reached
      obtain ⟨properNext, properFurther⟩ := List.forall_mem_cons.mp properJoined
      obtain ⟨nextApart, furtherApart⟩ := List.pairwise_cons.mp apart
      have meets := reached next List.mem_cons_self
      by_cases touches : span.stop = next.start
      · simp only [if_pos touches]
        refine ⟨List.forall_mem_cons.mpr ⟨by dsimp only; omega, properFurther⟩, ?_⟩
        exact List.pairwise_cons.mpr ⟨nextApart, furtherApart⟩
      · simp only [if_neg touches]
        refine ⟨List.forall_mem_cons.mpr ⟨properSpan, properJoined⟩, ?_⟩
        refine List.pairwise_cons.mpr ⟨List.forall_mem_cons.mpr ⟨by omega, ?_⟩, apart⟩
        intro later member
        have beyond := nextApart later member
        omega

/-! ## The blocks of the selected aspects -/

variable {image : Addressing} {selector : Selector}

theorem ascending_positions (image : Addressing) (selector : Selector) :
    (positions image selector).Pairwise (· < ·) := by
  have all : (image.aspects.zipIdx.map (·.2)).Pairwise (· < ·) := by
    rw [List.zipIdx_map_snd]
    exact List.pairwise_lt_range'
  exact all.sublist (List.filter_sublist.map _)

theorem lt_of_mem_positions {position : Nat} (member : position ∈ positions image selector) :
    position < image.aspects.length := by
  obtain ⟨⟨aspect, place⟩, within, rfl⟩ := List.mem_map.mp member
  have found := List.mem_zipIdx_iff_getElem?.mp (List.mem_of_mem_filter within)
  exact (List.getElem?_eq_some_iff.mp found).1

theorem block_le {first second : Nat} (before : first < second) (image : Addressing) :
    (block image first).stop ≤ second * image.aspectSize := by
  have next := Nat.mul_le_mul_right image.aspectSize (Nat.succ_le_of_lt before)
  rw [Nat.succ_mul] at next
  exact next

theorem block_le_count {position : Nat} (member : position ∈ positions image selector) :
    (block image position).stop ≤ image.count := by
  rw [Addressing.count, Nat.mul_comm]
  exact block_le (lt_of_mem_positions member) image

/-! ## Holes between the spans -/

theorem level_stop_le {level : Nat} (bound : level < image.mipLevels.toNat) :
    level * image.mipSize + image.mipSize ≤ image.aspectSize := by
  have stop := Nat.mul_le_mul_right image.mipSize (Nat.succ_le_of_lt bound)
  rw [Nat.succ_mul, Nat.mul_comm image.mipLevels.toNat] at stop
  exact stop

theorem mipSize_pos (encloses : image.Encloses selector) : 0 < image.mipSize := by
  obtain ⟨-, some⟩ := Addressing.counts_pos encloses.admits
  have bound := encloses.arrayLayers
  rw [Addressing.mipSize]
  omega

theorem aspectSize_pos (encloses : image.Encloses selector) : 0 < image.aspectSize := by
  obtain ⟨some, -⟩ := Addressing.counts_pos encloses.admits
  have bound := encloses.mipLevels
  exact Nat.mul_pos (mipSize_pos encloses) (by omega)

/-- Whole aspects: those next to one another are joined, so a whole aspect lies in each hole. -/
theorem separate_joinTouching (encloses : image.Encloses selector) :
    Separate image.count (joinTouching (aspectSpans image selector)) := by
  have size := aspectSize_pos encloses
  have proper : ∀ span ∈ aspectSpans image selector, span.start < span.stop := by
    rw [aspectSpans, List.forall_mem_map]
    intro position _
    exact Nat.lt_add_of_pos_right size
  have ascending : (aspectSpans image selector).Pairwise
      fun earlier later => earlier.stop ≤ later.start := by
    rw [aspectSpans]
    refine List.pairwise_map.mpr ((ascending_positions image selector).imp ?_)
    intro first second before
    exact block_le before image
  obtain ⟨inhabited, apart⟩ := apart_joinTouching proper ascending
  refine ⟨inhabited, apart, ?_⟩
  intro joined member
  obtain ⟨-, last, isLast, stops⟩ := ends_of_mem_joinTouching member
  rw [aspectSpans] at isLast
  obtain ⟨position, within, rfl⟩ := List.mem_map.mp isLast
  exact stops ▸ block_le_count within

/-- The selected mip levels of each aspect: a level is left out of every aspect. -/
theorem separate_levels (encloses : image.Encloses selector)
    (fewer : selector.levelCount ≠ image.mipLevels) :
    Separate image.count ((aspectSpans image selector).map fun aspect =>
      ⟨aspect.start + selector.baseMipLevel.toNat * image.mipSize,
        aspect.start + selector.baseMipLevel.toNat * image.mipSize +
          selector.levelCount.toNat * image.mipSize⟩) := by
  have some := Nat.mul_pos (Addressing.counts_pos encloses.admits).1 (mipSize_pos encloses)
  have levels := encloses.mipLevels
  have missing : selector.levelCount.toNat < image.mipLevels.toNat := by
    have differ := mt UInt32.toNat_inj.mp fewer
    omega
  have hole := level_stop_le missing
  have stop := Nat.mul_le_mul_right image.mipSize levels
  rw [Nat.add_mul, Nat.mul_comm image.mipLevels.toNat] at stop
  change _ ≤ image.aspectSize at stop
  have size := mipSize_pos encloses
  rw [aspectSpans, List.map_map]
  refine ⟨?_, List.pairwise_map.mpr ((ascending_positions image selector).imp ?_), ?_⟩
  · rw [List.forall_mem_map]
    intro position _
    exact Nat.lt_add_of_pos_right some
  · intro first second before
    have next := block_le before image
    simp only [Function.comp_apply, block] at next ⊢
    omega
  · rw [List.forall_mem_map]
    intro position member
    have bound := block_le_count member
    simp only [Function.comp_apply, block] at bound ⊢
    omega

/-- The selected layers of each selected mip level: a layer is left out of every mip level. -/
theorem separate_layers (encloses : image.Encloses selector)
    (fewer : selector.layerCount ≠ image.arrayLayers) :
    Separate image.count ((aspectSpans image selector).flatMap fun aspect =>
      (List.range selector.levelCount.toNat).map fun level =>
        ⟨aspect.start + (selector.baseMipLevel.toNat + level) * image.mipSize +
            selector.baseArrayLayer.toNat,
          aspect.start + (selector.baseMipLevel.toNat + level) * image.mipSize +
            selector.baseArrayLayer.toNat + selector.layerCount.toNat⟩) := by
  obtain ⟨-, some⟩ := Addressing.counts_pos encloses.admits
  have layers := encloses.arrayLayers
  change _ ≤ image.mipSize at layers
  have missing : selector.layerCount.toNat < image.mipSize := by
    have differ := mt UInt32.toNat_inj.mp fewer
    rw [Addressing.mipSize] at layers ⊢
    omega
  have levelStop {level : Nat} (below : level < selector.levelCount.toNat) :
      (selector.baseMipLevel.toNat + level) * image.mipSize + image.mipSize ≤
        image.aspectSize := by
    have levels := encloses.mipLevels
    exact level_stop_le (by omega)
  rw [aspectSpans, List.flatMap_map]
  refine ⟨?_, List.pairwise_flatMap.mpr ⟨?_, (ascending_positions image selector).imp ?_⟩, ?_⟩
  · intro span member
    obtain ⟨position, -, within⟩ := List.mem_flatMap.mp member
    obtain ⟨level, -, rfl⟩ := List.mem_map.mp within
    exact Nat.lt_add_of_pos_right some
  · intro position _
    refine List.pairwise_map.mpr (List.pairwise_lt_range.imp ?_)
    intro first second before
    have next := Nat.mul_le_mul_right image.mipSize
      (Nat.add_le_add_left (Nat.succ_le_of_lt before) selector.baseMipLevel.toNat)
    rw [Nat.succ_eq_add_one, ← Nat.add_assoc, Nat.succ_mul] at next
    dsimp only
    omega
  · intro first second before early isEarly late isLate
    obtain ⟨firstLevel, firstBelow, rfl⟩ := List.mem_map.mp isEarly
    obtain ⟨secondLevel, -, rfl⟩ := List.mem_map.mp isLate
    have next := block_le before image
    have stop := levelStop (List.mem_range.mp firstBelow)
    simp only [block] at next ⊢
    omega
  · intro span member
    obtain ⟨position, inImage, within⟩ := List.mem_flatMap.mp member
    obtain ⟨level, below, rfl⟩ := List.mem_map.mp within
    have bound := block_le_count inImage
    have stop := levelStop (List.mem_range.mp below)
    simp only [block] at bound ⊢
    omega

theorem levelCount_ne_of_granularity (levelled : granularityOf image selector = .mipLevel) :
    selector.levelCount ≠ image.mipLevels := by
  intro whole
  rw [granularityOf, if_pos whole] at levelled
  split at levelled
  · cases levelled
  · cases levelled

theorem layerCount_ne_of_granularity (layered : granularityOf image selector = .arrayLayer) :
    selector.layerCount ≠ image.arrayLayers := by
  intro whole
  rw [granularityOf, if_pos whole] at layered
  split at layered
  · cases layered
  · cases layered

theorem separate_spansOf (encloses : image.Encloses selector) :
    Separate image.count (spansOf image selector) := by
  unfold spansOf
  cases granular : granularityOf image selector with
  | aspect => exact separate_joinTouching encloses
  | mipLevel => exact separate_levels encloses (levelCount_ne_of_granularity granular)
  | arrayLayer => exact separate_layers encloses (layerCount_ne_of_granularity granular)

end Sweep

end LayoutTracking
