import LayoutTracking.Proofs.SweepSteps

/-!
# Sweeps cover their selectors

A sweep produces the spans of its selector, or a beginning of them if a step fails. For a selector
inside an image whose subresources can be counted in a word none does: the sweep covers the indices of
what the selector names, with as few spans as there can be.
-/

set_option autoImplicit false

namespace LayoutTracking

namespace Sweep

variable {image : Addressing} {selector : Selector} {sweep : Sweep}

/-! ## What is left before the first step -/

theorem left_ofBlocks {blocks : List Block} (laidOut : LaidOut image selector blocks) :
    (ofBlocks image selector blocks).left = spansOf image selector := by
  have spans : (ofBlocks image selector blocks).pending =
      joined (granularityOf image selector = .aspect) (aspectSpans image selector) := by
    rw [← laidOut.spans]
    rfl
  have same : (ofBlocks image selector blocks).granularity = granularityOf image selector := rfl
  unfold spansOf
  cases granular : granularityOf image selector with
  | aspect =>
    rw [left_of_aspect (same.trans granular), spans, granular]
    rfl
  | mipLevel =>
    rw [left_of_mipLevel (same.trans granular), spans, granular]
    rfl
  | arrayLayer =>
    rw [left_of_unbegun (same.trans granular) rfl, spans, granular]
    simp only [List.range_eq_range']
    rfl

theorem left_ofSelector (admitted : image.admits selector = true)
    (made : ofSelector image selector = .ok sweep) :
    sweep.left = spansOf image selector ∧ sweep.Underway := by
  obtain ⟨blocks, rfl, laidOut⟩ := laidOut_of_ofSelector admitted made
  exact ⟨left_ofBlocks laidOut, fun _ => (Addressing.counts_pos admitted).1⟩

theorem sound_ofSelector (fits : image.count < UInt64.size) (encloses : image.Encloses selector)
    (made : ofSelector image selector = .ok sweep) : sweep.Sound := by
  obtain ⟨spans, underway⟩ := left_ofSelector encloses.admits made
  obtain ⟨blocks, rfl, laidOut⟩ := laidOut_of_ofSelector encloses.admits made
  refine ⟨Nat.lt_of_le_of_lt laidOut.few (by decide), ?_, underway, ?_⟩
  · exact Nat.le_trans encloses.mipLevels (Nat.le_of_lt image.mipLevels.toNat_lt)
  · rw [spans]
    intro span member
    exact Nat.lt_of_le_of_lt ((separate_spansOf encloses).inside span member) fits

end Sweep

/-! ## What a sweep produces -/

namespace Swept

open Sweep

variable {image : Addressing} {selector : Selector}

theorem ofSelector_of_not_admits (refused : image.admits selector = false) :
    ofSelector image selector = ⟨[], none⟩ := by
  rw [ofSelector, Sweep.ofSelector_of_not_admits refused, ofSweep,
    sound_nothing.run, left_of_pending_nil rfl]

theorem ofSelector_eq (fits : image.count < UInt64.size) (encloses : image.Encloses selector) :
    ofSelector image selector = ⟨spansOf image selector, none⟩ := by
  obtain ⟨sweep, made⟩ := exists_ofSelector fits selector
  rw [ofSelector, made, ofSweep, (sound_ofSelector fits encloses made).run,
    (left_ofSelector encloses.admits made).1]

/-- A sweep that fails has produced a beginning of the spans of its selector. -/
theorem spans_prefix (admitted : image.admits selector = true) :
    (ofSelector image selector).spans <+: spansOf image selector ∧
      ((ofSelector image selector).failure = none →
        (ofSelector image selector).spans = spansOf image selector) := by
  cases made : Sweep.ofSelector image selector with
  | error failure =>
    rw [ofSelector, made, ofSweep]
    exact ⟨List.nil_prefix, nofun⟩
  | ok sweep =>
    obtain ⟨spans, underway⟩ := left_ofSelector admitted made
    rw [ofSelector, made, ofSweep, ← spans]
    exact underway.run

/-- The sweep of a selector that the image encloses covers the index of a subresource of the image
exactly if the selector names the subresource. -/
theorem covers_iff (fits : image.count < UInt64.size) (encloses : image.Encloses selector)
    {subresource : Subresource} (has : image.Has subresource) :
    (∃ span ∈ (ofSelector image selector).spans, image.encode subresource ∈ span) ↔
      selector.Names subresource := by
  rw [ofSelector_eq fits encloses]
  exact spansOf_covers_iff encloses has

end Swept

/-- The spans are the indices of what a selector names of an image, in as few spans as it takes. -/
structure Covers (image : Addressing) (selector : Selector) (spans : List Span) : Prop
    extends Separate image.count spans where
  covers : ∀ index, (∃ span ∈ spans, index ∈ span) ↔
    ∃ subresource : Subresource, subresource.aspect ∈ image.aspects ∧
      selector.Names subresource ∧ image.encode subresource = index
  fewest : ∀ others : List Span,
    (∀ index, (∃ other ∈ others, index ∈ other) ↔ ∃ span ∈ spans, index ∈ span) →
      spans.length ≤ others.length

namespace Sweep

variable {image : Addressing} {selector : Selector}

theorem covers_spansOf (encloses : image.Encloses selector) :
    Covers image selector (spansOf image selector) := by
  have separate := separate_spansOf encloses
  refine ⟨separate, ?_, fun others => separate.length_le⟩
  intro index
  constructor
  · rintro ⟨span, member, inside⟩
    have bound := Nat.lt_of_lt_of_le inside.2 (separate.inside span member)
    obtain ⟨subresource, -, has, rfl⟩ := Addressing.exists_decode? bound
    exact ⟨subresource, has.aspect, (spansOf_covers_iff encloses has).mp ⟨span, member, inside⟩,
      rfl⟩
  · rintro ⟨subresource, isAspect, names, rfl⟩
    exact (spansOf_covers_iff encloses (encloses.has_of_names isAspect names)).mpr names

/-- The sweep of a selector produces the indices of what it names, and none for a selector that the
image does not admit. It fails for none of them if the subresources can be counted in a word. -/
theorem ofSelector_covers (image : Addressing) (selector : Selector) :
    (image.Encloses selector → let swept := Swept.ofSelector image selector
      (image.count < UInt64.size → swept.failure = none) ∧
        (swept.failure = none → Covers image selector swept.spans)) ∧
      (image.admits selector = false → Swept.ofSelector image selector = ⟨[], none⟩) := by
  refine ⟨fun encloses => ⟨fun fits => ?_, fun succeeds => ?_⟩, Swept.ofSelector_of_not_admits⟩
  · rw [Swept.ofSelector_eq fits encloses]
  · rw [(Swept.spans_prefix encloses.admits).2 succeeds]
    exact covers_spansOf encloses

/-- Of four aspects, one of them without a name, the last three are selected, with two of three mip
levels and two of three layers: six spans, one for each mip level of each aspect. -/
theorem ofSelector_covers_layers :
    let image : Addressing := ⟨⟨0x87⟩, 3, 3⟩
    let selector : Selector := ⟨⟨0x86⟩, 1, 2, 0, 2⟩
    image.Encloses selector ∧ image.count < UInt64.size ∧
      (Swept.ofSelector image selector).failure = none ∧
      Covers image selector [⟨12, 14⟩, ⟨15, 17⟩, ⟨21, 23⟩, ⟨24, 26⟩, ⟨30, 32⟩, ⟨33, 35⟩] := by
  intro image selector
  have encloses : image.Encloses selector := ⟨by decide, by decide, by decide, by decide⟩
  have fits : image.count < UInt64.size := by decide
  have produced : Swept.ofSelector image selector =
      ⟨[⟨12, 14⟩, ⟨15, 17⟩, ⟨21, 23⟩, ⟨24, 26⟩, ⟨30, 32⟩, ⟨33, 35⟩], none⟩ := by
    rw [Swept.ofSelector_eq fits encloses]
    decide
  obtain ⟨succeeds, covers⟩ := (ofSelector_covers image selector).1 encloses
  refine ⟨encloses, fits, succeeds fits, ?_⟩
  have covered := covers (succeeds fits)
  rwa [produced] at covered

end Sweep

end LayoutTracking
