import LayoutTracking.Proofs.Acceptance

/-!
# The order of a sweep

The spans of a sweep come in ascending order, also where a run of its selector is cut short and the
sweep leaves the image, or fails on the way.
-/

set_option autoImplicit false

namespace LayoutTracking.Sweep

variable {image : Addressing} {selector : Selector}

/-! ## Runs that an image admits -/

/-- A run that is cut short may stop past the image, but it is no longer than the image. -/
theorem count_le_of_run {total base count : UInt32}
    (run : base.toNat + count.toNat ≤ total.toNat ∨ Addressing.CutShort total base count) :
    count.toNat ≤ total.toNat := by
  cases run with
  | inl inside => omega
  | inr cut =>
    rw [cut.1]
    exact Nat.le_of_lt_succ count.toNat_lt

theorem levelCount_le (admitted : image.admits selector = true) :
    selector.levelCount.toNat ≤ image.mipLevels.toNat :=
  count_le_of_run (Addressing.admits_iff.mp admitted).2.2.1

theorem layerCount_le (admitted : image.admits selector = true) :
    selector.layerCount.toNat ≤ image.mipSize :=
  count_le_of_run (Addressing.admits_iff.mp admitted).2.2.2

theorem levels_le_aspectSize {count : Nat} (bound : count ≤ image.mipLevels.toNat) :
    count * image.mipSize ≤ image.aspectSize := by
  rw [Addressing.aspectSize, Nat.mul_comm image.mipSize]
  exact Nat.mul_le_mul_right image.mipSize bound

theorem pairwise_aspectSpans (image : Addressing) (selector : Selector) :
    (aspectSpans image selector).Pairwise fun earlier later =>
      earlier.start + image.aspectSize ≤ later.start := by
  rw [aspectSpans]
  exact List.pairwise_map.mpr ((ascending_positions image selector).imp fun before =>
    block_le before image)

theorem stop_of_mem_aspectSpans {span : Span} (member : span ∈ aspectSpans image selector) :
    span.stop = span.start + image.aspectSize := by
  rw [aspectSpans] at member
  obtain ⟨position, -, rfl⟩ := List.mem_map.mp member
  rfl

/-! ## Ascending -/

theorem ascends_joined (admitted : image.admits selector = true) :
    (joinTouching (aspectSpans image selector)).Pairwise fun earlier later =>
      earlier.stop ≤ later.start := by
  have positive := Addressing.counts_pos admitted
  have levels := levelCount_le admitted
  have layers := layerCount_le admitted
  have size : 0 < image.aspectSize := Nat.mul_pos (by omega) (by omega)
  have proper : ∀ span ∈ aspectSpans image selector, span.start < span.stop := by
    intro span member
    rw [stop_of_mem_aspectSpans member]
    exact Nat.lt_add_of_pos_right size
  have ascending : (aspectSpans image selector).Pairwise fun earlier later =>
      earlier.stop ≤ later.start :=
    (pairwise_aspectSpans image selector).imp_of_mem fun isEarlier _ before =>
      (stop_of_mem_aspectSpans isEarlier).trans_le before
  exact (apart_joinTouching proper ascending).2.imp Nat.le_of_lt

/-- The levels of an aspect, wherever they begin in it, stop before those of the next one begin. -/
theorem ascends_levels (admitted : image.admits selector = true) :
    ((aspectSpans image selector).map fun aspect => (⟨aspect.start +
        selector.baseMipLevel.toNat * image.mipSize, aspect.start +
        selector.baseMipLevel.toNat * image.mipSize +
          selector.levelCount.toNat * image.mipSize⟩ : Span)).Pairwise
      fun earlier later => earlier.stop ≤ later.start := by
  refine List.pairwise_map.mpr ((pairwise_aspectSpans image selector).imp fun before => ?_)
  have size := levels_le_aspectSize (levelCount_le admitted)
  dsimp only
  omega

theorem ascends_layers (admitted : image.admits selector = true) :
    ((aspectSpans image selector).flatMap fun aspect =>
      (List.range selector.levelCount.toNat).map fun level => (⟨aspect.start +
          (selector.baseMipLevel.toNat + level) * image.mipSize + selector.baseArrayLayer.toNat,
        aspect.start + (selector.baseMipLevel.toNat + level) * image.mipSize +
          selector.baseArrayLayer.toNat + selector.layerCount.toNat⟩ : Span)).Pairwise
      fun earlier later => earlier.stop ≤ later.start := by
  have layers := layerCount_le admitted
  refine List.pairwise_flatMap.mpr ⟨?_, (pairwise_aspectSpans image selector).imp ?_⟩
  · intro aspect _
    refine List.pairwise_map.mpr (List.pairwise_lt_range.imp fun before => ?_)
    have next := Nat.mul_le_mul_right image.mipSize
      (Nat.add_le_add_left (Nat.succ_le_of_lt before) selector.baseMipLevel.toNat)
    rw [Nat.succ_eq_add_one, ← Nat.add_assoc, Nat.succ_mul] at next
    dsimp only
    omega
  · intro first second before early isEarly late isLate
    obtain ⟨firstLevel, below, rfl⟩ := List.mem_map.mp isEarly
    obtain ⟨secondLevel, -, rfl⟩ := List.mem_map.mp isLate
    have size := levels_le_aspectSize
      (Nat.le_trans (Nat.succ_le_of_lt (List.mem_range.mp below)) (levelCount_le admitted))
    rw [Nat.succ_mul] at size
    rw [Nat.add_mul, Nat.add_mul]
    dsimp only
    omega

theorem spansOf_ascends (admitted : image.admits selector = true) :
    (spansOf image selector).Pairwise fun earlier later => earlier.stop ≤ later.start := by
  unfold spansOf
  cases granularityOf image selector with
  | aspect => exact ascends_joined admitted
  | mipLevel => exact ascends_levels admitted
  | arrayLayer => exact ascends_layers admitted

/-! ## Sweeps on their way -/

/-- The sweeps that there can be: of nothing or of a selector, stepped or not. -/
inductive Made : Sweep → Prop where
  | nothing : Made nothing
  | ofSelector {image : Addressing} {selector : Selector} {sweep : Sweep} :
      ofSelector image selector = .ok sweep → Made sweep
  | next {sweep rest : Sweep} {answer : Option Span} :
      Made sweep → sweep.next = .ok (answer, rest) → Made rest

/-- Each span that is left begins where those before it have stopped, or later. -/
structure Ascends (sweep : Sweep) : Prop where
  underway : sweep.Underway
  left : sweep.left.Pairwise fun earlier later => earlier.stop ≤ later.start

theorem ascends_nothing : nothing.Ascends := ⟨sound_nothing.underway, .nil⟩

theorem Ascends.next {sweep rest : Sweep} {answer : Option Span} (ascends : sweep.Ascends)
    (stepped : sweep.next = .ok (answer, rest)) : rest.Ascends := by
  cases answer with
  | none =>
    obtain ⟨-, rfl⟩ := pending_of_next stepped
    exact ascends
  | some span =>
    obtain ⟨onward, underway⟩ := left_of_next ascends.underway stepped
    have ascending := ascends.left
    rw [onward] at ascending
    exact ⟨underway, ascending.of_cons⟩

theorem ofSelector_ascends {sweep : Sweep} (made : ofSelector image selector = .ok sweep) :
    sweep.Ascends := by
  cases admitted : image.admits selector with
  | false =>
    cases made.symm.trans (ofSelector_of_not_admits admitted)
    exact ascends_nothing
  | true =>
    obtain ⟨spans, underway⟩ := left_ofSelector admitted made
    exact ⟨underway, spans ▸ spansOf_ascends admitted⟩

theorem Made.ascends {sweep : Sweep} (made : sweep.Made) : sweep.Ascends := by
  induction made with
  | nothing => exact ascends_nothing
  | ofSelector made => exact ofSelector_ascends made
  | next _ stepped ih => exact ih.next stepped

theorem Ascends.run {sweep : Sweep} (ascends : sweep.Ascends) :
    sweep.run.spans.Pairwise fun earlier later => earlier.stop ≤ later.start :=
  ascends.left.sublist ascends.underway.run.1.sublist

theorem ascends_spans (image : Addressing) (selector : Selector) :
    (Swept.ofSelector image selector).spans.Pairwise fun earlier later =>
      earlier.stop ≤ later.start := by
  cases made : ofSelector image selector with
  | error failure =>
    rw [Swept.ofSelector, made]
    exact .nil
  | ok sweep =>
    rw [Swept.ofSelector, made]
    exact (ofSelector_ascends made).run

end LayoutTracking.Sweep
