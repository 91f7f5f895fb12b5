import LayoutTracking.Layout.Device
import LayoutTracking.Proofs.SweepCoverage

/-!
# What an image accepts

The check of a selector sees a run of levels or layers cut at the largest number of 32 bits. It is
exact unless such a run goes past that number, in an image that reaches up to it. The check of a
subresource goes by the bits of the mask, and is exact unless several of these have no name.
-/

set_option autoImplicit false

namespace LayoutTracking.Addressing

variable {image : Addressing} {selector : Selector}

/-! ## Selectors -/

/-- The run goes past the largest number of 32 bits, and the numbers of the image up to it. Cut
there, the run seems to stay inside. -/
def CutShort (total base count : UInt32) : Prop :=
  total = remaining ∧ remaining.toNat < base.toNat + count.toNat

instance (total base count : UInt32) : Decidable (CutShort total base count) :=
  inferInstanceAs (Decidable (_ ∧ _))

theorem runStop_le_iff {total base count : UInt32} :
    runStop base count ≤ total.toNat ↔
      base.toNat + count.toNat ≤ total.toNat ∨ CutShort total base count := by
  have largest : remaining.toNat = 4294967295 := rfl
  have bound := total.toNat_lt
  rw [runStop, CutShort, ← UInt32.toNat_inj]
  omega

theorem CutShort.not_le {total base count : UInt32} (cut : CutShort total base count) :
    ¬ base.toNat + count.toNat ≤ total.toNat := by
  obtain ⟨rfl, past⟩ := cut
  exact Nat.not_le_of_lt past

theorem admits_iff :
    image.admits selector = true ↔
      selector.isEmpty = false ∧ image.mask.contains selector.aspects = true ∧
        (selector.baseMipLevel.toNat + selector.levelCount.toNat ≤ image.mipLevels.toNat ∨
          CutShort image.mipLevels selector.baseMipLevel selector.levelCount) ∧
        (selector.baseArrayLayer.toNat + selector.layerCount.toNat ≤ image.arrayLayers.toNat ∨
          CutShort image.arrayLayers selector.baseArrayLayer selector.layerCount) := by
  rw [← runStop_le_iff, ← runStop_le_iff, admits]
  simp only [Bool.and_eq_true, Bool.not_eq_true', decide_eq_true_iff, and_assoc]
  exact Iff.rfl

/-- The selector would be inside the image, were it not for a run that is cut short. -/
structure Overlooks (image : Addressing) (selector : Selector) : Prop where
  inhabited : selector.isEmpty = false
  aspects : image.mask.contains selector.aspects = true
  mipLevels : selector.baseMipLevel.toNat + selector.levelCount.toNat ≤ image.mipLevels.toNat ∨
    CutShort image.mipLevels selector.baseMipLevel selector.levelCount
  arrayLayers :
    selector.baseArrayLayer.toNat + selector.layerCount.toNat ≤ image.arrayLayers.toNat ∨
      CutShort image.arrayLayers selector.baseArrayLayer selector.layerCount
  cut : CutShort image.mipLevels selector.baseMipLevel selector.levelCount ∨
    CutShort image.arrayLayers selector.baseArrayLayer selector.layerCount

theorem Overlooks.admits (overlooks : image.Overlooks selector) : image.admits selector = true :=
  admits_iff.mpr ⟨overlooks.inhabited, overlooks.aspects, overlooks.mipLevels,
    overlooks.arrayLayers⟩

theorem Overlooks.not_encloses (overlooks : image.Overlooks selector) :
    ¬ image.Encloses selector := by
  intro encloses
  rcases overlooks.cut with levels | layers
  · exact levels.not_le encloses.mipLevels
  · exact layers.not_le encloses.arrayLayers

theorem encloses_of_admits (admitted : image.admits selector = true)
    (exact : ¬ image.Overlooks selector) : image.Encloses selector := by
  obtain ⟨inhabited, aspects, levels, layers⟩ := admits_iff.mp admitted
  have uncut := fun cut => exact ⟨inhabited, aspects, levels, layers, cut⟩
  exact ⟨inhabited, aspects, levels.resolve_right fun cut => uncut (.inl cut),
    layers.resolve_right fun cut => uncut (.inr cut)⟩

/-- The check lets through what the image encloses, and besides that only what it overlooks. Of
anything but this a sweep keeps to what the selector names, as far as it comes. -/
theorem admits_exact (image : Addressing) (selector : Selector) :
    ((image.admits selector = true ↔ image.Encloses selector) ↔ ¬ image.Overlooks selector) ∧
      (¬ image.Overlooks selector →
        ∀ span ∈ (Swept.ofSelector image selector).spans, ∀ index ∈ span,
          index < image.count ∧
            ∃ subresource, image.decode? index = some subresource ∧
              selector.Names subresource) := by
  refine ⟨⟨?_, ?_⟩, ?_⟩
  · intro same overlooks
    exact overlooks.not_encloses (same.mp overlooks.admits)
  · intro exact
    exact ⟨fun admitted => encloses_of_admits admitted exact, Encloses.admits⟩
  · intro exact span member index inside
    cases admitted : image.admits selector with
    | false =>
      rw [Swept.ofSelector_of_not_admits admitted] at member
      cases member
    | true =>
      have encloses := encloses_of_admits admitted exact
      have isSpan := (Swept.spans_prefix admitted).1.subset member
      have separate := Sweep.separate_spansOf encloses
      have bound := Nat.lt_of_lt_of_le inside.2 (separate.inside span isSpan)
      obtain ⟨subresource, found, has, rfl⟩ := exists_decode? bound
      exact ⟨bound, subresource, found,
        (Sweep.spansOf_covers_iff encloses has).mp ⟨span, isSpan, inside⟩⟩

/-- A selector of the second aspect from the second mip level on, of an image with as many levels as
can be. -/
theorem admits_exact_of_most_levels :
    let image : Addressing := ⟨⟨3⟩, remaining, 2⟩
    let selector : Selector := ⟨⟨2⟩, 1, 4294967294, 0, 2⟩
    ¬ image.Overlooks selector ∧ image.Encloses selector ∧
      ∀ span ∈ (Swept.ofSelector image selector).spans, ∀ index ∈ span,
        index < image.count ∧
          ∃ subresource, image.decode? index = some subresource ∧ selector.Names subresource := by
  intro image selector
  obtain ⟨check, sweeps⟩ := admits_exact image selector
  have exact : ¬ image.Overlooks selector := fun overlooks => absurd overlooks.cut (by decide)
  exact ⟨exact, (check.mpr exact).mp (by decide), sweeps exact⟩

/-- Five levels past the last one are swept, since the run of levels is cut where the image ends. -/
theorem overlooks_levels_past_last :
    let image : Addressing := ⟨.color, remaining, 1⟩
    let selector : Selector := ⟨.color, 5, 4294967294, 0, 1⟩
    image.admits selector = true ∧ ¬ image.Encloses selector ∧
      image.count = 4294967295 ∧
      Swept.ofSelector image selector = ⟨[⟨5, 4294967299⟩], none⟩ := by
  intro image selector
  refine ⟨by decide, ?_, by decide, by decide +kernel⟩
  exact fun encloses => absurd encloses.mipLevels (by decide)

/-! ## Subresources -/

variable {subresource : Subresource}

end LayoutTracking.Addressing
