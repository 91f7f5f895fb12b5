import LayoutTracking.Proofs.Selectors

/-!
# Resolved selectors

To resolve a selector for an image twice is to resolve it once, and the resolved selector names what
the given one means: everything from a base on where a count is open, also in an image whose own
count is as large as counts get, and for colour the planes of a multi-planar image.
-/

set_option autoImplicit false

namespace LayoutTracking

theorem Aspects.contains_iff_mem {outer aspect : Aspects} {bit : Nat}
    (only : ∀ other, other ∈ aspect ↔ other = bit) :
    outer.contains aspect = true ↔ bit ∈ outer := by
  rw [contains_iff]
  constructor
  · intro within
    exact within bit ((only bit).mpr rfl)
  · intro member other isOther
    rw [(only other).mp isOther]
    exact member

namespace Addressing

/-- A count can resolve to the largest one there is, which means what remains. That count resolves
to itself again. -/
theorem resolveCount_resolveCount (total base count : UInt32) :
    resolveCount total base (resolveCount total base count) = resolveCount total base count := by
  by_cases widest : resolveCount total base count = remaining
  · by_cases given : count = remaining
    · rw [given] at widest ⊢
      rw [widest, widest]
    · rw [show resolveCount total base count = count from if_neg given]
      exact if_neg given
  · exact if_neg widest

theorem not_contains_color_of_planes (aspects mask : Aspects) :
    ((aspects.without .color).union (mask.inter .allPlanes)).contains .color = false := by
  rw [Bool.eq_false_iff, Ne, Aspects.contains_iff]
  intro colored
  have isColor : 0 ∈ Aspects.color := Aspects.mem_iff.mpr (by decide)
  have member := colored 0 isColor
  rw [Aspects.mem_union, Aspects.mem_without, Aspects.mem_inter] at member
  rcases member with ⟨-, other⟩ | ⟨-, plane⟩
  · exact other isColor
  · exact absurd (Aspects.mem_iff.mp plane) (by decide)

@[simp] theorem normalize_normalize (image : Addressing) (selector : Selector) :
    image.normalize (image.normalize selector) = image.normalize selector := by
  rw [normalize, normalize]
  simp only [resolveCount_resolveCount, Selector.mk.injEq, and_true]
  by_cases planes : (image.mask.isMultiPlanar && selector.aspects.contains .color) = true
  · rw [if_pos planes, not_contains_color_of_planes, Bool.and_false, if_neg Bool.false_ne_true]
  · rw [if_neg planes, if_neg planes]

/-! ## What a selector means -/

/-- From the base on, as many places as the count says, or all there are. -/
def InRun (base count place : UInt32) : Prop :=
  base ≤ place ∧ (count = remaining ∨ place.toNat < base.toNat + count.toNat)

/-- What a selector means for an image before it is resolved. -/
structure Selects (image : Addressing) (selector : Selector) (subresource : Subresource) : Prop where
  aspect : selector.aspects.contains subresource.aspect = true ∨
    selector.aspects.contains .color = true ∧
      image.mask.contains subresource.aspect = true ∧
      Aspects.allPlanes.contains subresource.aspect = true
  mipLevel : InRun selector.baseMipLevel selector.levelCount subresource.mipLevel
  arrayLayer : InRun selector.baseArrayLayer selector.layerCount subresource.arrayLayer

variable {image : Addressing} {subresource : Subresource}

/-- Up to a base past the end nothing remains, and the run is empty as it should be. -/
theorem mem_resolved_iff (base count : UInt32) {total place : UInt32}
    (bound : place.toNat < total.toNat) :
    place.toNat ∈ (⟨base.toNat, base.toNat + (resolveCount total base count).toNat⟩ : Span) ↔
      InRun base count place := by
  rw [Span.mem_iff, InRun, UInt32.le_iff_toNat_le, resolveCount]
  by_cases isOpen : count = remaining
  · have size := total.toNat_lt
    have fits : (UInt32.ofNat (total.toNat - base.toNat)).toNat = total.toNat - base.toNat :=
      UInt32.toNat_ofNat_of_lt' (Nat.lt_of_le_of_lt (Nat.sub_le _ _) size)
    rw [if_pos isOpen, fits]
    simp only [isOpen, true_or, and_true]
    omega
  · rw [if_neg isOpen]
    simp only [isOpen, false_or]

/-- Colour of a multi-planar image is never named: its planes are, in its place. -/
theorem contains_normalize_iff (has : image.Has subresource) (selector : Selector) :
    (image.normalize selector).aspects.contains subresource.aspect = true ↔
      (selector.aspects.contains subresource.aspect = true ∨
          selector.aspects.contains .color = true ∧
            image.mask.contains subresource.aspect = true ∧
            Aspects.allPlanes.contains subresource.aspect = true) ∧
        ¬ (image.mask.isMultiPlanar = true ∧ subresource.aspect = .color) := by
  have single := Aspects.isSingle_of_mem_singles has.aspect
  have within := Aspects.contains_of_mem_singles has.aspect
  have isColor : Aspects.contains .color subresource.aspect = true ↔
      subresource.aspect = .color := Aspects.contains_iff_eq rfl single
  obtain ⟨bit, only⟩ := Aspects.isSingle_iff.mp single
  rw [← isColor]
  simp only [Aspects.contains_iff_mem only] at within ⊢
  by_cases planes : (image.mask.isMultiPlanar && selector.aspects.contains .color) = true
  · obtain ⟨multiPlanar, colored⟩ := Bool.and_eq_true_iff.mp planes
    have colorNoPlane : bit ∈ Aspects.color → bit ∉ Aspects.allPlanes := by
      intro inColor
      rw [(Aspects.mem_ofBit (by decide : 0 < 32) bit).mp inColor, Aspects.mem_iff]
      decide
    rw [normalize, if_pos planes, Aspects.mem_union, Aspects.mem_without, Aspects.mem_inter]
    simp only [within, multiPlanar, colored, true_and]
    constructor
    · rintro (⟨selected, other⟩ | plane)
      · exact ⟨.inl selected, other⟩
      · exact ⟨.inr plane, fun inColor => colorNoPlane inColor plane⟩
    · rintro ⟨selected | plane, other⟩
      · exact .inl ⟨selected, other⟩
      · exact .inr plane
  · rw [normalize, if_neg planes]
    constructor
    · intro selected
      refine ⟨.inl selected, fun colored => planes (Bool.and_eq_true_iff.mpr ⟨colored.1, ?_⟩)⟩
      have same : subresource.aspect = .color :=
        isColor.mp ((Aspects.contains_iff_mem only).mpr colored.2)
      rw [← same]
      exact (Aspects.contains_iff_mem only).mpr selected
    · rintro ⟨selected | ⟨colored, -, plane⟩, -⟩
      · exact selected
      · refine absurd (Bool.and_eq_true_iff.mpr ⟨?_, colored⟩) planes
        rw [Aspects.isMultiPlanar, Bool.not_eq_true', Bool.eq_false_iff]
        intro noPlane
        exact Aspects.isEmpty_iff.mp noPlane bit (Aspects.mem_inter.mpr ⟨within, plane⟩)

/-- Of an image that has no colour beside its planes, the resolved selector names what the selector
means, and to resolve it again changes nothing. -/
theorem normalize_means (image : Addressing)
    (unmixed : ¬ (image.mask.contains .color = true ∧ image.mask.isMultiPlanar = true))
    (selector : Selector) :
    image.normalize (image.normalize selector) = image.normalize selector ∧
      ∀ subresource, image.Has subresource →
        ((image.normalize selector).Names subresource ↔ image.Selects selector subresource) := by
  refine ⟨normalize_normalize image selector, fun subresource has => ?_⟩
  have notMixed : ¬ (image.mask.isMultiPlanar = true ∧ subresource.aspect = .color) := by
    rintro ⟨multiPlanar, colored⟩
    exact unmixed ⟨colored ▸ Aspects.contains_of_mem_singles has.aspect, multiPlanar⟩
  have aspects := contains_normalize_iff has selector
  rw [and_iff_left notMixed] at aspects
  have levels := mem_resolved_iff selector.baseMipLevel selector.levelCount has.mipLevel
  have layers := mem_resolved_iff selector.baseArrayLayer selector.layerCount has.arrayLayer
  constructor
  · intro names
    exact ⟨aspects.mp names.aspect, levels.mp names.mipLevel, layers.mp names.arrayLayer⟩
  · intro selects
    exact ⟨aspects.mpr selects.aspect, levels.mpr selects.mipLevel, layers.mpr selects.arrayLayer⟩

/-- Colour at every level, of an image of two planes with as many levels as can be: the count is
open, resolved or not. From the base of the layers on none is left. -/
theorem normalize_means_of_planes :
    let image : Addressing := ⟨⟨0x30⟩, remaining, 6⟩
    let selector : Selector := ⟨.color, 0, remaining, 9, remaining⟩
    ¬ (image.mask.contains .color = true ∧ image.mask.isMultiPlanar = true) ∧
      image.normalize (image.normalize selector) = image.normalize selector ∧
      (∀ subresource, image.Has subresource →
        ((image.normalize selector).Names subresource ↔ image.Selects selector subresource)) ∧
      image.normalize selector = ⟨⟨0x30⟩, 0, remaining, 9, 0⟩ := by
  intro image selector
  have unmixed : ¬ (image.mask.contains .color = true ∧ image.mask.isMultiPlanar = true) := by
    decide
  obtain ⟨again, means⟩ := normalize_means image unmixed selector
  exact ⟨unmixed, again, means, by decide⟩

end Addressing

end LayoutTracking
