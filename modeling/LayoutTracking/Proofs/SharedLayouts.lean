import LayoutTracking.Proofs.DeviceLayouts

/-!
# Shared device-wide layouts

Images that write to one map have the same subresources at the same indices, through however many
aliases they came to share it. A layout set on one of them is seen by all of them, at the
subresources that were selected, and by no other image.
-/

set_option autoImplicit false

namespace LayoutTracking

/-! ## Selectors that fit an image -/

theorem Selector.not_names_of_isEmpty {selector : Selector} (isEmpty : selector.isEmpty = true)
    {subresource : Subresource} (single : subresource.aspect.isSingle = true) :
    ¬ selector.Names subresource := by
  intro named
  simp only [Selector.isEmpty, Bool.or_eq_true, beq_iff_eq] at isEmpty
  rcases isEmpty with (noAspects | noLevels) | noLayers
  · obtain ⟨bit, only⟩ := Aspects.isSingle_iff.mp single
    have within := Aspects.contains_iff.mp named.aspect bit ((only bit).mpr rfl)
    exact Aspects.isEmpty_iff.mp noAspects bit within
  · have bounds := named.mipLevel
    rw [noLevels] at bounds
    exact Nat.not_lt_of_le bounds.1 bounds.2
  · have bounds := named.arrayLayer
    rw [noLayers] at bounds
    exact Nat.not_lt_of_le bounds.1 bounds.2

/-- The selector, its counts resolved, goes nowhere past the image, though it may select nothing. -/
structure Addressing.Fits (image : Addressing) (selector : Selector) : Prop where
  aspects : image.mask.contains selector.aspects = true
  mipLevels : selector.baseMipLevel.toNat + selector.levelCount.toNat ≤ image.mipLevels.toNat
  arrayLayers : selector.baseArrayLayer.toNat + selector.layerCount.toNat ≤
    image.arrayLayers.toNat

theorem Addressing.Fits.encloses {image : Addressing} {selector : Selector}
    (fits : image.Fits selector) (inhabited : selector.isEmpty = false) : image.Encloses selector :=
  ⟨inhabited, fits.aspects, fits.mipLevels, fits.arrayLayers⟩

/-- The sweep of a selector that ends inside the image comes to its end. -/
theorem Swept.ofSelector_succeeds {image : Addressing} {selector : Selector}
    (few : image.count < UInt64.size) (fits : image.Fits selector) :
    (ofSelector image selector).failure = none := by
  cases isEmpty : selector.isEmpty with
  | true => rw [ofSelector_of_not_admits (Addressing.not_admits_of_isEmpty isEmpty)]
  | false => rw [ofSelector_eq few (fits.encloses isEmpty)]

namespace Device

variable {device : Device} {image other : Image}

theorem shares_iff : shares image other = true ↔ image.layoutMap = other.layoutMap := beq_iff_eq

/-! ## Images of one map -/

/-- Images share a map only if an index of it means the same subresource of both. -/
def Matched (device : Device) : Prop :=
  ∀ image ∈ device.images, ∀ other ∈ device.images, shares image other = true →
    image.addressing = other.addressing

theorem Matched.of_images {later : Device} (matched : device.Matched)
    (same : later.images = device.images) : later.Matched := by
  rw [Matched, same]
  exact matched

/-- One more image can only disagree with the images that it shares its map with. -/
theorem Matched.of_concat {later : Device} (matched : device.Matched)
    (images : later.images = device.images ++ [image])
    (agrees : ∀ other ∈ device.images, shares other image = true →
      other.addressing = image.addressing) : later.Matched := by
  intro left leftMember right rightMember shared
  rw [images] at leftMember rightMember
  rcases List.mem_append.mp leftMember with leftEarlier | leftNew
  · rcases List.mem_append.mp rightMember with rightEarlier | rightNew
    · exact matched left leftEarlier right rightEarlier shared
    · obtain rfl := List.mem_singleton.mp rightNew
      exact agrees left leftEarlier shared
  · obtain rfl := List.mem_singleton.mp leftNew
    rcases List.mem_append.mp rightMember with rightEarlier | rightNew
    · exact (agrees right rightEarlier (shares_iff.mpr (shares_iff.mp shared).symm)).symm
    · rw [List.mem_singleton.mp rightNew]

/-- The map of a new image is behind all others, so that no other image has it. -/
theorem Matched.createImage (matched : device.Matched) (sound : device.Sound) (info : ImageInfo)
    (fits : info.addressing.count < UInt64.size) (threshold : Nat) :
    (device.createImage info fits threshold).2.Matched := by
  refine matched.of_concat (createImage_images device info fits threshold)
    fun other member shared => ?_
  have placed := sound.placed other member
  rw [shares_iff, createImage_layoutMap] at shared
  exact absurd shared (Nat.ne_of_lt placed)

theorem Matched.createAlias (matched : device.Matched) (sound : device.Sound) {aliased : Image}
    (member : aliased ∈ device.images) (info : ImageInfo)
    (fits : info.addressing.count < UInt64.size) (threshold : Nat) :
    (device.createAlias info fits threshold aliased).2.Matched := by
  unfold Device.createAlias
  split
  · next alike =>
    refine matched.of_concat rfl fun other within shared => ?_
    exact (matched other within aliased member shared).trans alike.symm
  · exact matched.createImage sound info fits threshold

theorem Reachable.matched (reachable : device.Reachable) : device.Matched := by
  induction reachable with
  | empty => exact nofun
  | createImage info fits threshold earlier ih =>
    exact ih.createImage earlier.sound info fits threshold
  | createAlias info fits threshold earlier member ih =>
    exact ih.createAlias earlier.sound member info fits threshold
  | setSpans spans layout _ _ ih => exact ih.of_images rfl
  | setLayout selector layout _ _ ih => exact ih.of_images (setLayout_images _ _ selector layout)
  | write operations _ _ _ ih => exact ih.of_images rfl

/-! ## Who sees a layout -/

theorem layoutOf?_of_shared (shared : other.layoutMap = image.layoutMap)
    (alike : other.addressing = image.addressing) (device : Device) (subresource : Subresource) :
    device.layoutOf? other subresource = device.layoutOf? image subresource := by
  rw [layoutOf?, layoutOf?, alike, layoutAt?, layoutAt?, layoutMap_of_shared shared]

theorem layoutOf?_setLayout_of_apart (apart : other.layoutMap ≠ image.layoutMap) (device : Device)
    (selector : Selector) (layout : ImageLayout) (subresource : Subresource) :
    (device.setLayout image selector layout).device.layoutOf? other subresource =
      device.layoutOf? other subresource := by
  rw [setLayout_eq]
  split
  · rw [layoutOf?, layoutOf?, layoutAt?, layoutAt?, setSwept, Device.setSpans,
      layoutMap_putMap_of_ne apart]
  · rfl

theorem setLayout_device_of_isEmpty {selector : Selector}
    (isEmpty : (image.addressing.normalize selector).isEmpty = true) (device : Device)
    (layout : ImageLayout) : (device.setLayout image selector layout).device = device := by
  rw [setLayout_eq, Addressing.not_admits_of_isEmpty isEmpty, if_neg Bool.false_ne_true]

theorem setsOnly_setLayout_of_fits (reachable : device.Reachable) (member : image ∈ device.images)
    {selector : Selector} (layout : ImageLayout)
    (fits : image.addressing.Fits (image.addressing.normalize selector)) :
    SetsOnly device (device.setLayout image selector layout).device image layout
      (image.addressing.normalize selector).Names := by
  cases isEmpty : (image.addressing.normalize selector).isEmpty with
  | false => exact setsOnly_setLayout reachable member layout (fits.encloses isEmpty)
  | true =>
    rw [setLayout_device_of_isEmpty isEmpty]
    refine ⟨fun subresource has named => ?_, fun _ _ _ => rfl⟩
    exact absurd named
      (Selector.not_names_of_isEmpty isEmpty (Aspects.isSingle_of_mem_singles has.aspect))

/-- A layout set on an image is set, at what was selected, on every image of the same map, for these
are all alike. On every other image, and at all else, each layout is what it was. -/
theorem setLayout_seen_by_sharers (reachable : device.Reachable) :
    device.Matched ∧ ∀ image ∈ device.images, ∀ (selector : Selector) (layout : ImageLayout),
      image.addressing.Fits (image.addressing.normalize selector) →
        (device.setLayout image selector layout).failure = none ∧ ∀ other ∈ device.images,
          SetsOnly device (device.setLayout image selector layout).device other layout
            fun subresource => shares other image = true ∧
              (image.addressing.normalize selector).Names subresource := by
  refine ⟨reachable.matched, fun image member selector layout fits =>
    ⟨setLayout_succeeds (Swept.ofSelector_succeeds image.addressing_fits fits) device layout,
      fun other within => ?_⟩⟩
  cases shared : shares other image with
  | true =>
    have sameMap := shares_iff.mp shared
    have alike := reachable.matched other within image member shared
    have sets := setsOnly_setLayout_of_fits reachable member layout fits
    constructor
    · intro subresource has chosen
      rw [layoutOf?_of_shared sameMap alike]
      exact sets.chosen subresource (alike ▸ has) chosen.2
    · intro subresource has rest
      rw [layoutOf?_of_shared sameMap alike, layoutOf?_of_shared sameMap alike]
      exact sets.rest subresource (alike ▸ has) fun named => rest ⟨rfl, named⟩
  | false =>
    have apart := mt shares_iff.mpr (Bool.eq_false_iff.mp shared)
    constructor
    · intro subresource has chosen
      exact absurd chosen.1 Bool.false_ne_true
    · intro subresource has rest
      exact layoutOf?_setLayout_of_apart apart device selector layout subresource

/-- An alias, an alias of that, and an image of the same size that has its layers as levels. -/
theorem setLayout_seen_through_chain :
    let info : ImageInfo := ⟨.color, 1, 4, .undefined, none⟩
    let first := Device.empty.createImage info (by decide) 16
    let second := first.2.createAlias info (by decide) 16 first.1
    let third := second.2.createAlias info (by decide) 16 second.1
    let turned := third.2.createAlias { info with mipLevels := 4, arrayLayers := 1 } (by decide) 16
      third.1
    let selector : Selector := ⟨.color, 0, remaining, 1, 2⟩
    turned.2.Reachable ∧ first.1 ∈ turned.2.images ∧
      first.1.addressing.Fits (first.1.addressing.normalize selector) ∧
      third.1 ∈ turned.2.images ∧ shares third.1 first.1 = true ∧
      turned.1 ∈ turned.2.images ∧ shares turned.1 first.1 = false ∧
      (turned.2.setLayout first.1 selector .general).failure = none ∧
      ∀ other ∈ turned.2.images,
        SetsOnly turned.2 (turned.2.setLayout first.1 selector .general).device other .general
          fun subresource => shares other first.1 = true ∧
            (first.1.addressing.normalize selector).Names subresource := by
  intro info first second third turned selector
  have reachable : turned.2.Reachable :=
    .createAlias _ _ 16 (.createAlias info _ 16
      (.createAlias info _ 16 (.createImage info _ 16 .empty) List.mem_cons_self)
      (.tail _ List.mem_cons_self)) (.tail _ (.tail _ List.mem_cons_self))
  have member : first.1 ∈ turned.2.images := List.mem_cons_self
  have fits : first.1.addressing.Fits (first.1.addressing.normalize selector) :=
    ⟨by decide, by decide, by decide⟩
  exact ⟨reachable, member, fits, .tail _ (.tail _ List.mem_cons_self), rfl,
    .tail _ (.tail _ (.tail _ List.mem_cons_self)), rfl,
    (setLayout_seen_by_sharers reachable).2 first.1 member selector .general fits⟩

end Device

end LayoutTracking
