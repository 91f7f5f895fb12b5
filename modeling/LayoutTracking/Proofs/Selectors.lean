import LayoutTracking.Proofs.SweepCoverage

/-!
# Selectors of an image

The full selector of an image covers its line. The selector of one subresource names that one alone
once it is normalized, or where it is colour of a multi-planar image, the planes in its place.
-/

set_option autoImplicit false

namespace LayoutTracking.Addressing

variable {image : Addressing} {subresource other : Subresource} {aspects : Aspects}

/-! ## The whole image -/

theorem Has.encloses_full (has : image.Has subresource) : image.Encloses image.full where
  inhabited := by
    have someLevels : image.mipLevels ≠ 0 := fun none =>
      Nat.not_lt_zero _ (none ▸ has.mipLevel)
    have someLayers : image.arrayLayers ≠ 0 := fun none =>
      Nat.not_lt_zero _ (none ▸ has.arrayLayer)
    have someAspects : image.mask.isEmpty = false := by
      obtain ⟨bit, only⟩ := Aspects.isSingle_iff.mp (Aspects.isSingle_of_mem_singles has.aspect)
      have within := Aspects.contains_iff.mp (Aspects.contains_of_mem_singles has.aspect)
      exact Bool.eq_false_iff.mpr fun isEmpty =>
        Aspects.isEmpty_iff.mp isEmpty bit (within bit ((only bit).mpr rfl))
    simp [Selector.isEmpty, full, someAspects, someLevels, someLayers]
  aspects := Aspects.contains_iff.mpr fun _ member => member
  mipLevels := (Nat.zero_add _).le
  arrayLayers := (Nat.zero_add _).le

theorem Has.names_full (has : image.Has subresource) : image.full.Names subresource where
  aspect := Aspects.contains_of_mem_singles has.aspect
  mipLevel := ⟨Nat.zero_le _, Nat.lt_of_lt_of_eq has.mipLevel (Nat.zero_add _).symm⟩
  arrayLayer := ⟨Nat.zero_le _, Nat.lt_of_lt_of_eq has.arrayLayer (Nat.zero_add _).symm⟩

theorem Has.covered_by_full (has : image.Has subresource) (fits : image.count < UInt64.size) :
    ∃ span ∈ (Swept.full image).spans, image.encode subresource ∈ span :=
  (Swept.covers_iff fits has.encloses_full has).mpr has.names_full

/-! ## One subresource -/

/-- Some aspects at the mip level and array layer of a subresource. -/
theorem Has.encloses_at (has : image.Has subresource) (inhabited : aspects.isEmpty = false)
    (within : image.mask.contains aspects = true) :
    image.Encloses { Selector.single subresource with aspects } where
  inhabited := by
    rw [Selector.isEmpty, inhabited]
    rfl
  aspects := within
  mipLevels := Nat.succ_le_of_lt has.mipLevel
  arrayLayers := Nat.succ_le_of_lt has.arrayLayer

theorem names_at_iff :
    Selector.Names { Selector.single subresource with aspects } other ↔
      aspects.contains other.aspect = true ∧ other.mipLevel = subresource.mipLevel ∧
        other.arrayLayer = subresource.arrayLayer := by
  rw [← UInt32.toNat_inj, ← UInt32.toNat_inj]
  constructor
  · rintro ⟨contained, ⟨level, levelStop⟩, ⟨layer, layerStop⟩⟩
    exact ⟨contained, Nat.le_antisymm (Nat.le_of_lt_succ levelStop) level,
      Nat.le_antisymm (Nat.le_of_lt_succ layerStop) layer⟩
  · rintro ⟨contained, level, layer⟩
    exact ⟨contained, ⟨level.ge, Nat.lt_succ_of_le level.le⟩,
      ⟨layer.ge, Nat.lt_succ_of_le layer.le⟩⟩

theorem normalize_single (single : subresource.aspect.isSingle = true) :
    image.normalize (.single subresource) =
      { Selector.single subresource with
        aspects :=
          if image.mask.isMultiPlanar = true ∧ subresource.aspect = .color then
            image.mask.inter .allPlanes
          else
            subresource.aspect } := by
  have isColor : subresource.aspect.contains .color = true ↔ subresource.aspect = .color :=
    (Aspects.contains_iff_eq single rfl).trans eq_comm
  have nothingElse : (Aspects.color.without .color).union (image.mask.inter .allPlanes) =
      image.mask.inter .allPlanes := by
    refine Aspects.eq_of_mem_iff fun bit => ?_
    rw [Aspects.mem_union, Aspects.mem_without]
    exact or_iff_right fun both => both.2 both.1
  by_cases planes : image.mask.isMultiPlanar = true ∧ subresource.aspect = .color
  · rw [normalize, Selector.single, if_pos planes, if_pos, planes.2, nothingElse]
    · rfl
    · rw [Bool.and_eq_true, isColor]
      exact planes
  · rw [normalize, Selector.single, if_neg planes, if_neg]
    · rfl
    · rw [Bool.and_eq_true, isColor]
      exact planes

/-- The other subresource is what a selector means that names the first one alone: that one itself,
but for colour of a multi-planar image each plane instead. -/
def Means (image : Addressing) (subresource other : Subresource) : Prop :=
  if image.mask.isMultiPlanar = true ∧ subresource.aspect = .color then
    Aspects.allPlanes.contains other.aspect = true ∧ other.mipLevel = subresource.mipLevel ∧
      other.arrayLayer = subresource.arrayLayer
  else
    other = subresource

instance (image : Addressing) (subresource other : Subresource) :
    Decidable (image.Means subresource other) :=
  inferInstanceAs (Decidable (@ite Prop _ _ _ _))

theorem Has.encloses_normalize_single (has : image.Has subresource) :
    image.Encloses (image.normalize (.single subresource)) := by
  have single := Aspects.isSingle_of_mem_singles has.aspect
  rw [normalize_single single]
  split
  · next planes =>
    refine has.encloses_at ((Bool.not_eq_true' _).mp planes.1) ?_
    exact Aspects.contains_iff.mpr fun bit member => (Aspects.mem_inter.mp member).1
  · exact has.encloses_at (Aspects.isEmpty_of_isSingle single)
      (Aspects.contains_of_mem_singles has.aspect)

theorem Has.names_normalize_single_iff (has : image.Has subresource) (otherHas : image.Has other) :
    (image.normalize (.single subresource)).Names other ↔ image.Means subresource other := by
  have single := Aspects.isSingle_of_mem_singles has.aspect
  rw [normalize_single single, names_at_iff, Means]
  split
  · have within := Aspects.contains_iff.mp (Aspects.contains_of_mem_singles otherHas.aspect)
    have planes : (image.mask.inter .allPlanes).contains other.aspect = true ↔
        Aspects.allPlanes.contains other.aspect = true := by
      simp only [Aspects.contains_iff, Aspects.mem_inter]
      exact forall₂_congr fun bit member => and_iff_right (within bit member)
    rw [planes]
  · rw [Aspects.contains_iff_eq single (Aspects.isSingle_of_mem_singles otherHas.aspect)]
    cases subresource
    cases other
    simp only [Subresource.mk.injEq]

end LayoutTracking.Addressing
