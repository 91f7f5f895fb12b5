import LayoutTracking.Proofs.AspectBits
import LayoutTracking.Proofs.SweepCover
import Mathlib.Data.List.Basic
import Mathlib.Data.Prod.Lex

/-!
# Addresses

No aspect of an image comes twice, so the place of an aspect on the line is its own. Every index of
the line is then the index of the subresource that it is read back as, and the subresources lie on
the line in the order of their aspects, then of their mip levels, then of their array layers.
-/

set_option autoImplicit false

namespace LayoutTracking

namespace Addressing

variable {image : Addressing}

theorem aspectIndex?_of_getElem? {position : Nat} {aspect : Aspects}
    (found : image.aspects[position]? = some aspect) :
    image.aspectIndex? aspect = some position := by
  obtain ⟨bound, here⟩ := List.getElem?_eq_some_iff.mp found
  refine List.idxOf?_eq_some_iff.mpr ⟨bound, here, ?_⟩
  intro earlier before same
  have twice : image.aspects[earlier]? = image.aspects[position]? := by
    rw [found, List.getElem?_eq_getElem (Nat.lt_trans before bound), same]
  have sameIndex := (List.getElem?_inj (Nat.lt_trans before bound)
    (Aspects.nodup_singles image.mask)).mp twice
  omega

theorem sizes_pos_of_lt_count {index : Nat} (bound : index < image.count) :
    0 < image.aspectSize ∧ 0 < image.mipSize := by
  have inhabited : 0 < image.aspectSize := by
    refine Nat.pos_of_ne_zero fun none => ?_
    rw [count, none, Nat.zero_mul] at bound
    exact Nat.not_lt_zero _ bound
  exact ⟨inhabited, Nat.pos_of_mul_pos_right inhabited⟩

/-- Below the count every index is read back as a subresource of the image, and that subresource has
the index. -/
theorem exists_decode? {index : Nat} (bound : index < image.count) :
    ∃ subresource, image.decode? index = some subresource ∧ image.Has subresource ∧
      image.encode subresource = index := by
  obtain ⟨inhabited, someLayers⟩ := sizes_pos_of_lt_count bound
  have position : index / image.aspectSize < image.aspects.length :=
    Nat.div_lt_of_lt_mul bound
  obtain ⟨aspect, found⟩ : ∃ aspect, image.aspects[index / image.aspectSize]? = some aspect :=
    ⟨_, List.getElem?_eq_getElem position⟩
  have level : index % image.aspectSize / image.mipSize < image.mipLevels.toNat :=
    Nat.div_lt_of_lt_mul (Nat.mod_lt _ inhabited)
  have layer : index % image.aspectSize % image.mipSize < image.arrayLayers.toNat :=
    Nat.mod_lt _ someLayers
  have levelFits := UInt32.toNat_ofNat_of_lt' (Nat.lt_trans level image.mipLevels.toNat_lt)
  have layerFits := UInt32.toNat_ofNat_of_lt' (Nat.lt_trans layer image.arrayLayers.toNat_lt)
  refine ⟨⟨aspect, UInt32.ofNat (index % image.aspectSize / image.mipSize),
    UInt32.ofNat (index % image.aspectSize % image.mipSize)⟩, ?_,
    ⟨List.mem_of_getElem? found, ?_, ?_⟩, ?_⟩
  · rw [decode?, if_neg (Nat.not_le_of_lt bound), found]
    rfl
  · exact levelFits.symm ▸ level
  · exact layerFits.symm ▸ layer
  · simp only [encode, aspectIndex?_of_getElem? found, Option.getD_some, levelFits, layerFits]
    rw [Nat.add_assoc, Nat.mul_comm _ image.mipSize, Nat.div_add_mod, Nat.mul_comm,
      Nat.div_add_mod]

/-! ## The order of the line -/

/-- Two numbers of two digits, of which the low ones are below the base. -/
theorem mul_add_lt_mul_add_iff (high more : Nat) {size low other : Nat} (lowBound : low < size)
    (otherBound : other < size) :
    high * size + low < more * size + other ↔ high < more ∨ high = more ∧ low < other := by
  rcases Nat.lt_trichotomy high more with before | rfl | after
  · have next := Nat.mul_le_mul_right size (Nat.succ_le_of_lt before)
    rw [Nat.succ_mul] at next
    omega
  · omega
  · have next := Nat.mul_le_mul_right size (Nat.succ_le_of_lt after)
    rw [Nat.succ_mul] at next
    omega

/-- Where a subresource stands: the position of its aspect, before its mip level, before its array
layer. -/
def place (image : Addressing) (subresource : Subresource) : Nat ×ₗ Nat ×ₗ Nat :=
  toLex (image.aspects.idxOf subresource.aspect,
    toLex (subresource.mipLevel.toNat, subresource.arrayLayer.toNat))

variable {subresource left right : Subresource}

theorem Has.encode_eq (has : image.Has subresource) :
    image.encode subresource =
      image.aspects.idxOf subresource.aspect * image.aspectSize + image.offset subresource := by
  obtain ⟨position, found, index⟩ := has.exists_encode
  have isIndex : image.aspects.idxOf? subresource.aspect = some position :=
    aspectIndex?_of_getElem? found
  rw [index, List.idxOf_eq_getD_idxOf?, isIndex, Option.getD_some]

theorem Has.encode_lt_encode_iff (leftHas : image.Has left) (rightHas : image.Has right) :
    image.encode left < image.encode right ↔ image.place left < image.place right := by
  have leftLayer : left.arrayLayer.toNat < image.mipSize := leftHas.arrayLayer
  have rightLayer : right.arrayLayer.toNat < image.mipSize := rightHas.arrayLayer
  rw [leftHas.encode_eq, rightHas.encode_eq,
    mul_add_lt_mul_add_iff _ _ leftHas.offset_lt rightHas.offset_lt, offset, offset,
    mul_add_lt_mul_add_iff _ _ leftLayer rightLayer, place, place, Prod.Lex.toLex_lt_toLex,
    Prod.Lex.toLex_lt_toLex]

theorem Has.eq_of_encode_eq (leftHas : image.Has left) (rightHas : image.Has right)
    (same : image.encode left = image.encode right) : left = right := by
  have notBefore := mt (leftHas.encode_lt_encode_iff rightHas).mpr (Nat.not_lt_of_le same.ge)
  have notAfter := mt (rightHas.encode_lt_encode_iff leftHas).mpr (Nat.not_lt_of_le same.le)
  have samePlace : image.place left = image.place right :=
    le_antisymm (le_of_not_gt notAfter) (le_of_not_gt notBefore)
  obtain ⟨sameAspect, sameRest⟩ := Prod.mk.inj (toLex.injective samePlace)
  obtain ⟨sameLevel, sameLayer⟩ := Prod.mk.inj (toLex.injective sameRest)
  have aspect := (List.idxOf_inj leftHas.aspect).mp sameAspect
  have level := UInt32.toNat_inj.mp sameLevel
  have layer := UInt32.toNat_inj.mp sameLayer
  cases left
  cases right
  simp_all only

theorem admitsSubresource_iff :
    image.admitsSubresource subresource = true ↔
      subresource.aspect.isSingle = true ∧ image.mask.contains subresource.aspect = true ∧
        subresource.mipLevel.toNat < image.mipLevels.toNat ∧
        subresource.arrayLayer.toNat < image.arrayLayers.toNat := by
  simp [admitsSubresource, and_assoc, UInt32.lt_iff_toNat_lt]

theorem Has.admitsSubresource (has : image.Has subresource) :
    image.admitsSubresource subresource = true :=
  admitsSubresource_iff.mpr ⟨Aspects.isSingle_of_mem_singles has.aspect,
    Aspects.contains_of_mem_singles has.aspect, has.mipLevel, has.arrayLayer⟩

/-! ## Reading back -/

theorem decode?_eq_none_iff {index : Nat} : image.decode? index = none ↔ image.count ≤ index := by
  constructor
  · intro none
    refine Nat.le_of_not_lt fun bound => ?_
    obtain ⟨subresource, found, -⟩ := exists_decode? bound
    rw [none] at found
    cases found
  · intro past
    rw [decode?, if_pos past]

theorem decode?_eq_some_iff {index : Nat} :
    image.decode? index = some subresource ↔
      image.Has subresource ∧ image.encode subresource = index := by
  constructor
  · intro found
    have bound : index < image.count := by
      refine Nat.lt_of_not_le fun past => ?_
      rw [decode?_eq_none_iff.mpr past] at found
      cases found
    obtain ⟨other, otherFound, has, isIndex⟩ := exists_decode? bound
    obtain rfl := Option.some.inj (otherFound.symm.trans found)
    exact ⟨has, isIndex⟩
  · rintro ⟨has, rfl⟩
    obtain ⟨other, found, otherHas, same⟩ := exists_decode? has.encode_lt
    exact found.trans (congrArg some (otherHas.eq_of_encode_eq has same))

theorem aspectSpan_stop_le (image : Addressing) (aspect : Aspects) :
    (image.aspectSpan aspect).stop ≤ image.count := by
  unfold aspectSpan
  split
  · next position found =>
    have bound := (List.idxOf?_eq_some_iff.mp found).1
    rw [count, Nat.mul_comm image.aspectSize]
    exact Nat.mul_le_mul_right _ bound
  · exact Nat.le_refl image.count

theorem mem_aspectSpan_iff {aspect : Aspects} {index : Nat} :
    index ∈ image.aspectSpan aspect ↔
      ∃ subresource, image.decode? index = some subresource ∧ subresource.aspect = aspect := by
  simp only [decode?_eq_some_iff]
  cases found : image.aspectIndex? aspect with
  | none =>
    have missing : aspect ∉ image.aspects := List.idxOf?_eq_none_iff.mp found
    simp only [aspectSpan, found]
    constructor
    · rintro ⟨reached, bound⟩
      exact absurd bound (Nat.not_lt_of_le reached)
    · rintro ⟨subresource, ⟨has, -⟩, rfl⟩
      exact absurd has.aspect missing
  | some position =>
    have here : image.aspects[position]? = some aspect := by
      obtain ⟨bound, isAspect, -⟩ := List.idxOf?_eq_some_iff.mp found
      exact List.getElem?_eq_some_iff.mpr ⟨bound, isAspect⟩
    have stop := image.aspectSpan_stop_le aspect
    simp only [aspectSpan, found, Nat.succ_mul] at stop ⊢
    constructor
    · intro inside
      obtain ⟨subresource, -, has, rfl⟩ := exists_decode? (Nat.lt_of_lt_of_le inside.2 stop)
      obtain ⟨other, there, isIndex⟩ := has.exists_encode
      rw [isIndex] at inside
      obtain rfl := (mem_block_iff other position has.offset_lt).mp inside
      exact ⟨subresource, ⟨has, rfl⟩, Option.some.inj (there.symm.trans here)⟩
    · rintro ⟨subresource, ⟨has, rfl⟩, rfl⟩
      obtain ⟨other, there, isIndex⟩ := has.exists_encode
      have same := (aspectIndex?_of_getElem? there).symm.trans found
      rw [isIndex]
      exact (mem_block_iff other position has.offset_lt).mpr (Option.some.inj same).symm

/-- The indices below the count number the subresources of the image in their order. -/
structure Numbered (image : Addressing) : Prop where
  aspects_ascending : image.aspects.Pairwise fun earlier later => earlier.bits < later.bits
  mem_aspects : ∀ aspect, aspect ∈ image.aspects ↔
    aspect.isSingle = true ∧ image.mask.contains aspect = true ∧
      (aspect ∈ Aspects.named.map (·.2) ∨ aspect = image.mask.unnamed)
  past : ∀ index, image.decode? index = none ↔ image.count ≤ index
  /-- Neither size that an index is divided by is zero. -/
  divisible : ∀ index < image.count, 0 < image.aspectSize ∧ 0 < image.mipSize
  inverse : ∀ index subresource, image.decode? index = some subresource ↔
    image.Has subresource ∧ image.encode subresource = index
  monotone : ∀ left right, image.Has left → image.Has right →
    (image.encode left < image.encode right ↔ image.place left < image.place right)
  mem_aspectSpan : ∀ aspect index, index ∈ image.aspectSpan aspect ↔
    ∃ subresource, image.decode? index = some subresource ∧ subresource.aspect = aspect
  aspectSpan_within : ∀ aspect, (image.aspectSpan aspect).stop ≤ image.count

/-- Reading back and numbering are inverse, and they keep the order of aspects, mip levels and array
layers. -/
theorem numbered_in_order (image : Addressing) : image.Numbered where
  aspects_ascending := image.mask.ascending_singles
  mem_aspects _ := Aspects.mem_singles_iff
  past _ := decode?_eq_none_iff
  divisible _ := sizes_pos_of_lt_count
  inverse _ _ := decode?_eq_some_iff
  monotone _ _ := Has.encode_lt_encode_iff
  mem_aspectSpan _ _ := mem_aspectSpan_iff
  aspectSpan_within := image.aspectSpan_stop_le

end Addressing

end LayoutTracking
