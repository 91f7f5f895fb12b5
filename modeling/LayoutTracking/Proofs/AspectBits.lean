import LayoutTracking.Subresource.Aspects
import Mathlib.Algebra.Group.Nat.Defs
import Mathlib.Data.List.Nodup

/-!
# Aspects bit by bit

A set of aspects is known by its bits. The aspects that a mask comes to one by one are its bits with
a name, in ascending order, and behind these the bit without a name, if there is only one.
-/

set_option autoImplicit false

namespace LayoutTracking.Aspects

instance : Membership Nat Aspects := ⟨fun aspects bit => aspects.bits.toNat.testBit bit = true⟩

variable {left right mask aspect : Aspects} {bit : Nat}

theorem mem_iff : bit ∈ aspect ↔ aspect.bits.toNat.testBit bit = true := Iff.rfl

theorem mem_iff_getLsbD : bit ∈ aspect ↔ aspect.bits.toBitVec.getLsbD bit = true := by
  rw [mem_iff, ← UInt32.toNat_toBitVec, BitVec.testBit_toNat]

theorem lt_of_mem (member : bit ∈ aspect) : bit < 32 := by
  refine Nat.lt_of_not_le fun past => ?_
  have small : aspect.bits.toNat < 2 ^ bit :=
    Nat.lt_of_lt_of_le aspect.bits.toNat_lt (Nat.pow_le_pow_right Nat.zero_lt_two past)
  rw [mem_iff, Nat.testBit_lt_two_pow small] at member
  cases member

theorem eq_of_mem_iff (same : ∀ bit, bit ∈ left ↔ bit ∈ right) : left = right := by
  obtain ⟨left⟩ := left
  obtain ⟨right⟩ := right
  congr 1
  refine UInt32.toNat_inj.mp (Nat.eq_of_testBit_eq fun bit => ?_)
  exact Bool.eq_iff_iff.mpr (same bit)

theorem mem_inter : bit ∈ left.inter right ↔ bit ∈ left ∧ bit ∈ right := by
  simp [mem_iff_getLsbD, inter]

theorem mem_union : bit ∈ left.union right ↔ bit ∈ left ∨ bit ∈ right := by
  simp [mem_iff_getLsbD, union]

theorem mem_without : bit ∈ left.without right ↔ bit ∈ left ∧ bit ∉ right := by
  constructor
  · intro member
    have bound := lt_of_mem member
    simpa [mem_iff_getLsbD, without, bound] using member
  · rintro ⟨member, outside⟩
    have bound := lt_of_mem member
    simp_all [mem_iff_getLsbD, without]

theorem isEmpty_iff : aspect.isEmpty = true ↔ ∀ bit, bit ∉ aspect := by
  constructor
  · intro isEmpty bit member
    have none : aspect.bits = 0 := eq_of_beq isEmpty
    rw [mem_iff, none] at member
    simp at member
  · intro none
    refine beq_iff_eq.mpr (UInt32.toNat_inj.mp ?_)
    refine Nat.eq_of_testBit_eq fun bit => ?_
    exact (Bool.eq_false_iff.mpr (none bit)).trans (Nat.zero_testBit bit).symm

theorem contains_iff : left.contains right = true ↔ ∀ bit ∈ right, bit ∈ left := by
  rw [contains, beq_iff_eq]
  constructor
  · intro same bit member
    rw [← same] at member
    exact (mem_inter.mp member).1
  · intro within
    refine eq_of_mem_iff fun bit => ?_
    rw [mem_inter]
    exact ⟨fun both => both.2, fun member => ⟨within bit member, member⟩⟩

/-! ## Single bits -/

theorem mem_positions : bit ∈ aspect.positions ↔ bit ∈ aspect := by
  rw [positions, List.mem_filter, List.mem_range]
  exact ⟨fun both => both.2, fun member => ⟨lt_of_mem member, member⟩⟩

theorem nodup_positions (aspect : Aspects) : aspect.positions.Nodup := List.nodup_range.filter _

theorem isSingle_iff : aspect.isSingle = true ↔ ∃ bit, ∀ other, other ∈ aspect ↔ other = bit := by
  rw [isSingle, beq_iff_eq, List.length_eq_one_iff]
  simp only [← mem_positions]
  refine exists_congr fun bit => ?_
  constructor
  · intro only other
    rw [only, List.mem_singleton]
  · intro same
    have distinct := aspect.nodup_positions
    refine List.perm_singleton.mp ?_
    refine (List.perm_ext_iff_of_nodup distinct (List.nodup_singleton bit)).mpr fun other => ?_
    rw [same, List.mem_singleton]

theorem isEmpty_of_isSingle (single : aspect.isSingle = true) : aspect.isEmpty = false := by
  obtain ⟨bit, only⟩ := isSingle_iff.mp single
  exact Bool.eq_false_iff.mpr fun isEmpty => isEmpty_iff.mp isEmpty bit ((only bit).mpr rfl)

theorem contains_iff_eq (outer : left.isSingle = true) (inner : right.isSingle = true) :
    left.contains right = true ↔ right = left := by
  obtain ⟨leftBit, leftOnly⟩ := isSingle_iff.mp outer
  obtain ⟨rightBit, rightOnly⟩ := isSingle_iff.mp inner
  rw [contains_iff]
  constructor
  · intro within
    have same := (leftOnly rightBit).mp (within rightBit ((rightOnly rightBit).mpr rfl))
    exact eq_of_mem_iff fun bit => by rw [leftOnly, rightOnly, same]
  · rintro rfl bit member
    exact member

def ofBit (bit : Nat) : Aspects := ⟨UInt32.ofNat (2 ^ bit)⟩

theorem mem_ofBit (bound : bit < 32) (other : Nat) : other ∈ ofBit bit ↔ other = bit := by
  have fits : 2 ^ bit < UInt32.size := Nat.pow_lt_pow_right (Nat.lt_succ_self 1) bound
  rw [mem_iff, ofBit, UInt32.toNat_ofNat_of_lt' fits, Nat.testBit_two_pow, decide_eq_true_iff]
  exact eq_comm

theorem isSingle_ofBit (bound : bit < 32) : (ofBit bit).isSingle = true :=
  isSingle_iff.mpr ⟨bit, mem_ofBit bound⟩

theorem contains_ofBit (bound : bit < 32) : mask.contains (ofBit bit) = true ↔ bit ∈ mask := by
  simp only [contains_iff, mem_ofBit bound, forall_eq]

/-! ## One by one -/

/-- Bits below this one have a name. -/
def firstUnnamed : Nat := 7

theorem lt_of_lt_firstUnnamed (isNamed : bit < firstUnnamed) : bit < 32 :=
  Nat.lt_trans isNamed (by decide)

theorem named_eq : named.map (·.2) = (List.range firstUnnamed).map ofBit := by decide

theorem mem_unnamed : bit ∈ mask.unnamed ↔ bit ∈ mask ∧ firstUnnamed ≤ bit := by
  have names : bit ∈ named.foldl (fun all entry => all.union entry.2) empty ↔
      bit < firstUnnamed := by
    change Nat.testBit (2 ^ 7 - 1) bit = true ↔ bit < firstUnnamed
    rw [Nat.testBit_two_pow_sub_one, decide_eq_true_iff]
    exact Iff.rfl
  rw [unnamed, mem_without, names, Nat.not_lt]

theorem namedMembers_eq (mask : Aspects) :
    mask.namedMembers.map (·.2) = ((List.range firstUnnamed).map ofBit).filter mask.contains := by
  rw [← named_eq, List.filter_map]
  rfl

theorem mem_namedMembers :
    aspect ∈ mask.namedMembers.map (·.2) ↔
      ∃ bit < firstUnnamed, bit ∈ mask ∧ ofBit bit = aspect := by
  rw [namedMembers_eq, List.mem_filter, List.mem_map]
  simp only [List.mem_range]
  constructor
  · rintro ⟨⟨bit, isNamed, rfl⟩, contained⟩
    exact ⟨bit, isNamed, (contains_ofBit (lt_of_lt_firstUnnamed isNamed)).mp contained, rfl⟩
  · rintro ⟨bit, isNamed, member, rfl⟩
    exact ⟨⟨bit, isNamed, rfl⟩, (contains_ofBit (lt_of_lt_firstUnnamed isNamed)).mpr member⟩

theorem mem_singles :
    aspect ∈ mask.singles ↔
      (∃ bit < firstUnnamed, bit ∈ mask ∧ ofBit bit = aspect) ∨
        mask.unnamed.isSingle = true ∧ aspect = mask.unnamed := by
  rw [singles, List.mem_filter, members, List.mem_append, mem_namedMembers]
  constructor
  · rintro ⟨isNamed | isUnnamed, single⟩
    · exact .inl isNamed
    · split at isUnnamed
      · cases isUnnamed
      · obtain rfl := List.mem_singleton.mp isUnnamed
        exact .inr ⟨single, rfl⟩
  · rintro (⟨bit, isNamed, member, rfl⟩ | ⟨single, rfl⟩)
    · exact ⟨.inl ⟨bit, isNamed, member, rfl⟩,
        isSingle_ofBit (lt_of_lt_firstUnnamed isNamed)⟩
    · refine ⟨.inr ?_, single⟩
      rw [isEmpty_of_isSingle single]
      exact List.mem_cons_self

theorem length_singles_le (mask : Aspects) : mask.singles.length ≤ named.length + 1 := by
  have names : mask.namedMembers.length ≤ named.length := List.length_filter_le _ _
  have others : (if mask.unnamed.isEmpty then [] else [mask.unnamed]).length ≤ 1 := by
    split
    · exact Nat.zero_le 1
    · exact Nat.le_refl 1
  refine Nat.le_trans (List.length_filter_le _ _) ?_
  rw [members, List.length_append, List.length_map]
  exact Nat.add_le_add names others

theorem isSingle_of_mem_singles (member : aspect ∈ mask.singles) : aspect.isSingle = true :=
  List.of_mem_filter member

theorem contains_of_mem_singles (member : aspect ∈ mask.singles) : mask.contains aspect = true := by
  rcases mem_singles.mp member with ⟨bit, isNamed, within, rfl⟩ | ⟨-, rfl⟩
  · exact (contains_ofBit (lt_of_lt_firstUnnamed isNamed)).mpr within
  · exact contains_iff.mpr fun bit within => (mem_unnamed.mp within).1

/-- A single bit of the mask comes out if it has a name, or is the only one without. -/
theorem mem_singles_iff :
    aspect ∈ mask.singles ↔
      aspect.isSingle = true ∧ mask.contains aspect = true ∧
        (aspect ∈ named.map (·.2) ∨ aspect = mask.unnamed) := by
  constructor
  · intro member
    refine ⟨isSingle_of_mem_singles member, contains_of_mem_singles member, ?_⟩
    rcases mem_singles.mp member with ⟨bit, isNamed, -, rfl⟩ | ⟨-, isUnnamed⟩
    · rw [named_eq]
      exact .inl (List.mem_map_of_mem (List.mem_range.mpr isNamed))
    · exact .inr isUnnamed
  · rintro ⟨single, contained, isNamed | rfl⟩
    · rw [named_eq] at isNamed
      obtain ⟨bit, bound, rfl⟩ := List.mem_map.mp isNamed
      have isNamed := List.mem_range.mp bound
      exact mem_singles.mpr (.inl ⟨bit, isNamed,
        (contains_ofBit (lt_of_lt_firstUnnamed isNamed)).mp contained, rfl⟩)
    · exact mem_singles.mpr (.inr ⟨single, rfl⟩)

theorem bits_ofBit_lt_unnamed (isNamed : bit < firstUnnamed) {other : Nat}
    (member : other ∈ mask.unnamed) : (ofBit bit).bits < mask.unnamed.bits := by
  have fits : 2 ^ bit < UInt32.size :=
    Nat.pow_lt_pow_right (Nat.lt_succ_self 1) (lt_of_lt_firstUnnamed isNamed)
  have later : bit < other := Nat.lt_of_lt_of_le isNamed (mem_unnamed.mp member).2
  rw [UInt32.lt_iff_toNat_lt, ofBit, UInt32.toNat_ofNat_of_lt' fits]
  exact Nat.lt_of_lt_of_le (Nat.pow_lt_pow_right (Nat.lt_succ_self 1) later)
    (Nat.ge_two_pow_of_testBit member)

theorem ascending_singles (mask : Aspects) :
    mask.singles.Pairwise fun earlier later => earlier.bits < later.bits := by
  refine List.Pairwise.filter _ (List.pairwise_append.mpr ⟨?_, ?_, ?_⟩)
  · have ascending : ((List.range firstUnnamed).map ofBit).Pairwise
        fun earlier later => earlier.bits < later.bits := by decide
    rw [namedMembers_eq]
    exact ascending.filter _
  · split
    · exact .nil
    · exact List.pairwise_singleton _ _
  · intro earlier isNamed later isUnnamed
    obtain ⟨bit, bound, -, rfl⟩ := mem_namedMembers.mp isNamed
    split at isUnnamed
    · cases isUnnamed
    · next inhabited =>
      obtain rfl := List.mem_singleton.mp isUnnamed
      obtain ⟨other, member⟩ : ∃ other, other ∈ mask.unnamed :=
        Classical.not_forall_not.mp (mt isEmpty_iff.mpr inhabited)
      exact bits_ofBit_lt_unnamed bound member

theorem nodup_singles (mask : Aspects) : mask.singles.Nodup :=
  mask.ascending_singles.imp fun before same => UInt32.ne_of_lt before (congrArg bits same)

end LayoutTracking.Aspects
