import LayoutTracking.Proofs.Lawful
import LayoutTracking.SpanMap.Cursor

/-!
# Cursors that fit their map

A cursor fits a map when the slot that it remembers is either out of date, which the revision
shows, or the map's own answer at every index of the slot. Searching through such a cursor is
searching the map, and the cursor goes on fitting whatever is written in between.
-/

set_option autoImplicit false

namespace LayoutTracking.Cursor

variable {M V : Type} [SpanMap M V]

/-- What the cursor remembers is of an earlier revision of the map, or still right. -/
def Fits (cursor : Cursor) (map : M) : Prop :=
  ∀ slot, cursor.slot = some slot →
    cursor.revision ≤ SpanMap.revision map ∧
      (cursor.revision = SpanMap.revision map →
        ∀ index ∈ slot.extent, SpanMap.locate map index = slot)

theorem fits_of_slot_eq_none {cursor : Cursor} (forgot : cursor.slot = none) (map : M) :
    cursor.Fits map := by
  intro slot remembered
  rw [forgot] at remembered
  cases remembered

theorem Fits.of_revision_lt {cursor : Cursor} {before after : M} (fits : cursor.Fits before)
    (written : SpanMap.revision before < SpanMap.revision after) : cursor.Fits after := by
  intro slot remembered
  have earlier := (fits slot remembered).1
  refine ⟨by omega, fun same => ?_⟩
  omega

theorem fits_settle (cursor : Cursor) {map : M} {slot : Slot}
    (right : ∀ index ∈ slot.extent, SpanMap.locate map index = slot) :
    (cursor.settle map slot).Fits map := by
  intro other remembered
  obtain rfl := Option.some.inj remembered
  exact ⟨Nat.le_refl _, fun _ => right⟩

theorem Fits.seek_eq {cursor : Cursor} {map : M} (fits : cursor.Fits map) (index : Nat) :
    (cursor.seek map index).1 = SpanMap.locate map index := by
  unfold seek
  cases found : cursor.remembered? map index with
  | none => rfl
  | some slot =>
    obtain ⟨remembered, current⟩ := Option.filter_eq_some_iff.mp found
    obtain ⟨same, inside⟩ := of_decide_eq_true current
    exact ((fits slot remembered).2 same index inside).symm

variable [LawfulSpanMap M V] {map : M} {tiles : List (Tile V)}

theorem locate_extent (holds : LawfulSpanMap.Holds map tiles) {index other : Nat}
    (inside : other ∈ (SpanMap.locate map index).extent) :
    SpanMap.locate map other = SpanMap.locate map index := by
  rw [LawfulSpanMap.locate_eq index holds, Tile.slotAt] at inside ⊢
  cases found : Tile.at? tiles index with
  | none =>
    simp only [found, Option.elim_none, Slot.extent, Span.emptyAt, Span.mem_iff] at inside
    omega
  | some tile =>
    have member := ((LawfulSpanMap.tiling holds).at?_eq_some.mp found).1
    rw [found, Option.elim_some, Tile.extent_slot] at inside
    rw [SpanMap.locate_of_mem holds member inside, Option.elim_some]

theorem Fits.of_holds {cursor : Cursor} {other : M} (fits : cursor.Fits map)
    (holds : LawfulSpanMap.Holds map tiles) (otherHolds : LawfulSpanMap.Holds other tiles)
    (sameRevision : SpanMap.revision other = SpanMap.revision map) : cursor.Fits other := by
  intro slot remembered
  rw [sameRevision]
  refine ⟨(fits slot remembered).1, fun current index inside => ?_⟩
  rw [LawfulSpanMap.locate_eq index otherHolds, ← LawfulSpanMap.locate_eq index holds]
  exact (fits slot remembered).2 current index inside

theorem Fits.seek {cursor : Cursor} (fits : cursor.Fits map)
    (holds : LawfulSpanMap.Holds map tiles) (index : Nat) :
    (cursor.seek map index).2.Fits map := by
  unfold Cursor.seek
  split
  · exact fits
  · exact fits_settle cursor fun other inside => locate_extent holds inside

end LayoutTracking.Cursor
