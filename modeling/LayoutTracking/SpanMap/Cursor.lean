import LayoutTracking.SpanMap.Basic

/-!
# Cursors

A cursor remembers the slot that it found last, and the revision of the map at that moment. A
later look-up inside that slot needs no search as long as the revision has not moved. Nothing in
a cursor names its map: one that is carried to another map of the same revision answers from the
slot of the first.
-/

set_option autoImplicit false

namespace LayoutTracking

structure Cursor where
  slot : Option Slot
  /-- The revision of a map, and like it less than `2 ^ 64`. -/
  revision : Nat
deriving DecidableEq, Repr, Inhabited

namespace Cursor

variable {M V : Type} [SpanMap M V]

def fresh : Cursor := ⟨none, 0⟩

/-- The remembered slot, if it still stands for `map` and reaches around `index`. -/
def remembered? (cursor : Cursor) (map : M) (index : Nat) : Option Slot :=
  cursor.slot.filter fun slot => cursor.revision = SpanMap.revision map ∧ index ∈ slot.extent

/-- Remembers a slot that was just written into `map`. -/
def settle (_ : Cursor) (map : M) (slot : Slot) : Cursor :=
  ⟨some slot, SpanMap.revision map⟩

def seek (cursor : Cursor) (map : M) (index : Nat) : Slot × Cursor :=
  match cursor.remembered? map index with
  | some slot => (slot, cursor)
  | none =>
    let slot := SpanMap.locate map index
    (slot, cursor.settle map slot)

def invalidate (cursor : Cursor) : Cursor := { cursor with slot := none }

end Cursor

end LayoutTracking
