import LayoutTracking.SpanMap.Basic

/-!
# Sparse maps

A sparse map lists its stored spans in ascending order, so its size follows the number of stored
spans and not the number of indices.
-/

set_option autoImplicit false

namespace LayoutTracking

structure SparseMap (V : Type) where
  /-- The stored spans with their values, ascending. -/
  stored : List (Span × V)
  limit : Nat
  /-- How many times the map was written, which is less than `2 ^ 64` times. -/
  revision : Nat
deriving Inhabited

namespace SparseMap

variable {V : Type}

def empty (limit : Nat) : SparseMap V := ⟨[], limit, 0⟩

def size (map : SparseMap V) : Nat := map.stored.length

def get? (map : SparseMap V) (index : Nat) : Option (Span × V) :=
  map.stored.find? fun entry => index ∈ entry.1

/-- The gap around an index that is not stored: it begins where the last span from before the
index stops, and stops where the first span from after the index begins. -/
def gapAt (map : SparseMap V) (index : Nat) : Span where
  start := (map.stored.filter fun entry => entry.1.start ≤ index).getLast?.elim 0 (·.1.stop)
  stop := (map.stored.find? fun entry => index < entry.1.start).elim map.limit (·.1.start)

def locate (map : SparseMap V) (index : Nat) : Slot :=
  if map.limit ≤ index then
    .gap (.emptyAt index)
  else
    match map.get? index with
    | some (span, _) => .known span
    | none => .gap (map.gapAt index)

/-- The non-empty one of the parts that `cut` leaves of a stored span, with the span's value. -/
def part (cut : Span → Span) (entry : Span × V) : Option (Span × V) :=
  if (cut entry.1).isEmpty then none else some (cut entry.1, entry.2)

/-- What is stored before the span, the span, and what is stored after it. -/
def overwrite (map : SparseMap V) (span : Span) (value : V) : SparseMap V :=
  if span.isEmpty then
    map
  else
    { map with
      stored := map.stored.filterMap (part (·.before span)) ++
        (span, value) :: map.stored.filterMap (part (·.after span))
      revision := map.revision + 1 }

def clear (map : SparseMap V) : SparseMap V :=
  { map with stored := [], revision := map.revision + 1 }

instance : SpanMap (SparseMap V) V where
  limit := limit
  size := size
  revision := revision
  locate := locate
  get? := get?
  overwrite := overwrite
  clear := clear

end SparseMap

end LayoutTracking
