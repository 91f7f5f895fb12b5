import LayoutTracking.SpanMap.Basic

/-!
# Flat maps

A flat map has one cell per index. The cell holds the extent around its index (the stored span or
the maximal gap), so finding a slot is one look-up. The value of a stored span is held by the
span's first cell alone.
-/

set_option autoImplicit false

namespace LayoutTracking

structure FlatMap (V : Type) where
  /-- The stored span or gap around each index. -/
  extents : Array Span
  /-- A value at the first index of each stored span, and nothing elsewhere. -/
  values : Array (Option V)
  /-- How many times the map was written, which is less than `2 ^ 64` times. -/
  revision : Nat
deriving Inhabited

namespace FlatMap

variable {V : Type}

def empty (limit : Nat) : FlatMap V where
  extents := Array.replicate limit ⟨0, limit⟩
  values := Array.replicate limit none
  revision := 0

def limit (map : FlatMap V) : Nat := map.extents.size

def size (map : FlatMap V) : Nat := map.values.countP Option.isSome

/-- The value that a stored span keeps in its first cell. -/
def valueOf (map : FlatMap V) (extent : Span) : Option V := map.values[extent.start]?.join

def value? (map : FlatMap V) (index : Nat) : Option V := do
  map.valueOf (← map.extents[index]?)

def locate (map : FlatMap V) (index : Nat) : Slot :=
  match map.extents[index]? with
  | some extent => if (map.valueOf extent).isSome then .known extent else .gap extent
  | none => .gap (.emptyAt index)

def get? (map : FlatMap V) (index : Nat) : Option (Span × V) := do
  let extent ← map.extents[index]?
  let value ← map.valueOf extent
  return (extent, value)

/-- Every cell learns its new extent: the written span inside it, and what is left of the old
extent on either side. The old value moves to the first cell after the span, whose extent may
have begun inside it. Only cells that exist can be written. -/
def overwrite (map : FlatMap V) (span : Span) (value : V) : FlatMap V :=
  if span.isEmpty || map.limit < span.stop then
    map
  else
    { extents := map.extents.mapIdx fun index extent =>
        if index ∈ span then span
        else if index < span.start then extent.before span
        else extent.after span
      values := map.values.mapIdx fun index old =>
        if index = span.start then some value
        else if index ∈ span then none
        else if index = span.stop then map.value? index
        else old
      revision := map.revision + 1 }

def clear (map : FlatMap V) : FlatMap V :=
  { FlatMap.empty map.limit with revision := map.revision + 1 }

instance : SpanMap (FlatMap V) V where
  limit := limit
  size := size
  revision := revision
  locate := locate
  get? := get?
  overwrite := overwrite
  clear := clear

end FlatMap

end LayoutTracking
