import LayoutTracking.Span

/-!
# Span maps

A span map keeps values over pairwise disjoint spans of the indices below its limit. What the
map says of one index is a slot: the stored span there, or the gap between its stored
neighbours. This module fixes the operations that every kind of map offers, and the walks over
stored spans that are written once in terms of them.
-/

set_option autoImplicit false

namespace LayoutTracking

inductive Slot where
  /-- The index is stored, as part of the given span. -/
  | known (span : Span)
  /-- The index is not stored. The span is the whole gap around it, from the stored span before
  it (or index zero) to the stored span after it (or the limit). -/
  | gap (span : Span)
deriving DecidableEq, Repr, Inhabited

def Slot.extent : Slot → Span
  | .known span => span
  | .gap span => span

/-- The operations of a map `M` from spans of indices to values `V`. -/
class SpanMap (M : Type) (V : outParam Type) where
  /-- The indices of the map are those below the limit. -/
  limit : M → Nat
  /-- How many spans are stored. -/
  size : M → Nat
  /-- How many times the map was written. The count is one of 64 bits, and is not followed past
  them: runs are shorter than `2 ^ 64` writes. -/
  revision : M → Nat
  /-- The slot at an index. At and past the limit there is only the empty gap at the index. -/
  locate : M → Nat → Slot
  /-- The stored span at an index, with its value. -/
  get? : M → Nat → Option (Span × V)
  /-- Stores the value over exactly the span, which is one of the domain. What a stored span loses to
  it is what lies inside the span: its parts on either side keep the old value and stay spans of
  their own. Nothing happens for an empty span. -/
  overwrite : M → Span → V → M
  /-- Forgets every stored span. -/
  clear : M → M

namespace SpanMap

variable {M V : Type} [SpanMap M V]

/-- Overwrites a span of the domain. What reaches past the limit is refused, and be it empty. -/
def overwrite? (map : M) (span : Span) (value : V) : Option M :=
  if span.stop ≤ limit map then some (overwrite map span value) else none

def isEmpty (map : M) : Bool := size map == 0

/-- The index to visit after `index` when the slot there stops at `stop`: always a later one. -/
def advance (index stop : Nat) : Nat := max (index + 1) stop

theorem lt_advance (index stop : Nat) : index < advance index stop := by
  simp only [advance]
  omega

/-- The stored spans met on the way from `index` to `stop`, whole, in ascending order: the walk
hops from slot to slot and skips the gaps. -/
def entriesFrom (map : M) (stop index : Nat) : List (Span × V) :=
  if index < stop then
    match locate map index with
    | .known span =>
      match get? map span.start with
      | some entry => entry :: entriesFrom map stop (advance index span.stop)
      | none => []
    | .gap span =>
      if span.stop ≤ index then [] else entriesFrom map stop (advance index span.stop)
  else
    []
termination_by stop - index
decreasing_by
  all_goals
    have later := lt_advance index span.stop
    omega

/-- The stored spans that have an index in common with `query`, whole and ascending. Indices past
the limit have no part in this. -/
def entriesIn (map : M) (query : Span) : List (Span × V) :=
  entriesFrom map (min query.stop (limit map)) query.start

def entries (map : M) : List (Span × V) :=
  entriesIn map ⟨0, limit map⟩

end SpanMap

end LayoutTracking
