import LayoutTracking.SpanMap.Adaptive

/-!
# Writing in place

How either kind of map carries out a write. A flat map reads what it has to keep of the old extents,
and then goes over its cells. A sparse map has its spans in a tree, by their starts: it collects the
keys of the entries that the span meets, and replaces these entries one after the other.
-/

set_option autoImplicit false

namespace LayoutTracking

/-- What stops a write: the assertion about the domain, where it is made at all, or cells that are
not there. -/
inductive WriteFailure where
  | pastLimit
  | noCell (index : Nat)
  | noCells (span : Span)
deriving DecidableEq, Repr

/-! ## Cells -/

namespace FlatMap

variable {V : Type}

/-- Steps on the cells of a table. One that fails leaves the table as the steps before it did. -/
abbrev Steps (V : Type) : Type → Type := EStateM WriteFailure (FlatMap V)

def spread (map : FlatMap V) (extent : Span) : FlatMap V :=
  { map with extents := map.extents.mapIdx fun index old => if index ∈ extent then extent else old }

def unset (map : FlatMap V) (span : Span) : FlatMap V :=
  { map with values := map.values.mapIdx fun index old => if index ∈ span then none else old }

def put (map : FlatMap V) (index : Nat) (value : Option V) : FlatMap V :=
  { map with values := map.values.setIfInBounds index value }

namespace Steps

def assert (holds : FlatMap V → Bool) : Steps V Unit := fun map =>
  if holds map then .ok () map else .error .pastLimit map

def extentAt (index : Nat) : Steps V Span := fun map =>
  match map.extents[index]? with
  | some extent => .ok extent map
  | none => .error (.noCell index) map

def valueAt (index : Nat) : Steps V (Option V) := fun map =>
  match map.values[index]? with
  | some value => .ok value map
  | none => .error (.noCell index) map

def setExtent (extent : Span) : Steps V Unit := fun map =>
  if extent.start ≤ extent.stop ∧ extent.stop ≤ map.extents.size then .ok () (map.spread extent)
  else .error (.noCells extent) map

def clearValues (span : Span) : Steps V Unit := fun map =>
  if span.start ≤ span.stop ∧ span.stop ≤ map.values.size then .ok () (map.unset span)
  else .error (.noCells span) map

def setValue (index : Nat) (value : Option V) : Steps V Unit := fun map =>
  if index < map.values.size then .ok () (map.put index value) else .error (.noCell index) map

/-- What sticks out behind the span, if anything does: a value, or a gap. -/
def readTail (last span : Span) : Steps V (Option (Option V)) :=
  if span.stop < last.stop then some <$> valueAt last.start else pure none

/-- What is left of the first extent keeps its value where it is. -/
def writeHead (first span : Span) : Steps V Unit :=
  if first.start < span.start then setExtent ⟨first.start, span.start⟩ else pure ()

def writeTail (last span : Span) : Option (Option V) → Steps V Unit
  | some content => do
    setExtent ⟨span.stop, last.stop⟩
    setValue span.stop content
  | none => pure ()

def countWrite : Steps V Unit := fun map => .ok () { map with revision := map.revision + 1 }

def writeCells (first last span : Span) (tail : Option (Option V)) (value : V) : Steps V Unit := do
  writeHead first span
  setExtent span
  clearValues span
  setValue span.start (some value)
  writeTail last span tail
  countWrite

end Steps

open Steps in
/-- The write as it is done in place. All that it keeps of the old extents is read before the first
cell is written. -/
def overwriteCells (checked : Bool) (span : Span) (value : V) : Steps V Unit := do
  assert fun map => !checked || span.stop ≤ map.limit
  if span.isEmpty then
    pure ()
  else
    let first ← extentAt span.start
    let last ← extentAt (span.stop - 1)
    let tail ← readTail last span
    writeCells first last span tail value

open Steps in
/-- The clearing as it is done in place: one extent over all cells, and a value in none of them. -/
def clearCells : Steps V Unit := fun map =>
  (do
    setExtent ⟨0, map.limit⟩
    clearValues ⟨0, map.values.size⟩
    countWrite : Steps V Unit) map

/-- What changes the cells of a table. -/
inductive Change (V : Type) where
  | overwrite (span : Span) (value : V)
  | clear
deriving Repr

namespace Change

/-- Whether the change keeps to a domain. Only a write may not. -/
def Within (limit : Nat) : Change V → Prop
  | .overwrite span _ => span.stop ≤ limit
  | .clear => True

def cells (checked : Bool) : Change V → Steps V Unit
  | .overwrite span value => overwriteCells checked span value
  | .clear => clearCells

/-- One change after the other, up to the first that fails. -/
def run (checked : Bool) (changes : List (Change V)) : Steps V Unit :=
  changes.forM (cells checked)

end Change

end FlatMap

/-! ## Keys -/

namespace SparseMap

variable {V : Type}

namespace Tree

/-- The entry with the greatest key up to the index. -/
def floor? (stored : List (Span × V)) (index : Nat) : Option (Span × V) :=
  (stored.filter fun entry => entry.1.start ≤ index).getLast?

def lookup? (stored : List (Span × V)) (key : Nat) : Option (Span × V) :=
  stored.find? fun entry => entry.1.start = key

def remove (stored : List (Span × V)) (key : Nat) : List (Span × V) :=
  stored.filter fun entry => entry.1.start ≠ key

/-- An entry takes the place of one with its key, if there is one. -/
def insert (entry : Span × V) : List (Span × V) → List (Span × V)
  | [] => [entry]
  | head :: rest =>
    if head.1.start < entry.1.start then head :: insert entry rest
    else if head.1.start = entry.1.start then entry :: rest
    else entry :: head :: rest

/-- The keys of the entries that the span meets, all found before the first one is removed. -/
def metKeys (stored : List (Span × V)) (span : Span) : List Nat :=
  (((floor? stored span.start).filter fun entry =>
    entry.1.start < span.start ∧ span.start < entry.1.stop).toList ++
    stored.filter fun entry => span.start ≤ entry.1.start ∧ entry.1.start < span.stop).map
      (·.1.start)

/-- Removes the entry with the key, and puts back what sticks out of the span on either side. -/
def recut (span : Span) (stored : List (Span × V)) (key : Nat) : List (Span × V) :=
  match lookup? stored key with
  | none => stored
  | some (old, value) =>
    let rest := remove stored key
    let rest := if span.stop < old.stop then insert (⟨span.stop, old.stop⟩, value) rest else rest
    if old.start < span.start then insert (⟨old.start, span.start⟩, value) rest else rest

end Tree

open SparseMap.Tree in
/-- The write as it is done in place, key by key. -/
def overwriteKeys (map : SparseMap V) (span : Span) (value : V) : SparseMap V :=
  if span.isEmpty then
    map
  else
    { map with
      stored := insert (span, value) ((metKeys map.stored span).foldl (recut span) map.stored)
      revision := map.revision + 1 }

end SparseMap

namespace AdaptiveMap

variable {V : Type}

/-- What comes of the write, and the map that it leaves. A sparse map can only fail at the
assertion. -/
def overwriteInPlace (checked : Bool) (span : Span) (value : V) :
    AdaptiveMap V → Except WriteFailure Unit × AdaptiveMap V
  | .flat map =>
    match FlatMap.overwriteCells checked span value map with
    | .ok _ later => (.ok (), .flat later)
    | .error failure later => (.error failure, .flat later)
  | .sparse map =>
    if checked && map.limit < span.stop then (.error .pastLimit, .sparse map)
    else (.ok (), .sparse (map.overwriteKeys span value))

end AdaptiveMap

end LayoutTracking
