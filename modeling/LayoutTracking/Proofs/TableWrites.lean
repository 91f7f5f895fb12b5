import LayoutTracking.Proofs.Backends
import LayoutTracking.SpanMap.InPlace

/-!
# Writing into a flat map

A write into the table keeps what sticks out of its span on either side. The value on the left is
where it was, the one on the right has to be moved. In the domain the cells come to what the map is
after the write; past the limit the first reads find no cell, and nothing was written yet.
-/

set_option autoImplicit false

namespace LayoutTracking

/-- Two tiles of a tiling that have an index in common are one. -/
theorem Tiling.eq_of_mem {V : Type} {start stop : Nat} {tiles : List (Tile V)}
    (tiling : Tiling start tiles stop) {left right : Tile V} (inLeft : left ∈ tiles)
    (inRight : right ∈ tiles) {index : Nat} (leftHas : index ∈ left.span)
    (rightHas : index ∈ right.span) : left = right := by
  have found := tiling.at?_of_mem inLeft leftHas
  rw [tiling.at?_of_mem inRight rightHas] at found
  exact (Option.some.inj found).symm

namespace FlatMap

variable {V : Type}

/-- The table after all cells of a write are written. -/
def cut (map : FlatMap V) (first last span : Span) (content : Option V) (value : V) :
    FlatMap V where
  extents :=
    (((map.spread ⟨first.start, span.start⟩).spread span).spread ⟨span.stop, last.stop⟩).extents
  values :=
    let stored := (map.unset span).put span.start (some value)
    if span.stop < last.stop then (stored.put span.stop content).values else stored.values
  revision := map.revision + 1

variable {map later : FlatMap V} {span : Span}

theorem spread_of_isEmpty (nothing : span.isEmpty = true) : map.spread span = map := by
  have missed (index : Nat) : index ∉ span := fun inside =>
    Nat.not_lt_of_le (Span.isEmpty_iff.mp nothing) (Nat.lt_of_le_of_lt inside.1 inside.2)
  have same : map.extents.mapIdx (fun _ old => old) = map.extents := by
    apply Array.ext <;> simp
  simp [spread, missed, same]

@[simp] theorem size_extents_spread : (map.spread span).extents.size = map.extents.size := by
  simp [spread]

@[simp] theorem size_values_unset : (map.unset span).values.size = map.values.size := by
  simp [unset]

@[simp] theorem size_values_put {index : Nat} {value : Option V} :
    (map.put index value).values.size = map.values.size := by
  simp [put]

theorem getElem?_extents_spread (index : Nat) : (map.spread span).extents[index]? =
    map.extents[index]?.map fun old => if index ∈ span then span else old := by
  simp [spread]

theorem getElem?_values_unset (index : Nat) : (map.unset span).values[index]? =
    map.values[index]?.map fun old => if index ∈ span then none else old := by
  simp [unset]

theorem getElem?_values_put (index other : Nat) (value : Option V) :
    (map.put index value).values[other]? =
      map.values[other]?.map fun old => if other = index then value else old := by
  by_cases same : index = other
  · subst same
    by_cases bound : index < map.values.size <;> simp [put, bound]
  · simp [put, same, Ne.symm same]

namespace Steps

theorem bind_ok {α β : Type} {steps : Steps V α} {rest : α → Steps V β} {result : α}
    (done : steps map = .ok result later) : (steps >>= rest) map = rest result later := by
  simp only [bind, EStateM.bind, done]

theorem bind_error {α β : Type} {steps : Steps V α} {rest : α → Steps V β} {failure : WriteFailure}
    (failed : steps map = .error failure later) : (steps >>= rest) map = .error failure later := by
  simp only [bind, EStateM.bind, failed]

theorem extentAt_eq_ok {index : Nat} {extent : Span} (found : map.extents[index]? = some extent) :
    extentAt index map = .ok extent map := by
  simp [extentAt, found]

theorem extentAt_eq_error {index : Nat} (missing : map.extents[index]? = none) :
    extentAt index map = .error (.noCell index) map := by
  simp [extentAt, missing]

theorem setExtent_eq_ok {extent : Span} (ordered : extent.start ≤ extent.stop)
    (bound : extent.stop ≤ map.extents.size) :
    setExtent extent map = .ok () (map.spread extent) := if_pos ⟨ordered, bound⟩

theorem clearValues_eq_ok (ordered : span.start ≤ span.stop)
    (bound : span.stop ≤ map.values.size) : clearValues span map = .ok () (map.unset span) :=
  if_pos ⟨ordered, bound⟩

theorem setValue_eq_ok {index : Nat} (value : Option V) (bound : index < map.values.size) :
    setValue index value map = .ok () (map.put index value) := if_pos bound

/-- Spreading nothing changes nothing, so the head can be taken to be written always. -/
theorem writeHead_eq_ok {first : Span} (starts : first.start ≤ span.start)
    (bound : span.start ≤ map.extents.size) :
    writeHead first span map = .ok () (map.spread ⟨first.start, span.start⟩) := by
  by_cases head : first.start < span.start
  · rw [writeHead, if_pos head]
    exact setExtent_eq_ok starts bound
  · rw [writeHead, if_neg head, spread_of_isEmpty (Span.isEmpty_iff.mpr (Nat.le_of_not_lt head))]
    rfl

theorem readTail_eq_ok {last : Span} {content : Option V}
    (found : map.values[last.start]? = some content) :
    readTail last span map =
      .ok (if span.stop < last.stop then some content else none) map := by
  by_cases tail : span.stop < last.stop
  · simp [readTail, tail, Functor.map, EStateM.map, valueAt, found]
  · simp [readTail, tail, pure, EStateM.pure]

theorem writeTail_eq_ok {last : Span} (content : Option V) (bound : last.stop ≤ map.extents.size)
    (values : span.stop < last.stop → span.stop < map.values.size) :
    writeTail last span (if span.stop < last.stop then some content else none) map =
      .ok () (if span.stop < last.stop then
          (map.spread ⟨span.stop, last.stop⟩).put span.stop content
        else map.spread ⟨span.stop, last.stop⟩) := by
  by_cases tail : span.stop < last.stop
  · have written : setExtent ⟨span.stop, last.stop⟩ map =
        .ok () (map.spread ⟨span.stop, last.stop⟩) :=
      setExtent_eq_ok (Nat.le_of_lt tail) bound
    rw [if_pos tail, if_pos tail]
    exact (bind_ok written).trans (setValue_eq_ok content (values tail))
  · rw [if_neg tail, if_neg tail, spread_of_isEmpty (Span.isEmpty_iff.mpr (Nat.le_of_not_lt tail))]
    rfl

/-- The table after all cells are written. -/
theorem writeCells_eq_ok {first last : Span} (value : V) (content : Option V)
    (inhabited : span.start < span.stop) (starts : first.start ≤ span.start)
    (extents : last.stop ≤ map.extents.size) (reached : span.stop ≤ map.extents.size)
    (values : span.stop ≤ map.values.size)
    (behind : span.stop < last.stop → span.stop < map.values.size) :
    writeCells first last span (if span.stop < last.stop then some content else none) value map =
      .ok () (map.cut first last span content value) := by
  have ordered := Nat.le_of_lt inhabited
  have head : writeHead first span map = .ok () (map.spread ⟨first.start, span.start⟩) :=
    writeHead_eq_ok starts (Nat.le_trans ordered reached)
  rw [writeCells, bind_ok head, bind_ok (setExtent_eq_ok ordered (by simpa using reached)),
    bind_ok (clearValues_eq_ok ordered (by simpa [spread] using values)),
    bind_ok (setValue_eq_ok (some value)
      (by simpa [spread] using Nat.lt_of_lt_of_le inhabited values)),
    bind_ok (writeTail_eq_ok content (by simpa [put, unset] using extents)
      (by simpa [spread] using behind))]
  by_cases tail : span.stop < last.stop
  · simp [cut, tail, countWrite, spread, unset, put]
  · simp [cut, tail, countWrite, spread, unset, put]

end Steps

variable {checked : Bool}

theorem overwriteCells_of_isEmpty (value : V) (nothing : span.isEmpty = true)
    (bound : span.stop ≤ map.limit) : overwriteCells checked span value map = .ok () map := by
  have inDomain : (!checked || decide (span.stop ≤ map.limit)) = true := by simp [bound]
  rw [overwriteCells, Steps.bind_ok (if_pos inDomain), if_pos nothing]
  rfl

theorem overwriteCells_pastLimit (map : FlatMap V) (checked : Bool) (value : V)
    (inhabited : span.start < span.stop) (past : map.limit < span.stop) :
    ∃ failure, overwriteCells checked span value map = .error failure map := by
  have nonempty := Span.isEmpty_eq_false_iff.mpr inhabited
  have noLast : map.extents[span.stop - 1]? = none :=
    Array.getElem?_eq_none (by simp only [limit] at past; omega)
  cases checked with
  | true =>
    have asserted : (!true || decide (span.stop ≤ map.limit)) ≠ true := by simp [past]
    exact ⟨_, Steps.bind_error (if_neg asserted)⟩
  | false =>
    rw [overwriteCells, Steps.bind_ok (if_pos rfl), if_neg (Bool.eq_false_iff.mp nonempty)]
    cases first : map.extents[span.start]? with
    | none => exact ⟨_, Steps.bind_error (Steps.extentAt_eq_error first)⟩
    | some extent =>
      rw [Steps.bind_ok (Steps.extentAt_eq_ok first)]
      exact ⟨_, Steps.bind_error (Steps.extentAt_eq_error noLast)⟩

variable {tiles : List (Tile V)} {first last tile : Tile V} {index : Nat}

/-- The extents written in place are those of the cut: the head is what the cut leaves of the first
tile, the tail what it leaves of the last, and no other tile reaches across an end of the span. -/
theorem cut_extent (tiling : Tiling 0 tiles map.limit) (inhabited : span.start < span.stop)
    (isFirst : first ∈ tiles) (firstHas : span.start ∈ first.span)
    (isLast : last ∈ tiles) (lastHas : span.stop - 1 ∈ last.span)
    (member : tile ∈ tiles) (around : index ∈ tile.span) :
    (if index ∈ Span.mk span.stop last.span.stop then Span.mk span.stop last.span.stop
      else if index ∈ span then span
      else if index ∈ Span.mk first.span.start span.start then Span.mk first.span.start span.start
      else tile.span) =
    if index ∈ span then span
    else if index < span.start then tile.span.before span else tile.span.after span := by
  by_cases inside : index ∈ span
  · have early : index ∉ Span.mk span.stop last.span.stop := fun tail =>
      Nat.not_lt_of_le tail.1 inside.2
    rw [if_neg early, if_pos inside, if_pos inside]
  · rw [if_neg inside, if_neg inside]
    by_cases early : index < span.start
    · have noTail : index ∉ Span.mk span.stop last.span.stop := fun tail =>
        Nat.lt_asymm early (Nat.lt_of_lt_of_le inhabited tail.1)
      rw [if_neg noTail, if_pos early]
      by_cases head : index ∈ Span.mk first.span.start span.start
      · obtain rfl := tiling.eq_of_mem member isFirst around ⟨head.1, Nat.lt_trans early firstHas.2⟩
        rw [if_pos head, Span.before, Nat.min_eq_right (Nat.le_of_lt firstHas.2)]
      · have reached : tile.span.stop ≤ span.start := by
          apply Nat.le_of_not_lt
          intro across
          obtain rfl := tiling.eq_of_mem member isFirst
            ⟨Nat.le_trans around.1 (Nat.le_of_lt early), across⟩ firstHas
          exact head ⟨around.1, early⟩
        rw [if_neg head, Span.before, Nat.min_eq_left reached]
    · have late : span.stop ≤ index := Nat.le_of_not_lt fun bound =>
        inside ⟨Nat.le_of_not_lt early, bound⟩
      have noHead : index ∉ Span.mk first.span.start span.start := fun head => early head.2
      rw [if_neg noHead, if_neg early]
      by_cases tail : index ∈ Span.mk span.stop last.span.stop
      · have lastStarts := lastHas.1
        obtain rfl := tiling.eq_of_mem member isLast around
          ⟨Nat.le_trans lastStarts (by omega), tail.2⟩
        rw [if_pos tail, Span.after, Nat.max_eq_right (by omega)]
      · have reached : span.stop ≤ tile.span.start := by
          apply Nat.le_of_not_lt
          intro across
          have past := around.2
          obtain rfl := tiling.eq_of_mem member isLast ⟨by omega, by omega⟩ lastHas
          exact tail ⟨late, around.2⟩
        rw [if_neg tail, Span.after, Nat.max_eq_left reached]

/-- The first cell behind the span takes over the content of the last tile. Where that tile ends
with the span, the cell is the first of the next tile already. -/
theorem cut_value (spells : map.Spells tiles) (value : V) (inhabited : span.start < span.stop)
    (isLast : last ∈ tiles) (lastHas : span.stop - 1 ∈ last.span)
    (found : Tile.at? tiles index = some tile) :
    (if span.stop < last.span.stop ∧ index = span.stop then last.content
      else if index = span.start then some value
      else if index ∈ span then none
      else Tile.cellAt index tile) =
    if index = span.start then some value
    else if index ∈ span then none
    else if index = span.stop then map.value? index
    else Tile.cellAt index tile := by
  by_cases inside : index ∈ span
  · have notBehind : index ≠ span.stop := Nat.ne_of_lt inside.2
    simp only [notBehind, and_false, inside, ↓reduceIte]
  · have notFirst : index ≠ span.start := fun same =>
      inside ⟨Nat.le_of_eq same.symm, same ▸ inhabited⟩
    simp only [notFirst, inside, ↓reduceIte]
    by_cases behind : index = span.stop
    · subst behind
      obtain ⟨member, around⟩ := spells.tiling.at?_eq_some.mp found
      have starts := lastHas.1
      rw [if_pos rfl, spells.value?_eq, found]
      by_cases tail : span.stop < last.span.stop
      · obtain rfl := spells.tiling.eq_of_mem member isLast around ⟨by omega, tail⟩
        rw [if_pos ⟨tail, rfl⟩]
        rfl
      · have first : span.stop = tile.span.start := by
          apply Nat.le_antisymm _ around.1
          apply Nat.le_of_not_lt
          intro across
          have past := around.2
          obtain rfl := spells.tiling.eq_of_mem member isLast ⟨by omega, by omega⟩ lastHas
          exact tail past
        rw [if_neg (fun both => tail both.1), Tile.cellAt, if_pos first]
        rfl
    · rw [if_neg behind, if_neg (fun both => behind both.2)]

theorem Spells.lt_size_values (spells : map.Spells tiles) (bound : index < map.limit) :
    index < map.values.size := by
  obtain ⟨tile, found⟩ := spells.tiling.exists_at? (Nat.zero_le index) bound
  have cell := spells.values index
  rw [found] at cell
  exact (Array.getElem?_eq_some_iff.mp cell).1

theorem Spells.extents_cut (spells : map.Spells tiles) (content : Option V) (value : V)
    (inhabited : span.start < span.stop) (isFirst : first ∈ tiles)
    (firstHas : span.start ∈ first.span) (isLast : last ∈ tiles)
    (lastHas : span.stop - 1 ∈ last.span) :
    (map.cut first.span last.span span content value).extents =
      map.extents.mapIdx fun index extent =>
        if index ∈ span then span
        else if index < span.start then extent.before span
        else extent.after span := by
  apply Array.ext_getElem?
  intro index
  rw [cut, getElem?_extents_spread, getElem?_extents_spread, getElem?_extents_spread,
    Array.getElem?_mapIdx, spells.extents]
  cases found : Tile.at? tiles index with
  | none => rfl
  | some tile =>
    obtain ⟨member, around⟩ := spells.tiling.at?_eq_some.mp found
    exact congrArg some
      (cut_extent spells.tiling inhabited isFirst firstHas isLast lastHas member around)

theorem getElem?_values_cut (first last : Span) (content : Option V) (value : V) (index : Nat) :
    (map.cut first last span content value).values[index]? = map.values[index]?.map fun old =>
      if span.stop < last.stop ∧ index = span.stop then content
      else if index = span.start then some value
      else if index ∈ span then none
      else old := by
  by_cases tail : span.stop < last.stop
  · simp only [cut, tail, true_and, ↓reduceIte, getElem?_values_put, getElem?_values_unset,
      Option.map_map]
    rfl
  · simp only [cut, tail, false_and, ↓reduceIte, getElem?_values_put, getElem?_values_unset,
      Option.map_map]
    rfl

theorem Spells.values_cut (spells : map.Spells tiles) (first : Span) (value : V)
    (inhabited : span.start < span.stop) (isLast : last ∈ tiles)
    (lastHas : span.stop - 1 ∈ last.span) :
    (map.cut first last.span span last.content value).values =
      map.values.mapIdx fun index old =>
        if index = span.start then some value
        else if index ∈ span then none
        else if index = span.stop then map.value? index
        else old := by
  apply Array.ext_getElem?
  intro index
  rw [Array.getElem?_mapIdx, getElem?_values_cut, spells.values]
  cases found : Tile.at? tiles index with
  | none => rfl
  | some tile => exact congrArg some (cut_value spells value inhabited isLast lastHas found)

theorem Spells.cut_eq (spells : map.Spells tiles) (value : V) (inhabited : span.start < span.stop)
    (bound : span.stop ≤ map.limit) (isFirst : first ∈ tiles) (firstHas : span.start ∈ first.span)
    (isLast : last ∈ tiles) (lastHas : span.stop - 1 ∈ last.span) :
    map.cut first.span last.span span last.content value = map.overwrite span value := by
  have accepted : (span.isEmpty || decide (map.limit < span.stop)) = false := by
    simp [Span.isEmpty_eq_false_iff.mpr inhabited, bound]
  rw [FlatMap.overwrite, accepted, if_neg Bool.false_ne_true,
    ← spells.extents_cut last.content value inhabited isFirst firstHas isLast lastHas,
    ← spells.values_cut first.span value inhabited isLast lastHas]
  rfl

/-- In the domain the write in place goes through, and comes to what the table is after it. -/
theorem Spells.overwriteCells_eq (spells : map.Spells tiles) (checked : Bool) (value : V)
    (inhabited : span.start < span.stop) (bound : span.stop ≤ map.limit) :
    overwriteCells checked span value map = .ok () (map.overwrite span value) := by
  have tiling := spells.tiling
  obtain ⟨first, foundFirst⟩ := tiling.exists_at? (Nat.zero_le span.start) (by omega)
  obtain ⟨last, foundLast⟩ := tiling.exists_at? (Nat.zero_le (span.stop - 1)) (by omega)
  obtain ⟨isFirst, firstHas⟩ := tiling.at?_eq_some.mp foundFirst
  obtain ⟨isLast, lastHas⟩ := tiling.at?_eq_some.mp foundLast
  have lastBounds := tiling.bounds isLast
  have valuesBound : span.stop ≤ map.values.size := by
    have lastBound : span.stop - 1 < map.values.size := spells.lt_size_values (by omega)
    omega
  have inDomain : (!checked || decide (span.stop ≤ map.limit)) = true := by simp [bound]
  have nonempty := Span.isEmpty_eq_false_iff.mpr inhabited
  have readFirst : map.extents[span.start]? = some first.span := by
    rw [spells.extents, foundFirst]
    rfl
  have readLast : map.extents[span.stop - 1]? = some last.span := by
    rw [spells.extents, foundLast]
    rfl
  have readContent : map.values[last.span.start]? = some last.content := by
    rw [spells.values, tiling.at?_of_mem isLast ⟨Nat.le_refl _, lastBounds.2.1⟩]
    simp [Tile.cellAt]
  rw [overwriteCells, Steps.bind_ok (if_pos inDomain), if_neg (Bool.eq_false_iff.mp nonempty),
    Steps.bind_ok (Steps.extentAt_eq_ok readFirst), Steps.bind_ok (Steps.extentAt_eq_ok readLast),
    Steps.bind_ok (Steps.readTail_eq_ok readContent),
    Steps.writeCells_eq_ok value last.content inhabited firstHas.1 lastBounds.2.2 bound valuesBound
      (fun tail => spells.lt_size_values (Nat.lt_of_lt_of_le tail lastBounds.2.2)),
    spells.cut_eq value inhabited bound isFirst firstHas isLast lastHas]

end FlatMap

end LayoutTracking
