import LayoutTracking.Proofs.TableWrites

/-!
# The cells of a table

Each cell of a flat map knows the extent around its index, and all the cells of an extent know the
same one. A value stands in the first cell of an extent only, and no gap follows a gap, so that each
gap is as wide as it can be. Changes in place never fail inside the domain, and keep all of this.
-/

set_option autoImplicit false

namespace LayoutTracking

/-- The tile behind a gap is stored. -/
theorem Tiling.content_of_follows {V : Type} {start stop : Nat} {tiles : List (Tile V)}
    (tiling : Tiling start tiles stop) {tile next : Tile V} (member : tile ∈ tiles)
    (isNext : next ∈ tiles) (behind : tile.span.stop ∈ next.span) (isGap : tile.content = none) :
    next.content ≠ none := by
  obtain ⟨front, back, split⟩ := List.append_of_mem member
  rw [split] at tiling isNext
  cases tiling.from_tile with
  | cons _ inhabited apart later =>
    cases later with
    | nil =>
      have bounds := tiling.bounds isNext
      exact absurd behind.2 (Nat.not_lt_of_le bounds.2.2)
    | @cons _ _ first rest starts occupied _ _ =>
      have isFirst : first ∈ front ++ tile :: first :: rest := by simp
      obtain rfl := tiling.eq_of_mem isNext isFirst behind
        ⟨Nat.le_of_eq starts, starts ▸ occupied⟩
      exact apart isGap next rfl

namespace FlatMap

variable {V : Type} {map : FlatMap V} {tiles : List (Tile V)} {limit : Nat}

/-- What the cells of a table of so many indices have to do with one another. -/
structure InOrder (map : FlatMap V) (limit : Nat) : Prop where
  extents_size : map.extents.size = limit
  values_size : map.values.size = limit
  around : ∀ {index : Nat} {extent : Span}, map.extents[index]? = some extent →
    index ∈ extent ∧ extent.stop ≤ limit
  shared : ∀ {index : Nat} {extent : Span}, map.extents[index]? = some extent →
    ∀ other ∈ extent, map.extents[other]? = some extent
  /-- A value stands at the start of an extent. -/
  first : ∀ {index : Nat} {value : V}, map.values[index]? = some (some value) →
    ∃ extent, map.extents[index]? = some extent ∧ extent.start = index
  apart : ∀ {index : Nat} {extent next : Span}, map.extents[index]? = some extent →
    map.extents[extent.stop]? = some next → map.valueOf extent = none → map.valueOf next ≠ none

/-- No run of indices without a value reaches over a gap that it has an index in common with. -/
def GapsAreWidest (map : FlatMap V) : Prop :=
  ∀ index gap, map.extents[index]? = some gap → map.valueOf gap = none →
    ∀ run : Span, index ∈ run → run.stop ≤ map.limit →
      (∀ other ∈ run, map.value? other = none) → gap.start ≤ run.start ∧ run.stop ≤ gap.stop

theorem value?_of_getElem? {index : Nat} {extent : Span}
    (found : map.extents[index]? = some extent) : map.value? index = map.valueOf extent := by
  rw [value?, found]
  rfl

namespace InOrder

/-- The cell before an extent belongs to one that stops where the extent starts: were it to go on,
the two would be one. -/
theorem exists_before (order : map.InOrder limit) {index : Nat} {extent : Span}
    (found : map.extents[index]? = some extent) (notFirst : 0 < extent.start) :
    ∃ previous, map.extents[extent.start - 1]? = some previous ∧ previous.stop = extent.start := by
  obtain ⟨⟨reached, below⟩, bound⟩ := order.around found
  have small : extent.start - 1 < map.extents.size := by
    rw [order.extents_size]
    omega
  have before := Array.getElem?_eq_getElem small
  refine ⟨_, before, ?_⟩
  obtain ⟨⟨_, past⟩, _⟩ := order.around before
  refine Nat.le_antisymm (Nat.le_of_not_lt fun further => ?_) (by omega)
  have own := order.shared found extent.start ⟨Nat.le_refl _, Nat.lt_of_le_of_lt reached below⟩
  have same := order.shared before extent.start ⟨by omega, further⟩
  rw [own] at same
  have inside := (order.around before).1.1
  rw [← Option.some.inj same] at inside
  omega

theorem gapsAreWidest (order : map.InOrder limit) : map.GapsAreWidest := by
  intro index gap found isGap run ⟨runStarts, runStops⟩ inDomain unknown
  obtain ⟨⟨starts, stops⟩, bound⟩ := order.around found
  constructor
  · refine Nat.le_of_not_lt fun wider => ?_
    obtain ⟨previous, before, meets⟩ := order.exists_before found (by omega)
    have noValue := unknown (gap.start - 1) ⟨by omega, by omega⟩
    rw [value?_of_getElem? before] at noValue
    have own := order.shared found gap.start ⟨Nat.le_refl _, by omega⟩
    exact order.apart before (meets ▸ own) noValue isGap
  · refine Nat.le_of_not_lt fun wider => ?_
    have small : gap.stop < map.extents.size := Nat.lt_of_lt_of_le wider inDomain
    have behind := Array.getElem?_eq_getElem small
    have noValue := unknown gap.stop ⟨by omega, wider⟩
    rw [value?_of_getElem? behind] at noValue
    exact order.apart found behind isGap noValue

end InOrder

/-! ## Tables that spell tiles -/

theorem Spells.size_values (spells : map.Spells tiles) : map.values.size = map.limit := by
  have same (index : Nat) : map.values.size ≤ index ↔ map.extents.size ≤ index := by
    rw [← Array.getElem?_eq_none_iff, ← Array.getElem?_eq_none_iff, spells.values, spells.extents,
      Option.map_eq_none_iff, Option.map_eq_none_iff]
  exact Nat.le_antisymm ((same _).mpr (Nat.le_refl _)) ((same _).mp (Nat.le_refl _))

theorem Spells.inOrder (spells : map.Spells tiles) : map.InOrder map.limit := by
  have tiling := spells.tiling
  have tileOf {index : Nat} {extent : Span} (found : map.extents[index]? = some extent) :
      ∃ tile ∈ tiles, index ∈ tile.span ∧ tile.span = extent := by
    rw [spells.extents] at found
    obtain ⟨tile, here, same⟩ := Option.map_eq_some_iff.mp found
    obtain ⟨member, inside⟩ := tiling.at?_eq_some.mp here
    exact ⟨tile, member, inside, same⟩
  refine ⟨rfl, spells.size_values, ?_, ?_, ?_, ?_⟩
  · intro index extent found
    obtain ⟨tile, member, inside, rfl⟩ := tileOf found
    exact ⟨inside, (tiling.bounds member).2.2⟩
  · intro index extent found other within
    obtain ⟨tile, member, -, rfl⟩ := tileOf found
    rw [spells.extents, tiling.at?_of_mem member within]
    rfl
  · intro index value found
    rw [spells.values] at found
    obtain ⟨tile, here, cell⟩ := Option.map_eq_some_iff.mp found
    refine ⟨tile.span, by rw [spells.extents, here]; rfl, ?_⟩
    unfold Tile.cellAt at cell
    split at cell
    · next starts => exact starts.symm
    · cases cell
  · intro index extent next found follows isGap
    obtain ⟨tile, member, -, rfl⟩ := tileOf found
    obtain ⟨other, isNext, behind, rfl⟩ := tileOf follows
    rw [spells.valueOf_eq member] at isGap
    rw [spells.valueOf_eq isNext]
    exact tiling.content_of_follows member isNext behind isGap

/-- No cell is outside the one extent, so that each is as in a new table. -/
theorem Spells.clearCells_eq (spells : map.Spells tiles) : clearCells map = .ok () map.clear := by
  have values := spells.size_values
  have extents : (map.spread ⟨0, map.limit⟩).extents = Array.replicate map.limit ⟨0, map.limit⟩ := by
    refine Array.ext (by simp [limit]) fun index bound _ => ?_
    have small : index < map.limit := by simpa [limit] using bound
    simp [spread, Span.mem_iff, small]
  have noValues : (map.unset ⟨0, map.values.size⟩).values = Array.replicate map.limit none := by
    refine Array.ext (by simp [values]) fun index bound _ => ?_
    have small : index < map.values.size := by simpa using bound
    simp [unset, Span.mem_iff, small]
  have spread : Steps.setExtent ⟨0, map.limit⟩ map = .ok () (map.spread ⟨0, map.limit⟩) :=
    Steps.setExtent_eq_ok (Nat.zero_le _) (Nat.le_refl _)
  rw [clearCells, Steps.bind_ok spread, Steps.bind_ok (Steps.clearValues_eq_ok (Nat.zero_le _)
    (Nat.le_refl _))]
  simp only [Steps.countWrite, clear, FlatMap.empty, ← extents, ← noValues]
  rfl

/-- A change in place goes through in the domain, and leaves a table of tiles again. -/
theorem Spells.exists_changed (spells : map.Spells tiles) (checked : Bool) {change : Change V}
    (within : change.Within map.limit) :
    ∃ later tiles, change.cells checked map = .ok () later ∧ later.Spells tiles ∧
      later.limit = map.limit := by
  cases change with
  | clear =>
    exact ⟨map.clear, _, spells.clearCells_eq, LawfulSpanMap.holds_clear (M := FlatMap V) spells,
      LawfulSpanMap.limit_clear map⟩
  | overwrite span value =>
    cases empty : span.isEmpty with
    | true => exact ⟨map, tiles, overwriteCells_of_isEmpty value empty within, spells, rfl⟩
    | false =>
      have inhabited := Span.isEmpty_eq_false_iff.mp empty
      exact ⟨map.overwrite span value, _,
        spells.overwriteCells_eq checked value inhabited within,
        spells.overwrite value inhabited within, limit_overwrite map span value⟩

theorem Spells.exists_run (spells : map.Spells tiles) (checked : Bool) {changes : List (Change V)}
    (within : ∀ change ∈ changes, change.Within map.limit) :
    ∃ later tiles, Change.run checked changes map = .ok () later ∧ later.Spells tiles ∧
      later.limit = map.limit := by
  induction changes generalizing map tiles with
  | nil => exact ⟨map, tiles, rfl, spells, rfl⟩
  | cons change rest ih =>
    obtain ⟨here, later⟩ := List.forall_mem_cons.mp within
    obtain ⟨changed, _, done, changedSpells, sameLimit⟩ := spells.exists_changed checked here
    obtain ⟨final, tiles, finished, finalSpells, finalLimit⟩ :=
      ih changedSpells (sameLimit.symm ▸ later)
    exact ⟨final, tiles, (Steps.bind_ok done).trans finished, finalSpells,
      finalLimit.trans sameLimit⟩

/-- Every run of changes in the domain of a new table goes through, with its assertion on or off,
and leaves the cells in order. -/
theorem inOrder_after_changes (limit : Nat) (checked : Bool) (changes : List (Change V))
    (within : ∀ change ∈ changes, change.Within limit) :
    ∃ map, Change.run checked changes (FlatMap.empty limit) = .ok () map ∧ map.InOrder limit ∧
      map.GapsAreWidest := by
  have size : (FlatMap.empty limit : FlatMap V).limit = limit := Array.size_replicate
  obtain ⟨map, tiles, finished, spells, sameLimit⟩ :=
    (spells_empty limit).exists_run checked (size.symm ▸ within)
  have order := spells.inOrder
  rw [sameLimit, size] at order
  exact ⟨map, finished, order, order.gapsAreWidest⟩

/-- A hole is punched, the head of what is stored before it is overwritten up to the hole's middle,
and writes over nothing stand in between. -/
theorem inOrder_after_punches :
    let changes : List (Change Nat) :=
      [.overwrite ⟨1, 9⟩ 1, .overwrite ⟨5, 5⟩ 7, .overwrite ⟨4, 7⟩ 2, .overwrite ⟨9, 3⟩ 7,
        .overwrite ⟨0, 5⟩ 3]
    (∀ change ∈ changes, change.Within 12) ∧
      ∃ map, Change.run true changes (FlatMap.empty 12) = .ok () map ∧ map.InOrder 12 ∧
        map.GapsAreWidest ∧
        map.extents.toList = List.replicate 5 ⟨0, 5⟩ ++ List.replicate 2 ⟨5, 7⟩ ++
          List.replicate 2 ⟨7, 9⟩ ++ List.replicate 3 ⟨9, 12⟩ := by
  intro changes
  have within : ∀ change ∈ changes, change.Within 12 := by simp [changes, Change.Within]
  obtain ⟨map, finished, order, widest⟩ := inOrder_after_changes 12 true changes within
  have extents : (match Change.run true changes (FlatMap.empty 12) with
      | .ok _ map => map.extents.toList
      | .error .. => []) = List.replicate 5 ⟨0, 5⟩ ++ List.replicate 2 ⟨5, 7⟩ ++
        List.replicate 2 ⟨7, 9⟩ ++ List.replicate 3 ⟨9, 12⟩ := by decide
  rw [finished] at extents
  exact ⟨within, map, finished, order, widest, extents⟩

end FlatMap

end LayoutTracking
