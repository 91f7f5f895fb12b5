import LayoutTracking.Proofs.Lawful
import LayoutTracking.SpanMap.Adaptive

/-!
# The tiles behind each kind of map

A sparse map lists the stored spans of its tiles; a flat map spells out, for every index, the tile
around it. Both are lawful, and so is the adaptive map that is either of them.
-/

set_option autoImplicit false

namespace LayoutTracking

/-! ## Sparse maps -/

namespace Tiling

variable {V : Type} {start stop : Nat} {tiles : List (Tile V)}

theorem find?_stored (tiling : Tiling start tiles stop) (index : Nat) :
    (tiles.filterMap Tile.stored?).find? (fun entry => index ∈ entry.1) =
      Tile.entryAt? tiles index := by
  induction tiling with
  | nil => rfl
  | @cons start stop tile rest starts inhabited apart later ih =>
    obtain ⟨span, content⟩ := tile
    by_cases inside : index ∈ span
    · cases content with
      | some value => simp [Tile.entryAt?, Tile.at?, inside]
      | none =>
        have past : Tile.at? rest index = none := later.at?_eq_none (.inl inside.2)
        have skipped := ih.trans (by rw [Tile.entryAt?, past, Option.bind_none])
        rw [List.filterMap_cons, Tile.stored?_gap, skipped]
        simp [Tile.entryAt?, Tile.at?, inside]
    · cases content with
      | some value => simpa [Tile.entryAt?, Tile.at?, inside] using ih
      | none => simpa [Tile.entryAt?, Tile.at?, inside] using ih

theorem last_stop {front back : List (Tile V)} {tile : Tile V}
    (tiling : Tiling start (front ++ tile :: back) stop) (isGap : tile.content = none) :
    (front.filterMap Tile.stored?).getLast?.elim start (·.1.stop) = tile.span.start := by
  rcases List.eq_nil_or_concat' front with rfl | ⟨earlier, last, rfl⟩
  · cases tiling with
    | cons starts _ _ _ => exact starts.symm
  · rw [List.append_assoc] at tiling
    obtain ⟨middle, -, left⟩ := tiling.split
    cases left with
    | cons _ _ apart later =>
      cases later with
      | cons starts _ _ _ =>
        obtain ⟨span, content⟩ := last
        cases content with
        | none => exact absurd isGap (apart rfl tile rfl)
        | some value => simpa using starts.symm

theorem first_start {back : List (Tile V)} {tile : Tile V}
    (tiling : Tiling start (tile :: back) stop) (isGap : tile.content = none) :
    (back.filterMap Tile.stored?).head?.elim stop (·.1.start) = tile.span.stop := by
  cases tiling with
  | cons _ _ apart later =>
    cases later with
    | nil => rfl
    | @cons _ _ next _ starts _ _ _ =>
      obtain ⟨span, content⟩ := next
      cases content with
      | none => exact absurd rfl (apart isGap _ rfl)
      | some value => simpa using starts

end Tiling

namespace SparseMap

variable {V : Type} {map : SparseMap V} {tiles : List (Tile V)}

structure Lists (map : SparseMap V) (tiles : List (Tile V)) : Prop where
  tiling : Tiling 0 tiles map.limit
  stored : map.stored = tiles.filterMap Tile.stored?

theorem Lists.get?_eq (lists : map.Lists tiles) (index : Nat) :
    map.get? index = Tile.entryAt? tiles index := by
  rw [get?, lists.stored, lists.tiling.find?_stored]

/-- A gap lies between the last span that starts before the index and the first one after it. -/
theorem Lists.gapAt_eq (lists : map.Lists tiles) {tile : Tile V} (member : tile ∈ tiles)
    {index : Nat} (inside : index ∈ tile.span) (isGap : tile.content = none) :
    map.gapAt index = tile.span := by
  have bounds := lists.tiling.bounds member
  obtain ⟨front, other, back, rfl, around, early, late⟩ :=
    lists.tiling.cut_at (Nat.zero_le index) (Nat.lt_of_lt_of_le inside.2 bounds.2.2)
  obtain rfl : tile = other := by
    have here := lists.tiling.at?_of_mem member inside
    rw [lists.tiling.at?_of_mem (by simp) around] at here
    exact (Option.some.inj here).symm
  have entries : map.stored =
      front.filterMap Tile.stored? ++ back.filterMap Tile.stored? := by
    simp [lists.stored, Tile.stored?, isGap]
  have frontStarts : ∀ entry ∈ front.filterMap Tile.stored?, entry.1.start ≤ index := by
    intro entry member
    obtain ⟨earlier, within, found⟩ := List.mem_filterMap.mp member
    have bounds := early.bounds within
    obtain rfl := Tile.stored?_eq_some.mp found
    have inside := inside.1
    dsimp only at bounds
    omega
  have backStarts : ∀ entry ∈ back.filterMap Tile.stored?, index < entry.1.start := by
    intro entry member
    obtain ⟨later, within, found⟩ := List.mem_filterMap.mp member
    have bounds := late.bounds within
    obtain rfl := Tile.stored?_eq_some.mp found
    have inside := inside.2
    dsimp only at bounds
    omega
  have begins : (map.stored.filter fun entry => entry.1.start ≤ index) =
      front.filterMap Tile.stored? := by
    rw [entries, List.filter_append, List.filter_eq_self.mpr, List.filter_eq_nil_iff.mpr,
      List.append_nil]
    · intro entry member
      have := backStarts entry member
      simpa using this
    · intro entry member
      simpa using frontStarts entry member
  have stops : (map.stored.find? fun entry => index < entry.1.start) =
      (back.filterMap Tile.stored?).head? := by
    rw [entries, List.find?_append, List.find?_eq_none.mpr, Option.none_or]
    · cases rest : back.filterMap Tile.stored? with
      | nil => rfl
      | cons entry others =>
        have later := backStarts entry (by simp [rest])
        simp [later]
    · intro entry member
      have := frontStarts entry member
      simpa using this
  obtain ⟨middle, -, left⟩ := lists.tiling.split
  rw [gapAt, begins, stops, lists.tiling.last_stop isGap, left.first_start isGap]

theorem Lists.locate_eq (lists : map.Lists tiles) (index : Nat) :
    map.locate index = Tile.slotAt tiles index := by
  unfold locate Tile.slotAt
  by_cases past : map.limit ≤ index
  · rw [if_pos past, lists.tiling.at?_eq_none (.inr past)]
    rfl
  · rw [if_neg past, lists.get?_eq]
    obtain ⟨tile, found⟩ := lists.tiling.exists_at? (Nat.zero_le index) (Nat.lt_of_not_le past)
    obtain ⟨member, inside⟩ := lists.tiling.at?_eq_some.mp found
    rw [Tile.entryAt?, found]
    cases stored : tile.content with
    | some value => simp [Tile.stored?, Tile.slot, stored]
    | none => simp [Tile.stored?, Tile.slot, stored, lists.gapAt_eq member inside stored]

theorem filterMap_part (cut : Span → Span) (tiles : List (Tile V)) :
    (tiles.filterMap Tile.stored?).filterMap (part cut) =
      (tiles.filterMap (Tile.trim cut)).filterMap Tile.stored? := by
  rw [List.filterMap_filterMap, List.filterMap_filterMap]
  refine List.filterMap_congr fun tile _ => ?_
  obtain ⟨span, content⟩ := tile
  by_cases vanishes : (cut span).isEmpty = true <;>
    cases content <;> simp [Tile.stored?, Tile.trim, part, vanishes]

theorem Lists.overwrite (lists : map.Lists tiles) {span : Span} (value : V)
    (inhabited : span.start < span.stop) (bound : span.stop ≤ map.limit) :
    (map.overwrite span value).Lists (Tile.write tiles span value) := by
  have nonempty : span.isEmpty = false := Span.isEmpty_eq_false_iff.mpr inhabited
  constructor
  · simpa [SparseMap.overwrite, nonempty] using
      lists.tiling.write value inhabited (Nat.zero_le _) bound
  · simp [SparseMap.overwrite, nonempty, lists.stored, Tile.write, filterMap_part]

theorem lists_empty (limit : Nat) :
    (SparseMap.empty limit : SparseMap V).Lists (Tile.gap ⟨0, limit⟩) := by
  refine ⟨Tiling.gap _, ?_⟩
  simp [SparseMap.empty, Tile.gap]

instance : LawfulSpanMap (SparseMap V) V where
  Holds := Lists
  tiling lists := lists.tiling
  size_eq lists := congrArg List.length lists.stored
  locate_eq index lists := lists.locate_eq index
  get?_eq index lists := lists.get?_eq index
  overwrite_of_isEmpty value isEmpty := by
    simp [SpanMap.overwrite, SparseMap.overwrite, isEmpty]
  holds_overwrite value lists inhabited bound := lists.overwrite value inhabited bound
  limit_overwrite map span value := by
    simp only [SpanMap.limit, SpanMap.overwrite, SparseMap.overwrite]
    split <;> rfl
  revision_overwrite value inhabited bound := by
    simp [SpanMap.revision, SpanMap.overwrite, SparseMap.overwrite,
      Span.isEmpty_eq_false_iff.mpr inhabited]
  holds_clear {map _} _ := by
    obtain ⟨tiling, stored⟩ := lists_empty (V := V) map.limit
    exact ⟨tiling, stored⟩
  limit_clear _ := rfl
  revision_clear _ := rfl

theorem holds_empty (limit : Nat) :
    LawfulSpanMap.Holds (SparseMap.empty limit : SparseMap V) (Tile.gap ⟨0, limit⟩) :=
  lists_empty limit

end SparseMap

/-! ## Flat maps -/

def Tile.cells {V : Type} (tile : Tile V) : List (Option V) :=
  tile.content :: List.replicate (tile.span.length - 1) none

def Tile.cellAt {V : Type} (index : Nat) (tile : Tile V) : Option V :=
  if index = tile.span.start then tile.content else none

theorem Tile.getElem?_cells {V : Type} (tile : Tile V) (inhabited : tile.span.start < tile.span.stop)
    {offset : Nat} (within : offset < tile.span.length) :
    tile.cells[offset]? = some (tile.cellAt (tile.span.start + offset)) := by
  cases offset with
  | zero => simp [cells, cellAt]
  | succ offset =>
    have later : tile.span.start + (offset + 1) ≠ tile.span.start := by omega
    simp only [Span.length] at within
    simp only [cells, cellAt, List.getElem?_cons_succ, List.getElem?_replicate, Span.length, later,
      ↓reduceIte]
    rw [if_pos (by omega)]

theorem Tile.length_cells {V : Type} (tile : Tile V) (inhabited : tile.span.start < tile.span.stop) :
    tile.cells.length = tile.span.length := by
  simp only [cells, List.length_cons, List.length_replicate, Span.length]
  omega

theorem Tiling.getElem?_cells {V : Type} {start stop : Nat} {tiles : List (Tile V)}
    (tiling : Tiling start tiles stop) (offset : Nat) :
    (tiles.flatMap Tile.cells)[offset]? =
      (Tile.at? tiles (start + offset)).map (Tile.cellAt (start + offset)) := by
  induction tiling generalizing offset with
  | nil => simp [Tile.at?]
  | @cons start stop tile rest starts inhabited apart later ih =>
    subst starts
    have length := tile.length_cells inhabited
    rw [List.flatMap_cons]
    by_cases inside : tile.span.start + offset < tile.span.stop
    · have around : tile.span.start + offset ∈ tile.span := ⟨by omega, inside⟩
      have within : offset < tile.span.length := by
        simp only [Span.length]
        omega
      rw [List.getElem?_append_left (by omega), tile.getElem?_cells inhabited within]
      simp [Tile.at?, around]
    · have past : tile.span.start + offset ∉ tile.span := fun around => inside around.2
      have shifted : tile.span.start + offset =
          tile.span.stop + (offset - tile.span.length) := by
        simp only [Span.length]
        omega
      rw [List.getElem?_append_right (by simp only [Span.length] at length; omega), length, ih,
        ← shifted]
      simp [Tile.at?, past]

theorem countP_cells {V : Type} (tiles : List (Tile V)) :
    (tiles.flatMap Tile.cells).countP Option.isSome = (tiles.filterMap Tile.stored?).length := by
  induction tiles with
  | nil => rfl
  | cons tile rest ih =>
    obtain ⟨span, content⟩ := tile
    rw [List.flatMap_cons, List.countP_append, ih]
    cases content with
    | none => simp [Tile.cells, List.countP_replicate, List.filterMap_cons]
    | some value =>
      simp only [Tile.cells, List.countP_cons, List.countP_replicate, List.filterMap_cons,
        Tile.stored?_known, List.length_cons, Option.isSome_some, Option.isSome_none,
        Bool.false_eq_true, ↓reduceIte]
      omega

namespace FlatMap

variable {V : Type} {map : FlatMap V} {tiles : List (Tile V)}

structure Spells (map : FlatMap V) (tiles : List (Tile V)) : Prop where
  tiling : Tiling 0 tiles map.limit
  extents : ∀ index, map.extents[index]? = (Tile.at? tiles index).map Tile.span
  values : ∀ index, map.values[index]? = (Tile.at? tiles index).map (Tile.cellAt index)

theorem Spells.valueOf_eq (spells : map.Spells tiles) {tile : Tile V} (member : tile ∈ tiles) :
    map.valueOf tile.span = tile.content := by
  have bounds := spells.tiling.bounds member
  have here := spells.tiling.at?_of_mem member
    (show tile.span.start ∈ tile.span from ⟨Nat.le_refl _, bounds.2.1⟩)
  simp [valueOf, spells.values, here, Tile.cellAt]

theorem Spells.locate_eq (spells : map.Spells tiles) (index : Nat) :
    map.locate index = Tile.slotAt tiles index := by
  unfold locate Tile.slotAt
  rw [spells.extents]
  cases found : Tile.at? tiles index with
  | none => rfl
  | some tile =>
    have member := (spells.tiling.at?_eq_some.mp found).1
    simp only [Option.map_some, Option.elim_some, spells.valueOf_eq member]
    cases stored : tile.content <;> simp [Tile.slot, stored]

theorem Spells.get?_eq (spells : map.Spells tiles) (index : Nat) :
    map.get? index = Tile.entryAt? tiles index := by
  unfold get? Tile.entryAt?
  rw [spells.extents]
  cases found : Tile.at? tiles index with
  | none => rfl
  | some tile =>
    have member := (spells.tiling.at?_eq_some.mp found).1
    cases stored : tile.content <;>
      simp [Tile.stored?, bind, pure, spells.valueOf_eq member, stored]

theorem Spells.value?_eq (spells : map.Spells tiles) (index : Nat) :
    map.value? index = (Tile.at? tiles index).bind Tile.content := by
  unfold value?
  rw [spells.extents]
  cases found : Tile.at? tiles index with
  | none => rfl
  | some tile =>
    exact spells.valueOf_eq (spells.tiling.at?_eq_some.mp found).1

theorem Spells.size_eq (spells : map.Spells tiles) :
    map.size = (tiles.filterMap Tile.stored?).length := by
  have spelled : map.values.toList = tiles.flatMap Tile.cells := by
    refine List.ext_getElem? fun index => ?_
    rw [spells.tiling.getElem?_cells, Array.getElem?_toList, spells.values, Nat.zero_add]
  rw [size, ← Array.countP_toList, spelled, countP_cells]

theorem limit_overwrite (map : FlatMap V) (span : Span) (value : V) :
    (map.overwrite span value).limit = map.limit := by
  unfold overwrite
  split
  · rfl
  · simp [limit]

theorem Spells.not_mem_of_at?_eq_none (spells : map.Spells tiles) {span : Span}
    (bound : span.stop ≤ map.limit) {index : Nat} (missing : Tile.at? tiles index = none) :
    index ∉ span := by
  intro inside
  obtain ⟨tile, found⟩ := spells.tiling.exists_at? (Nat.zero_le index)
    (Nat.lt_of_lt_of_le inside.2 bound)
  rw [missing] at found
  cases found

/-- The cell of an index that a write leaves alone: the first cell after the span written takes
over the content of the tile that was there, all others stay. -/
theorem Spells.cellAt_trimmed (spells : map.Spells tiles) {span : Span} {tile : Tile V}
    {index : Nat} (inhabited : span.start < span.stop) (found : Tile.at? tiles index = some tile)
    (outside : index ∉ span) :
    (if index = span.stop then map.value? index else Tile.cellAt index tile) =
      Tile.cellAt index { tile with
        span := if index < span.start then tile.span.before span else tile.span.after span } := by
  have around := (spells.tiling.at?_eq_some.mp found).2
  simp only [Span.mem_iff] at outside around
  by_cases early : index < span.start
  · have apart : index ≠ span.stop := by omega
    simp [apart, early, Tile.cellAt, Span.before]
  · by_cases first : index = span.stop
    · subst first
      have starts : max tile.span.start span.stop = span.stop := Nat.max_eq_right around.1
      simp [early, Tile.cellAt, Span.after, starts, spells.value?_eq, found]
    · have starts : index = max tile.span.start span.stop ↔ index = tile.span.start := by omega
      simp only [first, early, ↓reduceIte, Tile.cellAt, Span.after, starts]

theorem Spells.overwrite (spells : map.Spells tiles) {span : Span} (value : V)
    (inhabited : span.start < span.stop) (bound : span.stop ≤ map.limit) :
    (map.overwrite span value).Spells (Tile.write tiles span value) := by
  have refused : (span.isEmpty || decide (map.limit < span.stop)) = false := by
    rw [Span.isEmpty_eq_false_iff.mpr inhabited, decide_eq_false (Nat.not_lt_of_le bound)]
    rfl
  have around := spells.tiling.at?_write value inhabited (Nat.zero_le _) bound
  refine ⟨?_, fun index => ?_, fun index => ?_⟩
  · rw [limit_overwrite]
    exact spells.tiling.write value inhabited (Nat.zero_le _) bound
  · rw [FlatMap.overwrite, refused, if_neg Bool.false_ne_true, Array.getElem?_mapIdx,
      spells.extents, around]
    cases found : Tile.at? tiles index with
    | none => simp [spells.not_mem_of_at?_eq_none bound found]
    | some tile =>
      by_cases inside : index ∈ span
      · simp [inside]
      · by_cases early : index < span.start <;> simp [inside, early]
  · rw [FlatMap.overwrite, refused, if_neg Bool.false_ne_true, Array.getElem?_mapIdx,
      spells.values, around]
    cases found : Tile.at? tiles index with
    | none => simp [spells.not_mem_of_at?_eq_none bound found]
    | some tile =>
      by_cases inside : index ∈ span
      · simp [inside, Tile.cellAt]
      · have notFirst : index ≠ span.start := fun same =>
          inside ⟨Nat.le_of_eq same.symm, same ▸ inhabited⟩
        simpa [inside, notFirst] using spells.cellAt_trimmed inhabited found inside

theorem spells_empty (limit : Nat) :
    (FlatMap.empty limit : FlatMap V).Spells (Tile.gap ⟨0, limit⟩) := by
  have tiling : Tiling 0 (Tile.gap ⟨0, limit⟩ : List (Tile V)) limit := Tiling.gap limit
  have around (index : Nat) : Tile.at? (Tile.gap ⟨0, limit⟩ : List (Tile V)) index =
      if index < limit then some ⟨⟨0, limit⟩, none⟩ else none := by
    by_cases within : index < limit
    · rw [if_pos within]
      refine tiling.at?_of_mem ?_ ⟨Nat.zero_le _, within⟩
      simp [Tile.gap_of_lt (show (Span.mk 0 limit).start < (Span.mk 0 limit).stop from
        Nat.zero_lt_of_lt within)]
    · rw [if_neg within]
      exact tiling.at?_eq_none (.inr (Nat.le_of_not_lt within))
  refine ⟨?_, fun index => ?_, fun index => ?_⟩
  · simpa [FlatMap.empty, FlatMap.limit] using tiling
  · rw [around]
    by_cases within : index < limit <;> simp [FlatMap.empty, within]
  · rw [around]
    by_cases within : index < limit <;>
      simp [FlatMap.empty, within, Tile.cellAt]

instance : LawfulSpanMap (FlatMap V) V where
  Holds := Spells
  tiling spells := spells.tiling
  size_eq spells := spells.size_eq
  locate_eq index spells := spells.locate_eq index
  get?_eq index spells := spells.get?_eq index
  overwrite_of_isEmpty value isEmpty := by
    simp [SpanMap.overwrite, FlatMap.overwrite, isEmpty]
  holds_overwrite value spells inhabited bound := spells.overwrite value inhabited bound
  limit_overwrite map span value := limit_overwrite map span value
  revision_overwrite value inhabited bound := by
    have within : ¬ FlatMap.limit _ < _ := Nat.not_lt_of_le bound
    simp [SpanMap.revision, SpanMap.overwrite, FlatMap.overwrite,
      Span.isEmpty_eq_false_iff.mpr inhabited, within]
  holds_clear {map _} _ := by
    obtain ⟨tiling, extents, values⟩ := spells_empty (V := V) map.limit
    exact ⟨tiling, extents, values⟩
  limit_clear map := by simp [SpanMap.limit, SpanMap.clear, clear, FlatMap.empty, limit]
  revision_clear _ := rfl

theorem holds_empty (limit : Nat) :
    LawfulSpanMap.Holds (FlatMap.empty limit : FlatMap V) (Tile.gap ⟨0, limit⟩) :=
  spells_empty limit

end FlatMap

/-! ## Adaptive maps -/

namespace AdaptiveMap

variable {V : Type}

def Holds : AdaptiveMap V → List (Tile V) → Prop
  | .flat map, tiles => LawfulSpanMap.Holds map tiles
  | .sparse map, tiles => LawfulSpanMap.Holds map tiles

instance : LawfulSpanMap (AdaptiveMap V) V where
  Holds := Holds
  tiling {map _} holds := by
    cases map with
    | flat map => exact LawfulSpanMap.tiling (M := FlatMap V) holds
    | sparse map => exact LawfulSpanMap.tiling (M := SparseMap V) holds
  size_eq {map _} holds := by
    cases map with
    | flat map => exact LawfulSpanMap.size_eq (M := FlatMap V) holds
    | sparse map => exact LawfulSpanMap.size_eq (M := SparseMap V) holds
  locate_eq {map _} index holds := by
    cases map with
    | flat map => exact LawfulSpanMap.locate_eq (M := FlatMap V) index holds
    | sparse map => exact LawfulSpanMap.locate_eq (M := SparseMap V) index holds
  get?_eq {map _} index holds := by
    cases map with
    | flat map => exact LawfulSpanMap.get?_eq (M := FlatMap V) index holds
    | sparse map => exact LawfulSpanMap.get?_eq (M := SparseMap V) index holds
  overwrite_of_isEmpty {map _} value isEmpty := by
    cases map with
    | flat map => exact congrArg flat (LawfulSpanMap.overwrite_of_isEmpty value isEmpty)
    | sparse map => exact congrArg sparse (LawfulSpanMap.overwrite_of_isEmpty value isEmpty)
  holds_overwrite {map _ _} value holds inhabited bound := by
    cases map with
    | flat map => exact LawfulSpanMap.holds_overwrite (M := FlatMap V) value holds inhabited bound
    | sparse map =>
      exact LawfulSpanMap.holds_overwrite (M := SparseMap V) value holds inhabited bound
  limit_overwrite map span value := by
    cases map with
    | flat map => exact LawfulSpanMap.limit_overwrite map span value
    | sparse map => exact LawfulSpanMap.limit_overwrite map span value
  revision_overwrite {map _} value inhabited bound := by
    cases map with
    | flat map => exact LawfulSpanMap.revision_overwrite (M := FlatMap V) value inhabited bound
    | sparse map => exact LawfulSpanMap.revision_overwrite (M := SparseMap V) value inhabited bound
  holds_clear {map _} holds := by
    cases map with
    | flat map => exact LawfulSpanMap.holds_clear (M := FlatMap V) holds
    | sparse map => exact LawfulSpanMap.holds_clear (M := SparseMap V) holds
  limit_clear map := by
    cases map with
    | flat map => exact LawfulSpanMap.limit_clear map
    | sparse map => exact LawfulSpanMap.limit_clear map
  revision_clear map := by
    cases map with
    | flat map => exact LawfulSpanMap.revision_clear map
    | sparse map => exact LawfulSpanMap.revision_clear map

theorem holds_emptied (map : AdaptiveMap V) :
    LawfulSpanMap.Holds map.emptied (Tile.gap ⟨0, SpanMap.limit map⟩) := by
  cases map with
  | flat map => exact FlatMap.holds_empty map.limit
  | sparse map => exact SparseMap.holds_empty map.limit

theorem limit_emptied (map : AdaptiveMap V) : SpanMap.limit map.emptied = SpanMap.limit map := by
  cases map with
  | flat map => exact Array.size_replicate
  | sparse map => rfl

theorem holds_empty (limit threshold : Nat) :
    LawfulSpanMap.Holds (AdaptiveMap.empty limit threshold : AdaptiveMap V)
      (Tile.gap ⟨0, limit⟩) := by
  unfold AdaptiveMap.empty
  split
  · exact FlatMap.holds_empty limit
  · exact SparseMap.holds_empty limit

theorem limit_empty (limit threshold : Nat) :
    SpanMap.limit (AdaptiveMap.empty limit threshold : AdaptiveMap V) = limit := by
  unfold AdaptiveMap.empty
  split
  · exact Array.size_replicate
  · rfl

end AdaptiveMap

end LayoutTracking
