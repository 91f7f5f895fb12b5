import LayoutTracking.Proofs.Tiling

/-!
# Lawful span maps

What a map has to do for its operations to be read off its tiles. The walks of a map over its
stored spans depend on nothing else, so their laws hold of every kind of map at once.
-/

set_option autoImplicit false

namespace LayoutTracking

/-- The slots of a map in ascending order, with what is stored there: the spans that the map
yields, and the gaps that these leave. -/
def SpanMap.tiles {M V : Type} [SpanMap M V] (map : M) : List (Tile V) := Tile.between (limit map) 0 (entries map)

/-- What the tiles say of an index: past the last one there is only the empty gap. -/
def Tile.slotAt {V : Type} (tiles : List (Tile V)) (index : Nat) : Slot :=
  (Tile.at? tiles index).elim (.gap (.emptyAt index)) Tile.slot

def Tile.entryAt? {V : Type} (tiles : List (Tile V)) (index : Nat) : Option (Span × V) :=
  (Tile.at? tiles index).bind Tile.stored?

/-- The laws of a span map. Every answer follows from the tiles that the map holds, and a write
inside the domain cuts through these. -/
class LawfulSpanMap (M : Type) (V : outParam Type) [SpanMap M V] where
  /-- The map is in good order and stands for the tiles. -/
  Holds : M → List (Tile V) → Prop
  tiling {map : M} {tiles : List (Tile V)} :
    Holds map tiles → Tiling 0 tiles (SpanMap.limit map)
  size_eq {map : M} {tiles : List (Tile V)} :
    Holds map tiles → SpanMap.size map = (tiles.filterMap Tile.stored?).length
  locate_eq {map : M} {tiles : List (Tile V)} (index : Nat) :
    Holds map tiles → SpanMap.locate map index = Tile.slotAt tiles index
  get?_eq {map : M} {tiles : List (Tile V)} (index : Nat) :
    Holds map tiles → SpanMap.get? map index = Tile.entryAt? tiles index
  overwrite_of_isEmpty {map : M} {span : Span} (value : V) :
    span.isEmpty = true → SpanMap.overwrite map span value = map
  holds_overwrite {map : M} {tiles : List (Tile V)} {span : Span} (value : V) :
    Holds map tiles → span.start < span.stop → span.stop ≤ SpanMap.limit map →
      Holds (SpanMap.overwrite map span value) (Tile.write tiles span value)
  limit_overwrite (map : M) (span : Span) (value : V) :
    SpanMap.limit (SpanMap.overwrite map span value) = SpanMap.limit map
  revision_overwrite {map : M} {span : Span} (value : V) :
    span.start < span.stop → span.stop ≤ SpanMap.limit map →
      SpanMap.revision (SpanMap.overwrite map span value) = SpanMap.revision map + 1
  holds_clear {map : M} {tiles : List (Tile V)} :
    Holds map tiles → Holds (SpanMap.clear map) (Tile.gap ⟨0, SpanMap.limit map⟩)
  limit_clear (map : M) : SpanMap.limit (SpanMap.clear map) = SpanMap.limit map
  revision_clear (map : M) : SpanMap.revision (SpanMap.clear map) = SpanMap.revision map + 1

theorem Tiling.gap {V : Type} (limit : Nat) : Tiling 0 (Tile.gap ⟨0, limit⟩ : List (Tile V)) limit := by
  cases limit with
  | zero => exact .nil
  | succ limit =>
    rw [Tile.gap_of_lt (Nat.zero_lt_succ limit)]
    exact .cons rfl (Nat.zero_lt_succ limit) (fun _ next first => by simp at first) .nil

/-! ## Walking over the stored spans -/

namespace SpanMap

variable {M V : Type} [SpanMap M V] [LawfulSpanMap M V] {map : M} {tiles : List (Tile V)}

theorem locate_of_mem (holds : LawfulSpanMap.Holds map tiles) {tile : Tile V}
    (member : tile ∈ tiles) {index : Nat} (inside : index ∈ tile.span) :
    locate map index = tile.slot := by
  rw [LawfulSpanMap.locate_eq index holds, Tile.slotAt,
    (LawfulSpanMap.tiling holds).at?_of_mem member inside]
  rfl

theorem get?_of_mem (holds : LawfulSpanMap.Holds map tiles) {tile : Tile V}
    (member : tile ∈ tiles) {index : Nat} (inside : index ∈ tile.span) :
    get? map index = tile.stored? := by
  rw [LawfulSpanMap.get?_eq index holds, Tile.entryAt?,
    (LawfulSpanMap.tiling holds).at?_of_mem member inside]
  rfl

theorem advance_eq {index stop : Nat} (inside : index < stop) : advance index stop = stop :=
  Nat.max_eq_right inside

/-- A walk that stands in the first of the tiles that are left meets those that begin before its
stop. No later tile begins before the first one stops, so that the tiles left are met alike from
the index and from there. -/
theorem entriesFrom_suffix (holds : LawfulSpanMap.Holds map tiles) {back : List (Tile V)}
    {start index stop : Nat} (members : ∀ tile ∈ back, tile ∈ tiles)
    (left : Tiling start back (limit map)) (reached : start ≤ index)
    (around : ∀ first ∈ back.head?, index < first.span.stop) (bound : stop ≤ limit map) :
    entriesFrom map stop index =
      (back.filter fun tile => max tile.span.start index < stop).filterMap Tile.stored? := by
  induction back generalizing start index with
  | nil =>
    cases left with
    | nil =>
      unfold entriesFrom
      rw [if_neg (by omega)]
      rfl
  | cons tile rest ih =>
    cases left with
    | cons starts inhabited apart later =>
      have inside : index ∈ tile.span := ⟨by omega, around tile rfl⟩
      have member := members tile List.mem_cons_self
      unfold entriesFrom
      by_cases more : index < stop
      · have onward := ih (fun next within => members next (.tail _ within)) later
          (Nat.le_refl tile.span.stop) (fun next first => by
            obtain ⟨others, rfl⟩ := List.head?_eq_some_iff.mp first
            have bounds := later.bounds List.mem_cons_self
            omega)
        have sameRest : rest.filter (fun next => max next.span.start index < stop) =
            rest.filter (fun next => max next.span.start tile.span.stop < stop) := by
          refine List.filter_congr fun next within => ?_
          have bounds := later.bounds within
          have inside := inside.2
          rw [Nat.max_eq_left (by omega), Nat.max_eq_left (by omega)]
        have kept : max tile.span.start index < stop := by
          rw [Nat.max_eq_right inside.1]
          exact more
        rw [if_pos more, locate_of_mem holds member inside, List.filter_cons,
          if_pos (decide_eq_true kept), List.filterMap_cons, sameRest, ← onward]
        obtain ⟨span, content⟩ := tile
        cases content with
        | some value =>
          have found := get?_of_mem holds member ⟨Nat.le_refl _, inhabited⟩
          simp [Tile.slot, found, advance_eq inside.2]
        | none =>
          simp [Tile.slot, advance_eq inside.2, Nat.not_le_of_lt inside.2]
      · rw [if_neg more]
        symm
        refine List.filterMap_eq_nil_iff.mpr fun other within => ?_
        have kept := List.of_mem_filter within
        simp only [decide_eq_true_eq] at kept
        omega

/-- A query yields the stored spans that have an index in common with it, whole and ascending. -/
theorem entriesIn_eq (holds : LawfulSpanMap.Holds map tiles) (query : Span) :
    entriesIn map query =
      (tiles.filter fun tile => tile.span.overlaps query).filterMap Tile.stored? := by
  have tiling := LawfulSpanMap.tiling holds
  unfold entriesIn
  by_cases some : query.start < min query.stop (limit map)
  · obtain ⟨front, tile, back, rfl, inside, early, late⟩ :=
      tiling.cut_at (Nat.zero_le query.start) (by omega)
    have left := tiling.from_tile
    have frontMissed : front.filter (fun other => other.span.overlaps query) = [] := by
      refine List.filter_eq_nil_iff.mpr fun other within => ?_
      have bounds := early.bounds within
      have inside := inside.1
      rw [Span.overlaps_iff]
      omega
    have backMet : (tile :: back).filter (fun other => other.span.overlaps query) =
        (tile :: back).filter fun other =>
          max other.span.start query.start < min query.stop (limit map) := by
      refine List.filter_congr fun other within => ?_
      have bounds := left.bounds within
      have inside := inside.2
      rw [Bool.eq_iff_iff, Span.overlaps_iff, decide_eq_true_iff]
      rcases List.mem_cons.mp within with rfl | later
      · omega
      · have bounds := late.bounds later
        omega
    rw [List.filter_append, frontMissed, List.nil_append, backMet]
    refine entriesFrom_suffix holds (fun other within => List.mem_append_right front within) left
      inside.1 (fun first isFirst => ?_) (Nat.min_le_right _ _)
    obtain rfl := Option.some.inj isFirst
    exact inside.2
  · have missed : tiles.filter (fun tile => tile.span.overlaps query) = [] := by
      refine List.filter_eq_nil_iff.mpr fun tile member => ?_
      have bounds := tiling.bounds member
      rw [Span.overlaps_iff]
      omega
    unfold entriesFrom
    rw [if_neg some, missed]
    rfl

theorem entries_eq (holds : LawfulSpanMap.Holds map tiles) :
    entries map = tiles.filterMap Tile.stored? := by
  have everything : tiles.filter (fun tile => tile.span.overlaps ⟨0, limit map⟩) = tiles := by
    refine List.filter_eq_self.mpr fun tile member => ?_
    have bounds := (LawfulSpanMap.tiling holds).bounds member
    rw [Span.overlaps_iff]
    dsimp only
    omega
  rw [entries, entriesIn_eq holds, everything]

theorem entries_ascending (holds : LawfulSpanMap.Holds map tiles) :
    (entries map).Pairwise fun earlier later => earlier.1.stop ≤ later.1.start := by
  rw [entries_eq holds]
  refine List.pairwise_filterMap.mpr ((LawfulSpanMap.tiling holds).ascending.imp ?_)
  intro earlier later before first isFirst second isSecond
  obtain rfl := Tile.stored?_eq_some.mp isFirst
  obtain rfl := Tile.stored?_eq_some.mp isSecond
  exact before

theorem entries_apart (holds : LawfulSpanMap.Holds map tiles) :
    (entries map).Pairwise fun earlier later => ∀ index ∈ earlier.1, index ∉ later.1 :=
  (entries_ascending holds).imp fun ordered _ inEarlier inLater =>
    Nat.not_lt_of_le (Nat.le_trans ordered inLater.1) inEarlier.2

/-- No two tilings fit one map: its answers determine the tiles. -/
theorem tiles_eq (holds : LawfulSpanMap.Holds map tiles) : SpanMap.tiles map = tiles := by
  rw [SpanMap.tiles, entries_eq holds, (LawfulSpanMap.tiling holds).between_entries]

end SpanMap

end LayoutTracking
