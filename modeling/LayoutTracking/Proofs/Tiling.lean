import LayoutTracking.SpanMap.Basic
import Mathlib.Data.List.Basic

/-!
# Tilings

The slots of a span map, in ascending order, tile the indices below its limit. A tiling with the
stored values is all there is to a map, whichever way the map keeps it: every answer of a map can
be read off its tiles, and every write is a cut through them.
-/

set_option autoImplicit false

namespace LayoutTracking

theorem Span.overlaps_iff {left right : Span} :
    left.overlaps right = true ↔ max left.start right.start < min left.stop right.stop := by
  rw [overlaps, Bool.not_eq_true', isEmpty_eq_false_iff]
  simp only [intersect]
  omega

/-- A slot together with what is stored there. A gap has no content. -/
structure Tile (V : Type) where
  span : Span
  content : Option V
deriving DecidableEq, Repr

namespace Tile

variable {V : Type}

def slot (tile : Tile V) : Slot :=
  match tile.content with
  | some _ => .known tile.span
  | none => .gap tile.span

def stored? (tile : Tile V) : Option (Span × V) := tile.content.map (tile.span, ·)

def trim (cut : Span → Span) (tile : Tile V) : Option (Tile V) :=
  if (cut tile.span).isEmpty then none else some { tile with span := cut tile.span }

def at? (tiles : List (Tile V)) (index : Nat) : Option (Tile V) :=
  tiles.find? fun tile => index ∈ tile.span

/-- The tiles after a value is stored over `span`: what sticks out of the span on either side
keeps its content. -/
def write (tiles : List (Tile V)) (span : Span) (value : V) : List (Tile V) :=
  tiles.filterMap (trim (·.before span)) ++
    ⟨span, some value⟩ :: tiles.filterMap (trim (·.after span))

def gap (span : Span) : List (Tile V) := if span.isEmpty then [] else [⟨span, none⟩]

/-- The tiles from `start` to `stop` for the given stored spans, with gaps wherever these leave
room. -/
def between (stop : Nat) : Nat → List (Span × V) → List (Tile V)
  | start, [] => gap ⟨start, stop⟩
  | start, (span, value) :: rest =>
    gap ⟨start, span.start⟩ ++ ⟨span, some value⟩ :: between stop span.stop rest

theorem extent_slot (tile : Tile V) : tile.slot.extent = tile.span := by
  unfold slot
  split <;> rfl

theorem stored?_eq_some {tile : Tile V} {entry : Span × V} :
    tile.stored? = some entry ↔ tile = ⟨entry.1, some entry.2⟩ := by
  obtain ⟨span, content⟩ := tile
  obtain ⟨stored, value⟩ := entry
  cases content with
  | none => simp [stored?]
  | some other => simp [stored?]

@[simp] theorem stored?_known (span : Span) (value : V) :
    stored? ⟨span, some value⟩ = some (span, value) := rfl

@[simp] theorem stored?_gap (span : Span) : stored? (⟨span, none⟩ : Tile V) = none := rfl

theorem trim_of_lt {cut : Span → Span} {tile : Tile V}
    (inhabited : (cut tile.span).start < (cut tile.span).stop) :
    tile.trim cut = some { tile with span := cut tile.span } := by
  simp [trim, Span.isEmpty_eq_false_iff.mpr inhabited]

theorem trim_of_le {cut : Span → Span} {tile : Tile V}
    (vanishes : (cut tile.span).stop ≤ (cut tile.span).start) : tile.trim cut = none := by
  simp [trim, Span.isEmpty_iff.mpr vanishes]

theorem gap_of_lt {span : Span} (inhabited : span.start < span.stop) :
    gap span = [(⟨span, none⟩ : Tile V)] := by
  simp [gap, Span.isEmpty_eq_false_iff.mpr inhabited]

@[simp] theorem gap_self (index : Nat) : gap ⟨index, index⟩ = ([] : List (Tile V)) := by
  simp [gap, Span.isEmpty]

end Tile

/-- The tiles follow one another from `start` to `stop` without hole or overlap. Each has an
index, and no gap follows a gap. -/
inductive Tiling {V : Type} : Nat → List (Tile V) → Nat → Prop where
  | nil {start : Nat} : Tiling start [] start
  | cons {start stop : Nat} {tile : Tile V} {rest : List (Tile V)} :
      tile.span.start = start → tile.span.start < tile.span.stop →
      (tile.content = none → ∀ next ∈ rest.head?, next.content ≠ none) →
      Tiling tile.span.stop rest stop → Tiling start (tile :: rest) stop

namespace Tiling

variable {V : Type} {start stop : Nat} {tiles : List (Tile V)}

theorem le (tiling : Tiling start tiles stop) : start ≤ stop := by
  induction tiling with
  | nil => exact Nat.le_refl _
  | cons starts inhabited _ _ ih => omega

theorem bounds (tiling : Tiling start tiles stop) {tile : Tile V} (member : tile ∈ tiles) :
    start ≤ tile.span.start ∧ tile.span.start < tile.span.stop ∧ tile.span.stop ≤ stop := by
  induction tiling with
  | nil => cases member
  | cons starts inhabited _ later ih =>
    have ends := later.le
    rcases List.mem_cons.mp member with rfl | member
    · omega
    · have := ih member
      omega

theorem ascending (tiling : Tiling start tiles stop) :
    tiles.Pairwise fun earlier later => earlier.span.stop ≤ later.span.start := by
  induction tiling with
  | nil => exact .nil
  | cons starts inhabited _ later ih =>
    refine List.pairwise_cons.mpr ⟨?_, ih⟩
    intro other member
    exact (later.bounds member).1

theorem split {front back : List (Tile V)} (tiling : Tiling start (front ++ back) stop) :
    ∃ middle, Tiling start front middle ∧ Tiling middle back stop := by
  induction front generalizing start with
  | nil => exact ⟨start, .nil, tiling⟩
  | cons tile front ih =>
    cases tiling with
    | cons starts inhabited apart later =>
      obtain ⟨middle, before, after⟩ := ih later
      refine ⟨middle, .cons starts inhabited ?_ before, after⟩
      intro isGap next first
      exact apart isGap next (by cases front <;> simp_all)

theorem from_tile {front back : List (Tile V)} {tile : Tile V}
    (tiling : Tiling start (front ++ tile :: back) stop) :
    Tiling tile.span.start (tile :: back) stop := by
  obtain ⟨middle, -, left⟩ := tiling.split
  cases left with
  | cons starts inhabited apart later => exact .cons rfl inhabited apart later

theorem append_stored {front back : List (Tile V)} {tile : Tile V}
    (before : Tiling start front tile.span.start) (inhabited : tile.span.start < tile.span.stop)
    (stored : tile.content ≠ none) (after : Tiling tile.span.stop back stop) :
    Tiling start (front ++ tile :: back) stop := by
  generalize reached : tile.span.start = middle at before
  induction before with
  | nil => exact .cons reached inhabited (fun isGap => absurd isGap stored) after
  | cons starts occupied apart _ ih =>
    refine .cons starts occupied ?_ (ih reached)
    intro isGap next first
    rename_i earlier rest _
    cases rest with
    | nil =>
      obtain rfl : tile = next := by simpa using first
      exact stored
    | cons head rest => exact apart isGap next (by simpa using first)

/-! ## The tile around an index -/

theorem at?_of_mem (tiling : Tiling start tiles stop) {tile : Tile V} (member : tile ∈ tiles)
    {index : Nat} (inside : index ∈ tile.span) : Tile.at? tiles index = some tile := by
  induction tiling with
  | nil => cases member
  | cons starts inhabited _ later ih =>
    rcases List.mem_cons.mp member with rfl | member
    · simp [Tile.at?, inside]
    · have bounds := later.bounds member
      have past : index ∉ (Tile.span ‹Tile V›) := by
        simp only [Span.mem_iff] at inside ⊢
        omega
      simpa [Tile.at?, past] using ih member

theorem at?_eq_none (tiling : Tiling start tiles stop) {index : Nat}
    (outside : index < start ∨ stop ≤ index) : Tile.at? tiles index = none := by
  refine List.find?_eq_none.mpr fun tile member => ?_
  have bounds := tiling.bounds member
  simp only [decide_eq_true_eq, Span.mem_iff]
  omega

theorem cut_at (tiling : Tiling start tiles stop) {index : Nat} (least : start ≤ index)
    (bound : index < stop) :
    ∃ front tile back, tiles = front ++ tile :: back ∧ index ∈ tile.span ∧
      Tiling start front tile.span.start ∧ Tiling tile.span.stop back stop := by
  induction tiling with
  | nil => omega
  | @cons start stop tile rest starts inhabited apart later ih =>
    by_cases here : index < tile.span.stop
    · subst starts
      exact ⟨[], tile, rest, rfl, ⟨least, here⟩, .nil, later⟩
    · obtain ⟨front, found, back, rfl, inside, before, after⟩ := ih (by omega) bound
      refine ⟨tile :: front, found, back, rfl, inside, ?_, after⟩
      refine .cons starts inhabited ?_ before
      intro isGap next first
      exact apart isGap next (by cases front <;> simp_all)

theorem exists_at? (tiling : Tiling start tiles stop) {index : Nat} (least : start ≤ index)
    (bound : index < stop) : ∃ tile, Tile.at? tiles index = some tile := by
  obtain ⟨front, tile, back, rfl, inside, -, -⟩ := tiling.cut_at least bound
  exact ⟨tile, tiling.at?_of_mem (by simp) inside⟩

theorem at?_eq_some (tiling : Tiling start tiles stop) {index : Nat} {tile : Tile V} :
    Tile.at? tiles index = some tile ↔ tile ∈ tiles ∧ index ∈ tile.span := by
  constructor
  · intro found
    exact ⟨List.mem_of_find?_eq_some found, by simpa using List.find?_some found⟩
  · rintro ⟨member, inside⟩
    exact tiling.at?_of_mem member inside

/-! ## Tilings and their stored spans -/

/-- The gaps of a tiling are where its stored spans leave room, so these determine the rest. No gap
follows another, which would be told as one with it. -/
theorem between_entries (tiling : Tiling start tiles stop) :
    Tile.between stop start (tiles.filterMap Tile.stored?) = tiles := by
  induction tiling with
  | nil => simp [Tile.between]
  | @cons start stop tile rest starts inhabited apart later ih =>
    subst starts
    obtain ⟨span, content⟩ := tile
    cases content with
    | some value => simpa [Tile.between] using ih
    | none =>
      have room : Tile.gap span = [(⟨span, none⟩ : Tile V)] := Tile.gap_of_lt inhabited
      cases later with
      | nil =>
        simp only [List.filterMap_cons, Tile.stored?_gap, List.filterMap_nil]
        exact room
      | @cons _ _ next rest meets _ _ _ =>
        obtain ⟨value, stored⟩ := Option.ne_none_iff_exists'.mp (apart rfl next rfl)
        obtain ⟨nextSpan, nextContent⟩ := next
        obtain rfl : nextContent = some value := stored
        replace meets : nextSpan.start = span.stop := meets
        simp only [List.filterMap_cons, Tile.stored?_gap, Tile.stored?_known, Tile.between,
          meets, Tile.gap_self, List.nil_append, List.cons.injEq, true_and] at ih ⊢
        rw [ih, room, List.singleton_append]

/-! ## Writing -/

theorem before_self (tiling : Tiling start tiles stop) (span : Span) (past : stop ≤ span.start) :
    tiles.filterMap (Tile.trim (·.before span)) = tiles := by
  have untouched : ∀ tile ∈ tiles, tile.trim (·.before span) = some tile := by
    intro tile member
    have bounds := tiling.bounds member
    have same : tile.span.before span = tile.span := by
      simp only [Span.before, Nat.min_eq_left (Nat.le_trans bounds.2.2 past)]
    rw [Tile.trim_of_lt (by rw [same]; exact bounds.2.1), same]
  rw [List.filterMap_congr untouched, List.filterMap_some]

theorem before_nil (tiling : Tiling start tiles stop) (span : Span) (past : span.start ≤ start) :
    tiles.filterMap (Tile.trim (·.before span)) = [] := by
  refine List.filterMap_eq_nil_iff.mpr fun tile member => Tile.trim_of_le ?_
  have bounds := tiling.bounds member
  simp only [Span.before]
  omega

theorem after_self (tiling : Tiling start tiles stop) (span : Span) (past : span.stop ≤ start) :
    tiles.filterMap (Tile.trim (·.after span)) = tiles := by
  have untouched : ∀ tile ∈ tiles, tile.trim (·.after span) = some tile := by
    intro tile member
    have bounds := tiling.bounds member
    have same : tile.span.after span = tile.span := by
      simp only [Span.after, Nat.max_eq_left (Nat.le_trans past bounds.1)]
    rw [Tile.trim_of_lt (by rw [same]; exact bounds.2.1), same]
  rw [List.filterMap_congr untouched, List.filterMap_some]

theorem after_nil (tiling : Tiling start tiles stop) (span : Span) (past : stop ≤ span.stop) :
    tiles.filterMap (Tile.trim (·.after span)) = [] := by
  refine List.filterMap_eq_nil_iff.mpr fun tile member => Tile.trim_of_le ?_
  have bounds := tiling.bounds member
  simp only [Span.after]
  omega

theorem head_before (tiling : Tiling start tiles stop) {span : Span} {first : Tile V}
    (isFirst : first ∈ (tiles.filterMap (Tile.trim (·.before span))).head?) :
    ∃ tile ∈ tiles.head?, tile.content = first.content := by
  cases tiling with
  | nil => simp at isFirst
  | @cons _ _ tile rest starts inhabited apart later =>
    refine ⟨tile, rfl, ?_⟩
    by_cases reached : span.start ≤ start
    · have whole : Tiling start (tile :: rest) stop := .cons starts inhabited apart later
      simp [whole.before_nil span reached] at isFirst
    · have kept : (tile.span.before span).start < (tile.span.before span).stop := by
        simp only [Span.before]
        omega
      rw [List.filterMap_cons, Tile.trim_of_lt kept] at isFirst
      obtain rfl := Option.some.inj isFirst
      rfl

theorem before (tiling : Tiling start tiles stop) (span : Span) (least : start ≤ span.start)
    (bound : span.start ≤ stop) :
    Tiling start (tiles.filterMap (Tile.trim (·.before span))) span.start := by
  induction tiling with
  | nil =>
    obtain rfl := Nat.le_antisymm least bound
    exact .nil
  | @cons start stop tile rest starts inhabited apart later ih =>
    subst starts
    by_cases kept : tile.span.start < span.start
    · have trimmed : (tile.span.before span).start < (tile.span.before span).stop := by
        simp only [Span.before]
        omega
      rw [List.filterMap_cons, Tile.trim_of_lt trimmed]
      refine .cons rfl trimmed ?_ ?_
      · intro isGap next first
        obtain ⟨head, isHead, same⟩ := later.head_before first
        exact same ▸ apart isGap head isHead
      · by_cases whole : tile.span.stop ≤ span.start
        · have untouched : (tile.span.before span).stop = tile.span.stop := by
            simp only [Span.before, Nat.min_eq_left whole]
          exact untouched ▸ ih whole bound
        · have reached : (tile.span.before span).stop = span.start := by
            simp only [Span.before]
            omega
          rw [later.before_nil span (by omega)]
          exact reached ▸ .nil
    · have reached : tile.span.start = span.start := by omega
      have whole : Tiling tile.span.start (tile :: rest) stop := .cons rfl inhabited apart later
      rw [whole.before_nil span (by omega), reached]
      exact .nil

theorem after (tiling : Tiling start tiles stop) (span : Span) (least : start ≤ span.stop)
    (bound : span.stop ≤ stop) :
    Tiling span.stop (tiles.filterMap (Tile.trim (·.after span))) stop := by
  induction tiling with
  | nil =>
    obtain rfl := Nat.le_antisymm least bound
    exact .nil
  | @cons start stop tile rest starts inhabited apart later ih =>
    by_cases gone : tile.span.stop ≤ span.stop
    · rw [List.filterMap_cons, Tile.trim_of_le (by simp only [Span.after]; omega)]
      exact ih gone bound
    · have trimmed : (tile.span.after span).start < (tile.span.after span).stop := by
        simp only [Span.after]
        omega
      have starts : (tile.span.after span).start = span.stop := by
        simp only [Span.after]
        omega
      rw [List.filterMap_cons, Tile.trim_of_lt trimmed, later.after_self span (by omega)]
      exact .cons starts trimmed apart later

theorem write (tiling : Tiling start tiles stop) {span : Span} (value : V)
    (inhabited : span.start < span.stop) (least : start ≤ span.start) (bound : span.stop ≤ stop) :
    Tiling start (Tile.write tiles span value) stop := by
  have early := tiling.before span least (by omega)
  have late := tiling.after span (by omega) bound
  exact append_stored (show Tiling start _ (Tile.span ⟨span, some value⟩).start from early)
    inhabited (Option.some_ne_none value) late

/-- After a write the tile around an index is the span written, or what is left of the tile that
was there. -/
theorem at?_write (tiling : Tiling start tiles stop) {span : Span} (value : V)
    (inhabited : span.start < span.stop) (least : start ≤ span.start) (bound : span.stop ≤ stop)
    (index : Nat) :
    Tile.at? (Tile.write tiles span value) index =
      if index ∈ span then some ⟨span, some value⟩
      else (Tile.at? tiles index).map fun tile =>
        { tile with
          span := if index < span.start then tile.span.before span else tile.span.after span } := by
  have written := tiling.write value inhabited least bound
  by_cases inside : index ∈ span
  · rw [if_pos inside]
    exact written.at?_of_mem (by simp [Tile.write]) inside
  · rw [if_neg inside]
    cases found : Tile.at? tiles index with
    | none =>
      refine written.at?_eq_none ?_
      by_cases outside : index < start ∨ stop ≤ index
      · exact outside
      · obtain ⟨tile, present⟩ := tiling.exists_at? (Nat.le_of_not_lt fun early => outside (.inl early))
          (Nat.lt_of_not_le fun late => outside (.inr late))
        rw [found] at present
        cases present
    | some tile =>
      obtain ⟨member, around⟩ := tiling.at?_eq_some.mp found
      refine written.at?_eq_some.mpr ⟨?_, ?_⟩
      · simp only [Span.mem_iff] at inside around
        refine List.mem_append.mpr ?_
        by_cases early : index < span.start
        · refine .inl (List.mem_filterMap.mpr ⟨tile, member, ?_⟩)
          simp only [early, ↓reduceIte]
          exact Tile.trim_of_lt (by simp only [Span.before]; omega)
        · refine .inr (.tail _ (List.mem_filterMap.mpr ⟨tile, member, ?_⟩))
          simp only [early, ↓reduceIte]
          exact Tile.trim_of_lt (by simp only [Span.after]; omega)
      · simp only [Span.mem_iff] at inside around ⊢
        split <;> simp only [Span.before, Span.after] <;> omega

theorem write_within {front back : List (Tile V)} {tile : Tile V} {span : Span} (value : V)
    (early : Tiling start front tile.span.start) (late : Tiling tile.span.stop back stop)
    (inhabited : span.start < span.stop) (least : tile.span.start ≤ span.start)
    (bound : span.stop ≤ tile.span.stop) :
    Tile.write (front ++ tile :: back) span value =
      front ++ (tile.trim (·.before span)).toList ++
        ⟨span, some value⟩ :: ((tile.trim (·.after span)).toList ++ back) := by
  have frontKept := early.before_self span least
  have frontGone := early.after_nil span (by omega)
  have backGone := late.before_nil span (by omega)
  have backKept := late.after_self span bound
  have single (cut : Span → Span) :
      (tile :: back).filterMap (Tile.trim cut) =
        (tile.trim cut).toList ++ back.filterMap (Tile.trim cut) := by
    cases kept : tile.trim cut <;> simp [kept]
  simp only [Tile.write, List.filterMap_append, single, frontKept, frontGone, backGone, backKept,
    List.append_nil, List.nil_append]

end Tiling

end LayoutTracking
