import LayoutTracking.Proofs.CursorFit
import LayoutTracking.Proofs.Rewrite

/-!
# Walks and the updates they perform

A walk over a map writes while it goes and jumps by remembered slots. With a cursor that fits the
map it does to the tiles exactly what the updater does to them one after the other.
-/

set_option autoImplicit false

namespace LayoutTracking

variable {M V σ : Type} [SpanMap M V] [LawfulSpanMap M V]

/-- The walk `after` is what `before` becomes by turning the tiles behind `front` into those of
the rewriting. -/
structure Walk.Becomes (before after : Walk M σ) (front : List (Tile V))
    (rewriting : Rewriting V σ) : Prop where
  holds : LawfulSpanMap.Holds after.map (front ++ rewriting.tiles)
  limit : SpanMap.limit after.map = SpanMap.limit before.map
  state : after.state = rewriting.state
  changed : after.changed = (before.changed || decide (0 < rewriting.writes))
  revision : SpanMap.revision after.map = SpanMap.revision before.map + rewriting.writes
  fits : after.cursor.Fits after.map

namespace Walk.Becomes

variable {first second third : Walk M σ} {front : List (Tile V)} {rewriting : Rewriting V σ}

theorem trans {other : List (Tile V)} {before : Rewriting V σ}
    (earlier : first.Becomes second other before)
    (later : second.Becomes third front rewriting) :
    first.Becomes third front { rewriting with writes := before.writes + rewriting.writes } where
  holds := later.holds
  limit := later.limit.trans earlier.limit
  state := later.state
  changed := by
    rw [later.changed, earlier.changed, Bool.or_assoc]
    congr 1
    rw [Bool.eq_iff_iff]
    simp only [Bool.or_eq_true, decide_eq_true_eq]
    omega
  revision := by
    rw [later.revision, earlier.revision, Nat.add_assoc]
  fits := later.fits

theorem absorb {middle : List (Tile V)}
    (becomes : first.Becomes second (front ++ middle) rewriting) :
    first.Becomes second front { rewriting with tiles := middle ++ rewriting.tiles } :=
  ⟨by simpa using becomes.holds, becomes.limit, becomes.state, becomes.changed, becomes.revision,
    becomes.fits⟩

end Walk.Becomes

namespace Updater

/-- Where the walk goes on after a tile: at its end, or not at all if the range stops earlier. -/
def GoesOn (range : Span) (tile : Tile V) (stop : Nat) : Prop :=
  (tile.span.stop ≤ range.stop → stop = tile.span.stop) ∧
    (range.stop < tile.span.stop → range.stop ≤ stop)

theorem trim_before_intersect {tile : Tile V} {range : Span}
    (meets : tile.span.overlaps range = true) :
    tile.trim (·.before (tile.span.intersect range)) = tile.trim (·.before range) := by
  rw [Span.overlaps_iff] at meets
  by_cases kept : tile.span.start < range.start
  · rw [Tile.trim_of_lt (by simp only [Span.before, Span.intersect]; omega),
      Tile.trim_of_lt (by simp only [Span.before]; omega)]
    simp only [Span.before, Span.intersect, Option.some.injEq, Tile.mk.injEq, Span.mk.injEq,
      true_and, and_true]
    omega
  · rw [Tile.trim_of_le (by simp only [Span.before, Span.intersect]; omega),
      Tile.trim_of_le (by simp only [Span.before]; omega)]

theorem trim_after_intersect {tile : Tile V} {range : Span}
    (meets : tile.span.overlaps range = true) :
    tile.trim (·.after (tile.span.intersect range)) = tile.trim (·.after range) := by
  rw [Span.overlaps_iff] at meets
  by_cases kept : range.stop < tile.span.stop
  · rw [Tile.trim_of_lt (by simp only [Span.after, Span.intersect]; omega),
      Tile.trim_of_lt (by simp only [Span.after]; omega)]
    simp only [Span.after, Span.intersect, Option.some.injEq, Tile.mk.injEq, Span.mk.injEq,
      and_true]
    omega
  · rw [Tile.trim_of_le (by simp only [Span.after, Span.intersect]; omega),
      Tile.trim_of_le (by simp only [Span.after]; omega)]

theorem becomes_write {walk : Walk M σ} {front rest : List (Tile V)} {tile : Tile V}
    (holds : LawfulSpanMap.Holds walk.map (front ++ tile :: rest)) {range : Span}
    (bound : range.stop ≤ SpanMap.limit walk.map) (meets : tile.span.overlaps range = true)
    (value : V) :
    walk.Becomes (walk.write (tile.span.intersect range) value) front
      ⟨tile.replace range (some value) ++ rest, walk.state, 1⟩ := by
  have overlap := Span.overlaps_iff.mp meets
  have tiling := LawfulSpanMap.tiling holds
  have bounds := tiling.bounds (show tile ∈ front ++ tile :: rest by simp)
  have inhabited : (tile.span.intersect range).start < (tile.span.intersect range).stop := by
    simp only [Span.intersect]
    omega
  have inDomain : (tile.span.intersect range).stop ≤ SpanMap.limit walk.map := by
    simp only [Span.intersect]
    omega
  have written := LawfulSpanMap.holds_overwrite value holds inhabited inDomain
  have cut : Tile.write (front ++ tile :: rest) (tile.span.intersect range) value =
      front ++ (tile.replace range (some value) ++ rest) := by
    obtain ⟨middle, early, left⟩ := tiling.split
    cases left with
    | cons starts _ _ late =>
      subst starts
      rw [Tiling.write_within value early late inhabited (by simp only [Span.intersect]; omega)
        (by simp only [Span.intersect]; omega), trim_before_intersect meets,
        trim_after_intersect meets]
      simp [Tile.replace]
  rw [cut] at written
  refine ⟨written, LawfulSpanMap.limit_overwrite _ _ _, rfl, by simp [Walk.write],
    LawfulSpanMap.revision_overwrite value inhabited inDomain, Cursor.fits_settle walk.cursor ?_⟩
  intro index inside
  have member : (⟨tile.span.intersect range, some value⟩ : Tile V) ∈
      front ++ (tile.replace range (some value) ++ rest) := by simp [Tile.replace]
  exact SpanMap.locate_of_mem written member inside

theorem becomes_self {walk : Walk M σ} {front back : List (Tile V)}
    (holds : LawfulSpanMap.Holds walk.map (front ++ back)) (fits : walk.cursor.Fits walk.map) :
    walk.Becomes walk front ⟨back, walk.state, 0⟩ :=
  ⟨holds, rfl, rfl, by simp, rfl, fits⟩

theorem becomes_seek {walk : Walk M σ} {front back : List (Tile V)}
    (holds : LawfulSpanMap.Holds walk.map (front ++ back)) (fits : walk.cursor.Fits walk.map)
    (index : Nat) (state : σ) :
    walk.Becomes { walk with cursor := (walk.cursor.seek walk.map index).2, state } front
      ⟨back, state, 0⟩ :=
  ⟨holds, rfl, rfl, by simp, rfl, fits.seek holds index⟩

theorem offer_becomes (updater : Updater V σ) {walk : Walk M σ} {front rest : List (Tile V)}
    {tile : Tile V} (holds : LawfulSpanMap.Holds walk.map (front ++ tile :: rest))
    (fits : walk.cursor.Fits walk.map) {range : Span}
    (bound : range.stop ≤ SpanMap.limit walk.map) (meets : tile.span.overlaps range = true)
    {index : Nat} (here : index = max tile.span.start range.start) :
    let (answer, state) := updater.answer walk.state (tile.offer range)
    let (stop, next) := updater.offer range index walk
    GoesOn range tile stop ∧
      walk.Becomes next front
        ⟨tile.replace range answer ++ rest, state, answer.toList.length⟩ := by
  have overlap := Span.overlaps_iff.mp meets
  have member : tile ∈ front ++ tile :: rest := by simp
  have inside : index ∈ tile.span := by
    rw [Span.mem_iff]
    omega
  have entry := SpanMap.get?_of_mem holds member inside
  have sought : walk.cursor.seek walk.map index =
      (tile.slot, (walk.cursor.seek walk.map index).2) :=
    Prod.ext ((fits.seek_eq index).trans (SpanMap.locate_of_mem holds member inside)) rfl
  have writing (value : V) (state : σ) := (becomes_seek holds fits index state).trans
    (becomes_write (becomes_seek holds fits index state).holds bound meets value)
  unfold offer
  rw [sought]
  obtain ⟨span, content⟩ := tile
  dsimp only at overlap here
  cases content with
  | none =>
    have fill : (⟨index, min span.stop range.stop⟩ : Span) = span.intersect range := by
      simp only [Span.intersect, Span.mk.injEq]
      omega
    simp only [Tile.slot, Tile.offer, answer, fill]
    obtain ⟨result, state⟩ := updater.insert (span.intersect range) walk.state
    cases result with
    | none =>
      exact ⟨⟨fun within => Nat.min_eq_left within, fun past => by dsimp only at past ⊢; omega⟩,
        becomes_seek holds fits index state⟩
    | some value =>
      exact ⟨⟨fun within => Nat.min_eq_left within, fun past => by dsimp only at past ⊢; omega⟩,
        writing value state⟩
  | some existing =>
    simp only [Tile.slot, Tile.offer, answer, entry, Tile.stored?_known]
    obtain ⟨result, state⟩ := updater.update existing walk.state
    cases result with
    | none =>
      exact ⟨⟨fun _ => rfl, fun past => Nat.le_of_lt past⟩, becomes_seek holds fits index state⟩
    | some value =>
      refine ⟨⟨fun within => ?_, fun past => ?_⟩, writing value state⟩
      · simp only [Span.intersect]
        dsimp only at within
        omega
      · simp only [Span.intersect]
        dsimp only at past
        omega

theorem missed_of_le {range : Span} {tiles : List (Tile V)} {start stop : Nat}
    (tiling : Tiling start tiles stop) (past : range.stop ≤ max start range.start) :
    ∀ tile ∈ tiles, tile.span.overlaps range = false := by
  intro tile member
  have bounds := tiling.bounds member
  rw [Bool.eq_false_iff, Ne, Span.overlaps_iff]
  omega

/-- A walk that stands in the first of the tiles that are left does to these what the updater
does to them one after the other. -/
theorem offerFrom_becomes (updater : Updater V σ) {range : Span} {back : List (Tile V)}
    {walk : Walk M σ} {front : List (Tile V)} {start index : Nat}
    (holds : LawfulSpanMap.Holds walk.map (front ++ back)) (fits : walk.cursor.Fits walk.map)
    (left : Tiling start back (SpanMap.limit walk.map))
    (bound : range.stop ≤ SpanMap.limit walk.map) (here : index = max start range.start)
    (around : ∀ first ∈ back.head?, index < first.span.stop) :
    walk.Becomes (updater.offerFrom range index walk) front
      (updater.rewrite range back walk.state) := by
  induction back generalizing walk front start index with
  | nil =>
    cases left with
    | nil =>
      unfold offerFrom
      rw [if_neg (by omega)]
      exact becomes_self holds fits
  | cons tile rest ih =>
    cases left with
    | cons starts inhabited apart later =>
      subst starts
      have reached := around tile rfl
      by_cases more : index < range.stop
      · have meets : tile.span.overlaps range = true := by
          rw [Span.overlaps_iff]
          omega
        have step := offer_becomes updater holds fits bound meets here
        unfold offerFrom
        rw [if_pos more, rewrite, if_pos meets]
        revert step
        obtain ⟨result, state⟩ := updater.answer walk.state (tile.offer range)
        obtain ⟨stop, next⟩ := updater.offer range index walk
        rintro ⟨goesOn, becomes⟩
        dsimp only at goesOn becomes ⊢
        by_cases within : tile.span.stop ≤ range.stop
        · obtain rfl := goesOn.1 within
          rw [SpanMap.advance_eq reached]
          have holdsNext : LawfulSpanMap.Holds next.map
              ((front ++ tile.replace range result) ++ rest) := by
            rw [List.append_assoc]
            exact becomes.holds
          have onward := ih holdsNext becomes.fits (becomes.limit ▸ later)
            (becomes.limit ▸ bound)
            (show tile.span.stop = max tile.span.stop range.start by omega)
            (fun first isFirst => by
              have bounds := later.bounds (List.mem_of_mem_head? isFirst)
              omega)
          rw [becomes.state] at onward
          exact becomes.trans onward.absorb
        · have beyond := goesOn.2 (Nat.lt_of_not_le within)
          have done : ¬ SpanMap.advance index stop < range.stop := by
            simp only [SpanMap.advance]
            omega
          rw [rewrite_missed updater range state (missed_of_le later (by omega))]
          unfold offerFrom
          rw [if_neg done]
          exact becomes
      · have whole : Tiling tile.span.start (tile :: rest) (SpanMap.limit walk.map) :=
          .cons rfl inhabited apart later
        unfold offerFrom
        rw [if_neg more, rewrite_missed updater range walk.state (missed_of_le whole (by omega))]
        exact becomes_self holds fits

/-- Applying an updater over a span does to the map what it does to the tiles. -/
theorem run_becomes (updater : Updater V σ) (span : Span) {walk : Walk M σ}
    {tiles : List (Tile V)} (holds : LawfulSpanMap.Holds walk.map tiles)
    (fits : walk.cursor.Fits walk.map) :
    walk.Becomes (updater.run span walk) []
      (updater.rewrite (span.intersect ⟨0, SpanMap.limit walk.map⟩) tiles walk.state) := by
  have tiling := LawfulSpanMap.tiling holds
  unfold run
  generalize clipped : span.intersect ⟨0, SpanMap.limit walk.map⟩ = range
  by_cases inhabited : range.start < range.stop
  · have bound : range.stop ≤ SpanMap.limit walk.map := by
      subst clipped
      simp only [Span.intersect] at inhabited ⊢
      omega
    obtain ⟨front, tile, back, rfl, inside, early, late⟩ :=
      tiling.cut_at (Nat.zero_le range.start) (Nat.lt_of_lt_of_le inhabited bound)
    have left := tiling.from_tile
    have frontMissed : ∀ other ∈ front, other.span.overlaps range = false := by
      intro other member
      have bounds := early.bounds member
      have reached := inside.1
      rw [Bool.eq_false_iff, Ne, Span.overlaps_iff]
      omega
    have becomes := offerFrom_becomes updater holds fits left bound
      (show range.start = max tile.span.start range.start from (Nat.max_eq_right inside.1).symm)
      (fun first isFirst => by
        obtain rfl := Option.some.inj isFirst
        exact inside.2)
    rw [rewrite_append, rewrite_missed updater range walk.state frontMissed]
    simpa using becomes.absorb
  · have past : range.stop ≤ max 0 range.start := by omega
    rw [rewrite_missed updater range walk.state (missed_of_le tiling past)]
    unfold offerFrom
    rw [if_neg inhabited]
    exact becomes_self holds fits

end Updater

theorem Walk.becomes_start {map : M} {tiles : List (Tile V)} {cursor : Cursor}
    (holds : LawfulSpanMap.Holds map tiles) (fits : cursor.Fits map) (state : σ) :
    (Walk.start map cursor state).Becomes (.start map cursor state) [] ⟨tiles, state, 0⟩ :=
  Updater.becomes_self (show LawfulSpanMap.Holds map ([] ++ tiles) from holds) fits

variable {first second : Walk M σ} {sofar : Rewriting V σ}

theorem Walk.Becomes.run (becomes : first.Becomes second [] sofar) (updater : Updater V σ)
    (span : Span) :
    first.Becomes (updater.run span second) []
      (updater.resume (SpanMap.limit first.map) span sofar) := by
  have next := Updater.run_becomes updater span becomes.holds becomes.fits
  rw [becomes.limit, becomes.state] at next
  exact becomes.trans next

theorem Walk.Becomes.runAll (becomes : first.Becomes second [] sofar) (updater : Updater V σ)
    (spans : List Span) :
    first.Becomes (updater.runAll spans second) []
      (spans.foldl (fun sofar span => updater.resume (SpanMap.limit first.map) span sofar)
        sofar) := by
  induction spans generalizing second sofar with
  | nil => exact becomes
  | cons span rest ih => exact ih (becomes.run updater span)

theorem Walk.Becomes.mergeAll {W : Type} (becomes : first.Becomes second [] sofar)
    (make : W → σ → Updater V σ × σ) (sources : List (Span × W)) :
    first.Becomes
      (sources.foldl
        (fun walk entry =>
          let (updater, state) := make entry.2 walk.state
          updater.run entry.1 { walk with state })
        second) []
      (sofar.splice (SpanMap.limit first.map) make sources) := by
  unfold Rewriting.splice
  induction sources generalizing second sofar with
  | nil => exact becomes
  | cons entry rest ih =>
    have made : first.Becomes { second with state := (make entry.2 second.state).2 } []
        { sofar with state := (make entry.2 sofar.state).2 } :=
      ⟨becomes.holds, becomes.limit, by rw [becomes.state], becomes.changed, becomes.revision,
        becomes.fits⟩
    have next := made.run (make entry.2 second.state).1 entry.1
    refine ih ?_
    dsimp only
    rw [becomes.state] at next ⊢
    exact next

theorem Walk.Becomes.splice {N W : Type} [SpanMap N W] (becomes : first.Becomes second [] sofar)
    (source : N) (make : W → σ → Updater V σ × σ) :
    first.Becomes (LayoutTracking.splice source make second) []
      (sofar.splice (SpanMap.limit first.map) make (SpanMap.entries source)) :=
  becomes.mergeAll make (SpanMap.entries source)

end LayoutTracking
