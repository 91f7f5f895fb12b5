import LayoutTracking.Proofs.AnyCursor
import LayoutTracking.Proofs.TableWrites
import LayoutTracking.Proofs.TreeWrites

/-!
# What a write stores

Either kind of map carries out a write in its own way, and both come to one list: what was stored,
cut at the two ends of the span written, with the span in between.
-/

set_option autoImplicit false

namespace LayoutTracking

namespace SpanMap

variable {M V : Type} [SpanMap M V]

/-- The later map stores what the earlier one does outside the span, and the value over the span. No
span stored is joined with its neighbour. -/
structure Overwritten (before : M) (span : Span) (value : V) (after : M) : Prop where
  entries : entries after = (entries before).filterMap (SparseMap.part (·.before span)) ++
    (span, value) :: (SpanMap.entries before).filterMap (SparseMap.part (·.after span))
  member : ∀ entry, entry ∈ SpanMap.entries after ↔ entry = (span, value) ∨
    ∃ old ∈ SpanMap.entries before, entry.2 = old.2 ∧ entry.1.start < entry.1.stop ∧
      (entry.1 = old.1.before span ∨ entry.1 = old.1.after span)
  untouched : ∀ old ∈ SpanMap.entries before, old.1.overlaps span = false →
    old ∈ SpanMap.entries after
  ascending : (SpanMap.entries after).Pairwise fun earlier later => earlier.1.stop ≤ later.1.start
  limit : limit after = limit before
  revision : revision after = revision before + 1

theorem mem_filterMap_part {cut : Span → Span} {stored : List (Span × V)} {entry : Span × V} :
    entry ∈ stored.filterMap (SparseMap.part cut) ↔
      ∃ old ∈ stored, entry.2 = old.2 ∧ entry.1.start < entry.1.stop ∧ entry.1 = cut old.1 := by
  rw [List.mem_filterMap]
  constructor
  · intro found
    obtain ⟨old, member, left⟩ := found
    by_cases inhabited : (cut old.1).start < (cut old.1).stop
    · rw [SparseMap.part_of_lt inhabited] at left
      cases left
      exact ⟨old, member, rfl, inhabited, rfl⟩
    · rw [SparseMap.part_of_le (Nat.le_of_not_lt inhabited)] at left
      cases left
  · intro found
    obtain ⟨old, member, value, inhabited, extent⟩ := found
    refine ⟨old, member, ?_⟩
    rw [SparseMap.part_of_lt (extent ▸ inhabited), ← extent, ← value]

variable [LawfulSpanMap M V] {map : M} {tiles : List (Tile V)} {span : Span}

theorem entries_overwrite (holds : LawfulSpanMap.Holds map tiles) (value : V)
    (inhabited : span.start < span.stop) (bound : span.stop ≤ limit map) :
    entries (overwrite map span value) =
      (entries map).filterMap (SparseMap.part (·.before span)) ++
        (span, value) :: (entries map).filterMap (SparseMap.part (·.after span)) := by
  rw [entries_eq (LawfulSpanMap.holds_overwrite value holds inhabited bound), entries_eq holds,
    SparseMap.filterMap_part, SparseMap.filterMap_part, Tile.write, List.filterMap_append,
    List.filterMap_cons, Tile.stored?_known]

theorem overwritten_of_holds (holds : LawfulSpanMap.Holds map tiles) (value : V)
    (inhabited : span.start < span.stop) (bound : span.stop ≤ limit map) :
    Overwritten map span value (overwrite map span value) := by
  have entries := entries_overwrite holds value inhabited bound
  have member (entry : Span × V) : entry ∈ SpanMap.entries (overwrite map span value) ↔
      entry = (span, value) ∨ ∃ old ∈ SpanMap.entries map, entry.2 = old.2 ∧
        entry.1.start < entry.1.stop ∧
          (entry.1 = old.1.before span ∨ entry.1 = old.1.after span) := by
    rw [entries, List.mem_append, List.mem_cons, mem_filterMap_part, mem_filterMap_part]
    constructor
    · intro stored
      obtain ⟨old, isOld, same, occupied, left⟩ | here | ⟨old, isOld, same, occupied, left⟩ :=
        stored
      · exact .inr ⟨old, isOld, same, occupied, .inl left⟩
      · exact .inl here
      · exact .inr ⟨old, isOld, same, occupied, .inr left⟩
    · intro stored
      obtain here | ⟨old, isOld, same, occupied, left | left⟩ := stored
      · exact .inr (.inl here)
      · exact .inl ⟨old, isOld, same, occupied, left⟩
      · exact .inr (.inr ⟨old, isOld, same, occupied, left⟩)
  refine ⟨entries, member, ?_, entries_ascending (LawfulSpanMap.holds_overwrite value holds
    inhabited bound), LawfulSpanMap.limit_overwrite map span value,
    LawfulSpanMap.revision_overwrite value inhabited bound⟩
  intro old isOld apart
  have occupied := (orderly_of_holds holds).inhabited old isOld
  have missed : ¬ old.1.overlaps span = true := Bool.eq_false_iff.mp apart
  rw [Span.overlaps_iff] at missed
  refine (member old).mpr (.inr ⟨old, isOld, rfl, occupied, ?_⟩)
  by_cases early : old.1.stop ≤ span.start
  · left
    rw [Span.before, Nat.min_eq_left early]
  · right
    rw [Span.after, Nat.max_eq_left (by omega)]

end SpanMap

namespace AdaptiveMap

variable {V : Type} {map : AdaptiveMap V}

/-- What comes of a write into the map, by the cells and keys that it touches. -/
structure WritesExactly (map : AdaptiveMap V) (checked : Bool) (span : Span) (value : V) :
    Prop where
  within : span.start < span.stop → span.stop ≤ SpanMap.limit map →
    map.overwriteInPlace checked span value = (.ok (), SpanMap.overwrite map span value) ∧
      SpanMap.Overwritten map span value (SpanMap.overwrite map span value)
  nothing : span.stop ≤ span.start → span.stop ≤ SpanMap.limit map →
    map.overwriteInPlace checked span value = (.ok (), map) ∧
      SpanMap.overwrite map span value = map
  /-- The write into a table that is too small fails, and the table is as it was. -/
  refused : map.isFlat = true → span.start < span.stop → SpanMap.limit map < span.stop →
    (∃ failure, map.overwriteInPlace checked span value = (.error failure, map)) ∧
      SpanMap.overwrite? map span value = none

theorem overwriteInPlace_eq {tiles : List (Tile V)} (holds : LawfulSpanMap.Holds map tiles)
    (checked : Bool) {span : Span} (value : V) (bound : span.stop ≤ SpanMap.limit map) :
    map.overwriteInPlace checked span value = (.ok (), SpanMap.overwrite map span value) := by
  cases map with
  | flat map =>
    have written : FlatMap.overwriteCells checked span value map =
        .ok () (map.overwrite span value) := by
      cases empty : span.isEmpty with
      | true =>
        rw [FlatMap.overwriteCells_of_isEmpty value empty bound]
        simp [FlatMap.overwrite, empty]
      | false =>
        exact FlatMap.Spells.overwriteCells_eq holds checked value
          (Span.isEmpty_eq_false_iff.mp empty) bound
    simp only [overwriteInPlace, written]
    rfl
  | sparse map =>
    have orderly := SpanMap.orderly_of_holds (M := SparseMap V) holds
    have stored : SpanMap.entries map = map.stored :=
      (SpanMap.entries_eq (M := SparseMap V) holds).trans (SparseMap.Lists.stored holds).symm
    have ascends : SparseMap.Ascends map.stored :=
      stored ▸ ⟨orderly.inhabited, orderly.ascending⟩
    replace bound : span.stop ≤ map.limit := bound
    have inDomain : ¬ (checked && decide (map.limit < span.stop)) = true := by simp [bound]
    rw [overwriteInPlace, if_neg inDomain, SparseMap.overwriteKeys_eq ascends]
    rfl

/-- Writing into a reachable map of either kind. -/
theorem Reachable.writes_exactly (reachable : map.Reachable) (checked : Bool) (span : Span)
    (value : V) : map.WritesExactly checked span value where
  within inhabited bound := by
    obtain ⟨tiles, holds⟩ := reachable.exists_holds
    exact ⟨overwriteInPlace_eq holds checked value bound,
      SpanMap.overwritten_of_holds holds value inhabited bound⟩
  nothing empty bound := by
    obtain ⟨tiles, holds⟩ := reachable.exists_holds
    have unchanged : SpanMap.overwrite map span value = map :=
      LawfulSpanMap.overwrite_of_isEmpty value (Span.isEmpty_iff.mpr empty)
    have written := overwriteInPlace_eq holds checked value bound
    rw [unchanged] at written
    exact ⟨written, unchanged⟩
  refused isFlat inhabited past := by
    cases map with
    | sparse map => cases isFlat
    | flat map =>
      replace past : map.limit < span.stop := past
      obtain ⟨failure, failed⟩ := FlatMap.overwriteCells_pastLimit map checked value inhabited past
      refine ⟨⟨failure, ?_⟩, if_neg (Nat.not_le_of_lt past)⟩
      simp only [overwriteInPlace, failed]

/-- The span written punches a hole into one that is stored. -/
theorem Reachable.writes_exactly_hole :
    let filled : AdaptiveMap Nat :=
      ((History.start (.sparse (.empty 8))).perform (.overwrite ⟨1, 7⟩ 1)).2.map
    filled.Reachable ∧ filled.WritesExactly true ⟨3, 4⟩ 2 := by
  intro filled
  have reachable : filled.Reachable :=
    .operate (.overwrite ⟨1, 7⟩ 1) (.new (.sparse 8)) (show 7 ≤ 8 by decide)
  exact ⟨reachable, reachable.writes_exactly true ⟨3, 4⟩ 2⟩

end AdaptiveMap

end LayoutTracking
