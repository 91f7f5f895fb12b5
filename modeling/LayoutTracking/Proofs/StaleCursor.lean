import LayoutTracking.Proofs.ApplyOrder

/-!
# Stale cursors

A cursor of one map may be left behind by whatever is written into the map. It still finds at every
index what the map has there, and an update with it does what an update with a new cursor does.
-/

set_option autoImplicit false

namespace LayoutTracking

variable {M V σ : Type} [SpanMap M V]

/-- Two walks leave maps that no question tells apart, and the same for their callers. -/
structure Walk.Alike (left right : Walk M σ) : Prop where
  map : SpanMap.Indistinguishable left.map right.map
  state : left.state = right.state
  changed : left.changed = right.changed

/-- Nothing shows that a cursor was used to look into the map, or to update it. -/
structure Cursor.Unnoticed (cursor : Cursor) (map : M) : Prop where
  seek : ∀ index, (cursor.seek map index).1 = SpanMap.locate map index
  apply : ∀ {σ : Type} (updater : Updater V σ) (span : Span) (state : σ),
    (updater.apply map cursor span state).Alike (updater.apply map .fresh span state)
  offers : ∀ {σ : Type} (updater : Updater V σ) (span : Span) (state : σ),
    (updater.recorded.apply map cursor span (state, [])).state.2 =
      (updater.recorded.apply map .fresh span (state, [])).state.2

variable [LawfulSpanMap M V] {map : M} {tiles : List (Tile V)}

theorem Walk.Becomes.stands {cursor : Cursor} {state : σ} {walk : Walk M σ}
    {done : Rewriting V σ} (becomes : (Walk.start map cursor state).Becomes walk [] done) :
    History.Stands ⟨walk.map, fun _ => walk.cursor⟩ done.tiles (SpanMap.limit map)
      (SpanMap.revision map + done.writes) :=
  ⟨becomes.holds, becomes.limit, becomes.revision, fun _ => becomes.fits⟩

/-- Both updates rewrite the same tiles, and no cursor has a part in that. -/
theorem Updater.apply_alike (holds : LawfulSpanMap.Holds map tiles) {first second : Cursor}
    (firstFits : first.Fits map) (secondFits : second.Fits map) (updater : Updater V σ)
    (span : Span) (state : σ) :
    (updater.apply map first span state).Alike (updater.apply map second span state) := by
  have left : (Walk.start map first state).Becomes (updater.apply map first span state) [] _ :=
    run_becomes updater span holds firstFits
  have right : (Walk.start map second state).Becomes (updater.apply map second span state) [] _ :=
    run_becomes updater span holds secondFits
  exact ⟨left.stands.indistinguishable right.stands, left.state.trans right.state.symm,
    left.changed.trans right.changed.symm⟩

theorem Cursor.Fits.unnoticed {cursor : Cursor} (fits : cursor.Fits map)
    (holds : LawfulSpanMap.Holds map tiles) : cursor.Unnoticed map := by
  have fresh : Cursor.fresh.Fits map := Cursor.fits_of_slot_eq_none rfl map
  refine ⟨fits.seek_eq, ?_, ?_⟩
  · intro σ updater span state
    exact updater.apply_alike holds fits fresh span state
  · intro σ updater span state
    have alike := updater.recorded.apply_alike holds fits fresh span (state, [])
    exact congrArg Prod.snd alike.state

namespace History

/-- After every run of operations on a map of either kind, inside its domain, no cursor of the map
shows: it finds what the map has, however many writes it missed. -/
theorem cursor_unnoticed {new : AdaptiveMap V} (isNew : new.IsNew)
    (operations : List (Operation V))
    (within : ∀ operation ∈ operations, operation.Within (SpanMap.limit new)) (number : Nat) :
    let history := (start new).after operations
    (history.cursors number).Unnoticed history.map := by
  intro history
  obtain ⟨tiles, revision, stands, -⟩ :=
    exists_stands isNew.stands isNew.stands operations within
  exact (stands.fits number).unnoticed stands.holds

/-- The first cursor misses a hole punched in its slot, an update with another cursor, an empty
write and the end of everything stored. -/
theorem cursor_unnoticed_after_clear :
    let operations : List (Operation Nat) :=
      [.overwrite ⟨1, 6⟩ 2, .seek 3 0, .overwrite ⟨2, 4⟩ 5, .apply (Updater.prefer 7) () ⟨3, 20⟩ 1,
        .overwrite ⟨5, 5⟩ 9, .clear]
    let new : AdaptiveMap Nat := .flat (.empty 8)
    let history := (start new).after operations
    new.IsNew ∧ (∀ operation ∈ operations, operation.Within (SpanMap.limit new)) ∧
      (history.cursors 0).Unnoticed history.map := by
  intro operations new history
  have within : ∀ operation ∈ operations, operation.Within (SpanMap.limit new) := by
    simp [operations, new, Operation.Within, SpanMap.limit, FlatMap.limit, FlatMap.empty]
  exact ⟨.flat 8, within, cursor_unnoticed (.flat 8) operations within 0⟩

end History

end LayoutTracking
