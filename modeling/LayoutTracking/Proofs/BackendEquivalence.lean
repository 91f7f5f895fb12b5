import LayoutTracking.Proofs.History

/-!
# Flat and sparse maps are the same map

A flat map and a sparse map of one limit, put through the same run of operations from empty on,
stand for the same tiles. No question then tells one from the other, and no caller of an operation
does either.
-/

set_option autoImplicit false

namespace LayoutTracking

/-- No question tells the maps apart. -/
structure SpanMap.Indistinguishable {M N V : Type} [SpanMap M V] [SpanMap N V] (left : M)
    (right : N) : Prop where
  limit : SpanMap.limit left = SpanMap.limit right
  size : SpanMap.size left = SpanMap.size right
  isEmpty : SpanMap.isEmpty left = SpanMap.isEmpty right
  revision : SpanMap.revision left = SpanMap.revision right
  locate : ∀ index, SpanMap.locate left index = SpanMap.locate right index
  get? : ∀ index, SpanMap.get? left index = SpanMap.get? right index
  entries : SpanMap.entries left = SpanMap.entries right
  entriesIn : ∀ query, SpanMap.entriesIn left query = SpanMap.entriesIn right query

namespace History

variable {V : Type}

theorem start_stands {M : Type} [SpanMap M V] [LawfulSpanMap M V] {map : M}
    {tiles : List (Tile V)} (holds : LawfulSpanMap.Holds map tiles) :
    (start map).Stands tiles (SpanMap.limit map) (SpanMap.revision map) :=
  ⟨holds, rfl, rfl, fun _ => Cursor.fits_of_slot_eq_none rfl map⟩

theorem start_flat_stands (limit : Nat) :
    (start (FlatMap.empty limit : FlatMap V)).Stands (Tile.gap ⟨0, limit⟩) limit 0 := by
  obtain ⟨holds, _, _, fits⟩ := start_stands (FlatMap.holds_empty (V := V) limit)
  exact ⟨holds, Array.size_replicate, rfl, fits⟩

theorem start_sparse_stands (limit : Nat) :
    (start (SparseMap.empty limit : SparseMap V)).Stands (Tile.gap ⟨0, limit⟩) limit 0 :=
  start_stands (SparseMap.holds_empty limit)

variable {M N : Type} [SpanMap M V] [LawfulSpanMap M V] [SpanMap N V] [LawfulSpanMap N V]
  {left : History M} {right : History N} {tiles : List (Tile V)} {limit revision : Nat}

theorem Stands.indistinguishable (leftStands : left.Stands tiles limit revision)
    (rightStands : right.Stands tiles limit revision) :
    SpanMap.Indistinguishable left.map right.map where
  limit := leftStands.limit.trans rightStands.limit.symm
  size := (LawfulSpanMap.size_eq leftStands.holds).trans
    (LawfulSpanMap.size_eq rightStands.holds).symm
  isEmpty := by
    rw [SpanMap.isEmpty, SpanMap.isEmpty, LawfulSpanMap.size_eq leftStands.holds,
      LawfulSpanMap.size_eq rightStands.holds]
  revision := leftStands.revision.trans rightStands.revision.symm
  locate index := (LawfulSpanMap.locate_eq index leftStands.holds).trans
    (LawfulSpanMap.locate_eq index rightStands.holds).symm
  get? index := (LawfulSpanMap.get?_eq index leftStands.holds).trans
    (LawfulSpanMap.get?_eq index rightStands.holds).symm
  entries := (SpanMap.entries_eq leftStands.holds).trans
    (SpanMap.entries_eq rightStands.holds).symm
  entriesIn query := (SpanMap.entriesIn_eq leftStands.holds query).trans
    (SpanMap.entriesIn_eq rightStands.holds query).symm

/-- After every run of operations inside the domain the two maps answer every question alike, and
whatever operation comes next is answered alike. -/
theorem flat_sparse_indistinguishable (limit : Nat) (operations : List (Operation V))
    (within : ∀ operation ∈ operations, operation.Within limit) :
    let flat := (start (FlatMap.empty limit : FlatMap V)).after operations
    let sparse := (start (SparseMap.empty limit : SparseMap V)).after operations
    SpanMap.Indistinguishable flat.map sparse.map ∧
      ∀ operation : Operation V, operation.Within limit →
        (flat.perform operation).1 = (sparse.perform operation).1 := by
  obtain ⟨tiles, revision, flatStands, sparseStands⟩ :=
    exists_stands (start_flat_stands limit) (start_sparse_stands limit) operations within
  refine ⟨flatStands.indistinguishable sparseStands, fun operation inDomain => ?_⟩
  exact (flatStands.perform operation inDomain).1.trans
    (sparseStands.perform operation inDomain).1.symm

/-- A hole is punched behind the back of a cursor that is carried on, and another map is merged
over all of it. -/
theorem punched_indistinguishable :
    let source : FlatMap Nat := SpanMap.overwrite (FlatMap.empty 12) ⟨6, 11⟩ 9
    let operations : List (Operation Nat) :=
      [.apply (Updater.prefer 1) () ⟨0, 6⟩ 0, .overwrite ⟨2, 4⟩ 2, .seek 1 1,
        .apply (Updater.prefer 3) () ⟨3, 20⟩ 0,
        .splice source (fun value (seen : Nat) => (⟨fun gap seen => (some gap.start, seen + 1),
          fun existing seen => (some (existing + value), seen + 1)⟩, seen)) 0,
        .overwrite ⟨8, 8⟩ 7]
    let flat := (start (FlatMap.empty 8 : FlatMap Nat)).after operations
    let sparse := (start (SparseMap.empty 8 : SparseMap Nat)).after operations
    (∀ operation ∈ operations, operation.Within 8) ∧
      SpanMap.Indistinguishable flat.map sparse.map ∧
        ∀ operation : Operation Nat, operation.Within 8 →
          (flat.perform operation).1 = (sparse.perform operation).1 := by
  intro source operations flat sparse
  have within : ∀ operation ∈ operations, operation.Within 8 := by
    simp [operations, Operation.Within]
  exact ⟨within, flat_sparse_indistinguishable 8 operations within⟩

end History

end LayoutTracking
