import LayoutTracking.Proofs.Backends
import LayoutTracking.Proofs.Walking

/-!
# Histories of a map

A history is a map with the cursors that are used on it and on no other map. Its operations are
data, so that a statement can range over every run of them. Each has a counterpart on tiles, and a
history of a lawful map does nothing but follow these.
-/

set_option autoImplicit false

namespace LayoutTracking

inductive Operation (V : Type) : Type 1 where
  | overwrite (span : Span) (value : V)
  | clear
  | apply {σ : Type} (updater : Updater V σ) (state : σ) (span : Span) (cursor : Nat)
  | splice {N W σ : Type} [SpanMap N W] (source : N) (make : W → σ → Updater V σ × σ) (state : σ)
  | seek (index cursor : Nat)
  | invalidate (cursor : Nat)

namespace Operation

variable {V : Type}

/-- What the caller sees of an operation. Overwriting says whether it went through, updating
whether anything was written, what became of the updater's state, and the offers in order. -/
def Answer : Operation V → Type
  | .overwrite .. => Bool
  | .clear => Unit
  | @Operation.apply _ σ .. => Bool × σ × List (Offer V)
  | @Operation.splice _ _ _ σ .. => Bool × σ × List (Offer V)
  | .seek .. => Slot
  | .invalidate _ => Unit

/-- Whether the operation keeps to the domain of a map: only overwriting may not. -/
def Within (limit : Nat) : Operation V → Prop
  | .overwrite span _ => span.stop ≤ limit
  | _ => True

def recordedMake {W σ : Type} (make : W → σ → Updater V σ × σ) (value : W)
    (state : σ × List (Offer V)) : Updater V (σ × List (Offer V)) × (σ × List (Offer V)) :=
  let (updater, inner) := make value state.1
  (updater.recorded, inner, state.2)

/-- The operation on the tiles below a limit: what the caller sees, the tiles after it, and how
often something was written. -/
def onTiles (limit : Nat) (tiles : List (Tile V)) :
    (operation : Operation V) → operation.Answer × List (Tile V) × Nat
  | .overwrite span value =>
    (true, if span.isEmpty then (tiles, 0) else (Tile.write tiles span value, 1))
  | .clear => ((), Tile.gap ⟨0, limit⟩, 1)
  | .apply updater state span _ =>
    let done := updater.recorded.resume limit span ⟨tiles, (state, []), 0⟩
    ((decide (0 < done.writes), done.state), done.tiles, done.writes)
  | @Operation.splice _ _ _ _ _ source make state =>
    let done := Rewriting.splice limit (recordedMake make) (SpanMap.entries source)
      ⟨tiles, (state, []), 0⟩
    ((decide (0 < done.writes), done.state), done.tiles, done.writes)
  | .seek index _ => (Tile.slotAt tiles index, tiles, 0)
  | .invalidate _ => ((), tiles, 0)

end Operation

structure History (M : Type) where
  map : M
  cursors : Nat → Cursor

namespace History

variable {M V : Type} [SpanMap M V]

def start (map : M) : History M := ⟨map, fun _ => .fresh⟩

def putCursor (history : History M) (number : Nat) (cursor : Cursor) : History M :=
  { history with cursors := fun other => if other = number then cursor else history.cursors other }

def perform (history : History M) :
    (operation : Operation V) → operation.Answer × History M
  | .overwrite span value =>
    match SpanMap.overwrite? history.map span value with
    | some map => (true, { history with map })
    | none => (false, history)
  | .clear => ((), { history with map := SpanMap.clear history.map })
  | .apply updater state span number =>
    let walk := updater.recorded.apply history.map (history.cursors number) span (state, [])
    ((walk.changed, walk.state), { history with map := walk.map }.putCursor number walk.cursor)
  | @Operation.splice _ _ _ _ _ source make state =>
    let walk := LayoutTracking.splice source (Operation.recordedMake make)
      (.start history.map .fresh (state, []))
    ((walk.changed, walk.state), { history with map := walk.map })
  | .seek index number =>
    let (slot, cursor) := (history.cursors number).seek history.map index
    (slot, history.putCursor number cursor)
  | .invalidate number => ((), history.putCursor number (history.cursors number).invalidate)

def after (history : History M) (operations : List (Operation V)) : History M :=
  operations.foldl (fun history operation => (history.perform operation).2) history

/-- The map stands for the tiles, was written that often, and every cursor fits it. -/
structure Stands [LawfulSpanMap M V] (history : History M) (tiles : List (Tile V))
    (limit revision : Nat) : Prop where
  holds : LawfulSpanMap.Holds history.map tiles
  limit : SpanMap.limit history.map = limit
  revision : SpanMap.revision history.map = revision
  fits : ∀ number, (history.cursors number).Fits history.map

variable [LawfulSpanMap M V] {history : History M} {tiles : List (Tile V)} {limit revision : Nat}

theorem Stands.putCursor (stands : history.Stands tiles limit revision) {cursor : Cursor}
    (fits : cursor.Fits history.map) (number : Nat) :
    (history.putCursor number cursor).Stands tiles limit revision := by
  refine ⟨stands.holds, stands.limit, stands.revision, fun other => ?_⟩
  by_cases same : other = number
  · simpa [History.putCursor, same] using fits
  · simpa [History.putCursor, same] using stands.fits other

/-- Where the revision stayed, so did the tiles, and what a cursor remembers is still right. -/
theorem Stands.fits_after (stands : history.Stands tiles limit revision) {map : M}
    {later : List (Tile V)} {writes : Nat} (holds : LawfulSpanMap.Holds map later)
    (written : SpanMap.revision map = SpanMap.revision history.map + writes)
    (unwritten : writes = 0 → later = tiles) (number : Nat) :
    (history.cursors number).Fits map := by
  cases writes with
  | zero =>
    obtain rfl := unwritten rfl
    exact (stands.fits number).of_holds stands.holds holds written
  | succ writes => exact (stands.fits number).of_revision_lt (by omega)

theorem Stands.walked {σ : Type} (stands : history.Stands tiles limit revision) {cursor : Cursor}
    {state : σ} {walk : Walk M σ} {done : Rewriting V σ}
    (becomes : (Walk.start history.map cursor state).Becomes walk [] done)
    (unwritten : done.writes = 0 → done.tiles = tiles) :
    (walk.changed, walk.state) = (decide (0 < done.writes), done.state) ∧
      ({ history with map := walk.map } : History M).Stands done.tiles limit
        (revision + done.writes) := by
  have changed : walk.changed = decide (0 < done.writes) :=
    becomes.changed.trans (Bool.false_or _)
  refine ⟨by rw [changed, becomes.state], becomes.holds, becomes.limit.trans stands.limit, ?_,
    stands.fits_after becomes.holds becomes.revision unwritten⟩
  rw [← stands.revision]
  exact becomes.revision

theorem Stands.perform (stands : history.Stands tiles limit revision) (operation : Operation V)
    (within : operation.Within limit) :
    (history.perform operation).1 = (operation.onTiles limit tiles).1 ∧
      (history.perform operation).2.Stands (operation.onTiles limit tiles).2.1 limit
        (revision + (operation.onTiles limit tiles).2.2) := by
  have same := stands.limit
  cases operation with
  | overwrite span value =>
    have bound : span.stop ≤ SpanMap.limit history.map := same ▸ within
    simp only [History.perform, Operation.onTiles, SpanMap.overwrite?, if_pos bound]
    refine ⟨rfl, ?_⟩
    by_cases isEmpty : span.isEmpty = true
    · rw [if_pos isEmpty, LawfulSpanMap.overwrite_of_isEmpty value isEmpty]
      exact stands
    · have inhabited : span.start < span.stop :=
        Span.isEmpty_eq_false_iff.mp (Bool.eq_false_iff.mpr isEmpty)
      have written := LawfulSpanMap.revision_overwrite value inhabited bound
      rw [if_neg isEmpty]
      refine ⟨LawfulSpanMap.holds_overwrite value stands.holds inhabited bound,
        (LawfulSpanMap.limit_overwrite _ _ _).trans same, written.trans ?_, fun number => ?_⟩
      · rw [stands.revision]
      · exact (stands.fits number).of_revision_lt (by dsimp only; omega)
  | clear =>
    have cleared := LawfulSpanMap.revision_clear history.map
    refine ⟨rfl, ?_, (LawfulSpanMap.limit_clear _).trans same, cleared.trans ?_, fun number => ?_⟩
    · exact same ▸ LawfulSpanMap.holds_clear stands.holds
    · rw [stands.revision]
      rfl
    · exact (stands.fits number).of_revision_lt (by simp only [History.perform]; omega)
  | apply updater state span number =>
    have becomes := (Walk.becomes_start stands.holds (stands.fits number) (state, [])).run
      updater.recorded span
    rw [show SpanMap.limit (Walk.start history.map _ _).map = limit from same] at becomes
    obtain ⟨answer, standing⟩ := stands.walked becomes fun unwritten =>
      (Updater.resume_unwritten _ unwritten).1
    exact ⟨answer, standing.putCursor becomes.fits number⟩
  | splice source make state =>
    have fresh : Cursor.fresh.Fits history.map := Cursor.fits_of_slot_eq_none rfl _
    have becomes := (Walk.becomes_start stands.holds fresh (state, [])).splice source
      (Operation.recordedMake make)
    rw [show SpanMap.limit (Walk.start history.map _ _).map = limit from same] at becomes
    exact stands.walked becomes fun unwritten => (Rewriting.splice_unwritten unwritten).1
  | seek index number =>
    have found := (stands.fits number).seek_eq index
    refine ⟨found.trans (LawfulSpanMap.locate_eq index stands.holds), ?_⟩
    exact stands.putCursor ((stands.fits number).seek stands.holds index) number
  | invalidate number =>
    exact ⟨rfl, stands.putCursor (Cursor.fits_of_slot_eq_none rfl _) number⟩

/-- A run of operations follows their counterparts on tiles: which tiles it ends with depends on
nothing else of the map. -/
theorem exists_stands {N : Type} [SpanMap N V] [LawfulSpanMap N V] {other : History N}
    (stands : history.Stands tiles limit revision)
    (otherStands : other.Stands tiles limit revision) (operations : List (Operation V))
    (within : ∀ operation ∈ operations, operation.Within limit) :
    ∃ tiles revision, (history.after operations).Stands tiles limit revision ∧
      (other.after operations).Stands tiles limit revision := by
  induction operations generalizing history other tiles revision with
  | nil => exact ⟨tiles, revision, stands, otherStands⟩
  | cons operation rest ih =>
    have here := within operation List.mem_cons_self
    exact ih (stands.perform operation here).2 (otherStands.perform operation here).2
      fun later member => within later (.tail _ member)

end History

end LayoutTracking
