import LayoutTracking.Proofs.BackendEquivalence

/-!
# What an update visits and what it leaves behind

An update over a span asks its updater once about each slot that meets the span, in ascending order
and as the map was before the update. Each answer takes the place of the slot's part inside the
span; what the slot has outside stays stored on its own, and nothing is joined. This needs a cursor
that was used on no other map since it was new or last forgot its slot.
-/

set_option autoImplicit false

namespace LayoutTracking

/-- The answers to offers made one after the other, and the state after the last. -/
def Updater.answers {V σ : Type} (updater : Updater V σ) :
    List (Offer V) → σ → List (Option V) × σ
  | [], state => ([], state)
  | offer :: rest, state =>
    let (answer, state) := updater.answer state offer
    let (later, state) := updater.answers rest state
    (answer :: later, state)

/-- The tiles after the answers for those that meet the range are put in place. -/
def Tile.place {V : Type} (range : Span) : List (Tile V) → List (Option V) → List (Tile V)
  | [], _ => []
  | tile :: rest, answers =>
    if tile.span.overlaps range then
      tile.replace range answers.head?.join ++ place range rest answers.tail
    else
      tile :: place range rest answers

def Tile.offers {V : Type} (range : Span) (tiles : List (Tile V)) : List (Offer V) :=
  (tiles.filter fun tile => tile.span.overlaps range).map (Tile.offer range)

theorem Tile.offers_of_met {V : Type} {range : Span} {tile : Tile V} {rest : List (Tile V)}
    (meets : tile.span.overlaps range = true) :
    offers range (tile :: rest) = tile.offer range :: offers range rest := by
  rw [offers, List.filter_cons, if_pos meets]
  rfl

theorem Tile.offers_of_missed {V : Type} {range : Span} {tile : Tile V} {rest : List (Tile V)}
    (missed : ¬ tile.span.overlaps range = true) :
    offers range (tile :: rest) = offers range rest := by
  rw [offers, List.filter_cons, if_neg missed]
  rfl

theorem Updater.rewrite_eq_place {V σ : Type} (updater : Updater V σ) (range : Span)
    (tiles : List (Tile V)) {state final : σ} {answers : List (Option V)}
    (asked : updater.answers (Tile.offers range tiles) state = (answers, final)) :
    updater.rewrite range tiles state =
      ⟨Tile.place range tiles answers, final, answers.countP Option.isSome⟩ := by
  induction tiles generalizing state answers final with
  | nil =>
    obtain ⟨rfl, rfl⟩ := Prod.mk.inj asked
    rfl
  | cons tile rest ih =>
    by_cases meets : tile.span.overlaps range = true
    · rw [Tile.offers_of_met meets, Updater.answers] at asked
      rw [rewrite, if_pos meets]
      generalize updater.answer state (tile.offer range) = reply at asked ⊢
      obtain ⟨answer, next⟩ := reply
      dsimp only at asked ⊢
      generalize asking : updater.answers (Tile.offers range rest) next = later
      obtain ⟨others, last⟩ := later
      rw [asking] at asked
      obtain ⟨rfl, rfl⟩ := Prod.mk.inj asked
      rw [Tile.place, if_pos meets, ih asking]
      cases answer with
      | none => simp
      | some value => simp [Nat.add_comm]
    · rw [Tile.offers_of_missed meets] at asked
      rw [rewrite, if_neg meets, Tile.place, if_neg meets, ih asked]

namespace AdaptiveMap

inductive IsNew {V : Type} : AdaptiveMap V → Prop where
  | flat (limit : Nat) : IsNew (.flat (.empty limit))
  | sparse (limit : Nat) : IsNew (.sparse (.empty limit))

theorem IsNew.stands {V : Type} {map : AdaptiveMap V} (isNew : map.IsNew) :
    (History.start map).Stands (Tile.gap ⟨0, SpanMap.limit map⟩) (SpanMap.limit map) 0 := by
  cases isNew with
  | flat limit =>
    have same : SpanMap.limit (AdaptiveMap.flat (.empty limit) : AdaptiveMap V) = limit :=
      Array.size_replicate
    exact ⟨same.symm ▸ FlatMap.holds_empty limit, rfl, rfl, fun _ => Cursor.fits_of_slot_eq_none rfl _⟩
  | sparse limit =>
    exact ⟨SparseMap.holds_empty limit, rfl, rfl, fun _ => Cursor.fits_of_slot_eq_none rfl _⟩

end AdaptiveMap

def History.Owns {M : Type} (history : History M) (cursor : Cursor) : Prop :=
  cursor.slot = none ∨ ∃ number, cursor = history.cursors number

theorem History.Stands.fits_of_owns {M V : Type} [SpanMap M V] [LawfulSpanMap M V]
    {history : History M} {tiles : List (Tile V)} {limit revision : Nat}
    (stands : history.Stands tiles limit revision) {cursor : Cursor}
    (owns : history.Owns cursor) : cursor.Fits history.map := by
  rcases owns with forgot | ⟨number, rfl⟩
  · exact Cursor.fits_of_slot_eq_none forgot _
  · exact stands.fits number

namespace Updater

variable {M V σ : Type} [SpanMap M V]

/-- The update asks about the slots in the span, each once, in ascending order and with the
content from before, and leaves what the answers say. -/
structure VisitsSlots (updater : Updater V σ) (map : M) (cursor : Cursor) (span : Span)
    (state : σ) (answers : List (Option V)) (final : σ) : Prop where
  tiling : Tiling 0 (SpanMap.tiles map) (SpanMap.limit map)
  locate : ∀ index, SpanMap.locate map index = Tile.slotAt (SpanMap.tiles map) index
  answered : updater.answers
    (Tile.offers (span.intersect ⟨0, SpanMap.limit map⟩) (SpanMap.tiles map)) state =
      (answers, final)
  asked : (updater.recorded.apply map cursor span (state, [])).state =
    (final, Tile.offers (span.intersect ⟨0, SpanMap.limit map⟩) (SpanMap.tiles map))
  outcome : (updater.apply map cursor span state).state = final
  tiles : SpanMap.tiles (updater.apply map cursor span state).map =
    Tile.place (span.intersect ⟨0, SpanMap.limit map⟩) (SpanMap.tiles map) answers
  entries : SpanMap.entries (updater.apply map cursor span state).map =
    (Tile.place (span.intersect ⟨0, SpanMap.limit map⟩) (SpanMap.tiles map) answers).filterMap
      Tile.stored?
  changed : (updater.apply map cursor span state).changed = true ↔
    ∃ answer ∈ answers, answer.isSome = true
  revision : SpanMap.revision (updater.apply map cursor span state).map =
    SpanMap.revision map + answers.countP Option.isSome

/-- The update, and the same update with its offers on record, rewrite the same tiles. -/
theorem visitsSlots_of_fits [LawfulSpanMap M V] {map : M} {slots : List (Tile V)}
    (holds : LawfulSpanMap.Holds map slots) {cursor : Cursor} (fits : cursor.Fits map)
    (updater : Updater V σ) (state : σ) (span : Span) :
    ∃ answers final, updater.VisitsSlots map cursor span state answers final := by
  obtain rfl := SpanMap.tiles_eq holds
  generalize clipped : span.intersect ⟨0, SpanMap.limit map⟩ = inside
  have walked : (Walk.start map cursor state).Becomes (updater.apply map cursor span state) []
      (updater.rewrite inside (SpanMap.tiles map) state) := by
    subst clipped
    exact run_becomes updater span holds fits
  have traced : (Walk.start map cursor (state, [])).Becomes
      (updater.recorded.apply map cursor span (state, [])) []
      (updater.recorded.rewrite inside (SpanMap.tiles map) (state, [])) := by
    subst clipped
    exact run_becomes updater.recorded span holds fits
  generalize asked : updater.answers (Tile.offers inside (SpanMap.tiles map)) state = reply
  obtain ⟨answers, final⟩ := reply
  rw [rewrite_recorded] at traced
  rw [rewrite_eq_place updater inside _ asked] at walked traced
  have changed : (updater.apply map cursor span state).changed =
      decide (0 < answers.countP Option.isSome) := walked.changed.trans (Bool.false_or _)
  subst clipped
  refine ⟨answers, final, LawfulSpanMap.tiling holds,
    fun index => LawfulSpanMap.locate_eq index holds, asked, traced.state, walked.state,
    SpanMap.tiles_eq walked.holds, SpanMap.entries_eq walked.holds, ?_, walked.revision⟩
  rw [changed, decide_eq_true_iff, List.countP_pos_iff]

/-- Over every map that operations make from an empty one of either kind, an update with a cursor
of that map alone visits the slots that meet the span, and leaves what its answers say. -/
theorem apply_visits_slots {new : AdaptiveMap V} (isNew : new.IsNew)
    (operations : List (Operation V))
    (within : ∀ operation ∈ operations, operation.Within (SpanMap.limit new)) (cursor : Cursor)
    (owns : ((History.start new).after operations).Owns cursor) (updater : Updater V σ)
    (state : σ) (span : Span) :
    ∃ answers final, updater.VisitsSlots ((History.start new).after operations).map cursor span
      state answers final := by
  obtain ⟨tiles, revision, stands, -⟩ :=
    History.exists_stands isNew.stands isNew.stands operations within
  exact visitsSlots_of_fits stands.holds (stands.fits_of_owns owns) updater state span

/-- The cursor saw a slot of its map before the hole in front of it was punched. -/
theorem punched_visits_slots :
    let operations : List (Operation Nat) :=
      [.overwrite ⟨1, 6⟩ 2, .seek 3 0, .overwrite ⟨2, 4⟩ 5, .seek 5 0]
    let history := (History.start (AdaptiveMap.sparse (.empty 8))).after operations
    ∃ answers final, (Updater.prefer 5 : Updater Nat Unit).VisitsSlots history.map
      (history.cursors 0) ⟨3, 20⟩ () answers final := by
  intro operations history
  refine apply_visits_slots (.sparse 8) operations ?_ (history.cursors 0) (.inr ⟨0, rfl⟩)
    (Updater.prefer 5) () ⟨3, 20⟩
  simp [operations, Operation.Within, SpanMap.limit, SparseMap.empty]

/-- A cursor that found its slot in another map hides a gap even when its last use was on this
one: an update that wrote nothing left the foreign slot in it. The slot reaches past the two indices
stored in this map, and covers up the gap behind them. -/
theorem foreign_slot_hides_gap :
    let first : FlatMap Nat := SpanMap.overwrite (.empty 8) ⟨0, 8⟩ 1
    let second : FlatMap Nat := SpanMap.overwrite (.empty 8) ⟨0, 2⟩ 2
    let refusal : Updater Nat Unit :=
      ⟨fun _ state => (none, state), fun _ state => (none, state)⟩
    let glance := refusal.apply second (Cursor.fresh.seek first 1).2 ⟨1, 2⟩ ()
    ¬ ∃ answers final, (Updater.prefer 3 : Updater Nat Unit).VisitsSlots glance.map glance.cursor
      ⟨0, 4⟩ () answers final := by
  rintro first second refusal glance ⟨answers, final, visits⟩
  have offered : (Updater.prefer 3 : Updater Nat Unit).recorded.apply glance.map glance.cursor
      ⟨0, 4⟩ ((), []) |>.state.2 = [.update 2] := by decide +kernel
  have slots : Tile.offers (Span.intersect ⟨0, 4⟩ ⟨0, SpanMap.limit glance.map⟩)
      (SpanMap.tiles glance.map) = [.update 2, .insert ⟨2, 4⟩] := by decide +kernel
  have asked := congrArg Prod.snd visits.asked
  rw [offered, slots] at asked
  cases asked

end Updater

end LayoutTracking
