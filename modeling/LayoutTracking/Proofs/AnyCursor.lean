import LayoutTracking.Proofs.ApplyOrder
import LayoutTracking.Proofs.Moves
import LayoutTracking.Proofs.Pointwise

/-!
# Updates under any cursor

A cursor may hold any slot: one set by hand, or one that was found in another map. What an update
offers then need not be what the map has, but the update still ends, it stays inside its span, and
it leaves a map in good order. All of this rests on one property of a slot that a cursor gives: it
reaches around the index that was sought.
-/

set_option autoImplicit false

namespace LayoutTracking

/-! ## One pass -/

section

variable {M V σ : Type} [SpanMap M V]

/-- What one pass of a walk comes to, whatever slot it was given around the index: the walk goes on
behind the index, and nothing was stored, or something around the index and inside the span. -/
inductive Walk.Passes (span : Span) (index : Nat) (walk : Walk M σ) : Nat → Walk M σ → Prop where
  | idle {stop : Nat} (cursor : Cursor) (state : σ) :
      index < stop → Passes span index walk stop { walk with cursor, state }
  | wrote {written : Span} (cursor : Cursor) (state : σ) (value : V) :
      index ∈ written → span.start ≤ written.start → written.stop ≤ span.stop →
      Passes span index walk written.stop
        (({ walk with cursor, state } : Walk M σ).write written value)

theorem Updater.offer_passes (updater : Updater V σ) {span : Span} {index : Nat} {walk : Walk M σ}
    (here : index ∈ span) (around : index ∈ (walk.cursor.seek walk.map index).1.extent) :
    walk.Passes span index (updater.offer span index walk).1 (updater.offer span index walk).2 := by
  unfold offer
  revert around
  cases walk.cursor.seek walk.map index with
  | mk slot cursor =>
    intro around
    cases slot with
    | gap gap =>
      have fill : index ∈ Span.mk index (min gap.stop span.stop) :=
        ⟨Nat.le_refl index, Nat.lt_min.mpr ⟨around.2, here.2⟩⟩
      dsimp only
      cases updater.insert ⟨index, min gap.stop span.stop⟩ walk.state with
      | mk answer state =>
        cases answer with
        | none => exact .idle cursor state fill.2
        | some value => exact .wrote cursor state value fill here.1 (Nat.min_le_right _ _)
    | known known =>
      dsimp only
      cases SpanMap.get? walk.map index with
      | none => exact .idle cursor walk.state around.2
      | some entry =>
        dsimp only
        cases updater.update entry.2 walk.state with
        | mk answer state =>
          cases answer with
          | none => exact .idle cursor state around.2
          | some value =>
            have inside : index ∈ known.intersect span := Span.mem_intersect.mpr ⟨around, here⟩
            refine .wrote cursor state value inside (Nat.le_max_right _ _) ?_
            simp only [Span.mem_iff, Span.intersect] at inside here ⊢
            omega

/-- The walk as a plain loop, which goes on wherever the slot stops: were that not behind the index,
it would have no end. The indices are those it looks up, in order. -/
inductive Updater.Loops (updater : Updater V σ) (span : Span) :
    Nat → Walk M σ → List Nat → Walk M σ → Prop where
  | done {index : Nat} {walk : Walk M σ} : span.stop ≤ index → Loops updater span index walk [] walk
  | pass {index stop : Nat} {walk next final : Walk M σ} {visited : List Nat} :
      index < span.stop → updater.offer span index walk = (stop, next) →
      Loops updater span stop next visited final →
      Loops updater span index walk (index :: visited) final

/-- Of a map of which this holds, every slot reaches around its index, and writing inside the span
makes no difference to it. -/
structure SpanMap.Endures (span : Span) (Kept : M → Prop) : Prop where
  finds : ∀ map, Kept map → ∀ cursor : Cursor, ∀ index ∈ span,
    index ∈ (cursor.seek map index).1.extent
  writes : ∀ map, Kept map → ∀ (written : Span) (value : V), written.start < written.stop →
    span.start ≤ written.start → written.stop ≤ span.stop →
    Kept (SpanMap.overwrite map written value)

theorem SpanMap.Endures.passes {span : Span} {Kept : M → Prop} (endures : Endures span Kept)
    {index stop : Nat} {walk next : Walk M σ} (kept : Kept walk.map)
    (passes : walk.Passes span index stop next) : index < stop ∧ Kept next.map := by
  cases passes with
  | idle cursor state later => exact ⟨later, kept⟩
  | @wrote written cursor state value around starts stops =>
    have inhabited : written.start < written.stop := Nat.lt_of_le_of_lt around.1 around.2
    exact ⟨around.2, endures.writes walk.map kept written value inhabited starts stops⟩

/-- A walk is the plain loop, so that this ends, and takes no more passes than there are indices. -/
theorem Updater.exists_loops (updater : Updater V σ) {span : Span} {Kept : M → Prop}
    (endures : SpanMap.Endures span Kept) (index : Nat) (walk : Walk M σ) (kept : Kept walk.map)
    (reached : span.start ≤ index) :
    Kept (updater.offerFrom span index walk).map ∧
      ∃ visited, updater.Loops span index walk visited (updater.offerFrom span index walk) ∧
        visited.length ≤ span.stop - index ∧ ∀ other ∈ visited, other ∈ span := by
  fun_induction offerFrom updater span index walk with
  | case1 index walk more stop next offered ih =>
    have here : index ∈ span := ⟨reached, more⟩
    have passes := updater.offer_passes here (endures.finds walk.map kept walk.cursor index here)
    rw [offered] at passes
    obtain ⟨later, keptNext⟩ := endures.passes kept passes
    rw [SpanMap.advance_eq later] at ih ⊢
    obtain ⟨keptFinal, visited, loops, bounded, inside⟩ := ih keptNext (by omega)
    refine ⟨keptFinal, index :: visited, .pass more offered loops, ?_,
      List.forall_mem_cons.mpr ⟨here, inside⟩⟩
    rw [List.length_cons]
    omega
  | case2 index walk finished =>
    exact ⟨kept, [], .done (Nat.le_of_not_lt finished), Nat.zero_le _, List.forall_mem_nil _⟩

end

/-! ## What a walk leaves alone -/

section

variable {M V : Type} [SpanMap M V] [LawfulSpanMap M V] {map : M} {tiles : List (Tile V)}

theorem Cursor.mem_extent_seek (cursor : Cursor) (holds : LawfulSpanMap.Holds map tiles)
    {index : Nat} (bound : index < SpanMap.limit map) :
    index ∈ (cursor.seek map index).1.extent := by
  unfold seek
  cases found : cursor.remembered? map index with
  | none =>
    have tiling := LawfulSpanMap.tiling holds
    obtain ⟨tile, here⟩ := tiling.exists_at? (Nat.zero_le index) bound
    have inside := (tiling.at?_eq_some.mp here).2
    rw [SpanMap.locate_of_mem holds (tiling.at?_eq_some.mp here).1 inside, Tile.extent_slot]
    exact inside
  | some slot => exact (of_decide_eq_true (Option.filter_eq_some_iff.mp found).2).2

theorem SpanMap.value?_overwrite_of_not_mem (holds : LawfulSpanMap.Holds map tiles) {span : Span}
    (value : V) (inhabited : span.start < span.stop) (bound : span.stop ≤ limit map) {index : Nat}
    (outside : index ∉ span) : value? (overwrite map span value) index = value? map index := by
  have written := LawfulSpanMap.holds_overwrite value holds inhabited bound
  rw [value?_eq written, value?_eq holds, Tile.contentAt?, Tile.contentAt?,
    (LawfulSpanMap.tiling holds).at?_write value inhabited (Nat.zero_le _) bound, if_neg outside,
    Option.map_map]
  rfl

/-- The later map is in good order and differs from the earlier one at most inside the span. -/
structure SpanMap.SameOutside (span : Span) (before after : M) : Prop where
  holds : ∃ tiles, LawfulSpanMap.Holds after tiles
  limit : limit after = limit before
  value : ∀ index, index ∉ span → value? after index = value? before index

theorem SpanMap.endures_sameOutside (map : M) {span : Span}
    (inDomain : ∀ index ∈ span, index < limit map) : Endures span (SameOutside span map) where
  finds later same cursor index inside := by
    obtain ⟨tiles, holds⟩ := same.holds
    exact cursor.mem_extent_seek holds (same.limit ▸ inDomain index inside)
  writes later same written value inhabited starts stops := by
    obtain ⟨tiles, holds⟩ := same.holds
    have last : written.stop - 1 < limit map := inDomain _ ⟨by omega, by omega⟩
    have bound : written.stop ≤ limit later := by
      rw [same.limit]
      omega
    refine ⟨⟨_, LawfulSpanMap.holds_overwrite value holds inhabited bound⟩,
      (LawfulSpanMap.limit_overwrite later written value).trans same.limit, ?_⟩
    intro index outside
    have missed : index ∉ written := fun inside =>
      outside ⟨Nat.le_trans starts inside.1, Nat.lt_of_lt_of_le inside.2 stops⟩
    rw [value?_overwrite_of_not_mem holds value inhabited bound missed, same.value index outside]

theorem SpanMap.sameOutside_self (holds : LawfulSpanMap.Holds map tiles) (span : Span) :
    SameOutside span map map :=
  ⟨⟨tiles, holds⟩, rfl, fun _ _ => rfl⟩

end

/-! ## Walks that are watched -/

/-- A map with a record of the spans that it was told to store over. -/
structure Watched (M : Type) where
  map : M
  written : List Span

section

variable {M V σ : Type} [SpanMap M V]

instance : SpanMap (Watched M) V where
  limit watched := SpanMap.limit watched.map
  size watched := SpanMap.size watched.map
  revision watched := SpanMap.revision watched.map
  locate watched := SpanMap.locate watched.map
  get? watched := SpanMap.get? watched.map
  overwrite watched span value :=
    ⟨SpanMap.overwrite watched.map span value, watched.written ++ [span]⟩
  clear watched := { watched with map := SpanMap.clear watched.map }

/-- An update with a record of what it writes and what it asks. -/
def Updater.watch (updater : Updater V σ) (map : M) (cursor : Cursor) (span : Span) (state : σ) :
    Walk (Watched M) (σ × List (Offer V)) :=
  updater.recorded.apply (Watched.mk map []) cursor span (state, [])

def Walk.unwatched (walk : Walk (Watched M) (σ × List (Offer V))) : Walk M σ :=
  ⟨walk.map.map, walk.cursor, walk.state.1, walk.changed⟩

theorem Updater.offer_unwatched (updater : Updater V σ) (span : Span) (index : Nat)
    (walk : Walk (Watched M) (σ × List (Offer V))) :
    updater.offer span index walk.unwatched =
      ((updater.recorded.offer span index walk).1,
        (updater.recorded.offer span index walk).2.unwatched) := by
  have sought : walk.cursor.seek walk.unwatched.map index = walk.cursor.seek walk.map index := rfl
  unfold offer
  rw [show walk.unwatched.cursor = walk.cursor from rfl, sought]
  cases walk.cursor.seek walk.map index with
  | mk slot cursor =>
    cases slot with
    | gap gap =>
      cases answered : updater.insert ⟨index, min gap.stop span.stop⟩ walk.state.1 with
      | mk answer state =>
        simp only [recorded, Walk.unwatched, answered]
        cases answer <;> rfl
    | known known =>
      have stored : SpanMap.get? walk.unwatched.map index = SpanMap.get? walk.map index := rfl
      dsimp only
      rw [stored]
      cases SpanMap.get? walk.map index with
      | none => rfl
      | some entry =>
        cases answered : updater.update entry.2 walk.state.1 with
        | mk answer state =>
          simp only [recorded, Walk.unwatched, answered]
          cases answer <;> rfl

theorem Updater.offerFrom_unwatched (updater : Updater V σ) (span : Span) (index : Nat)
    (walk : Walk (Watched M) (σ × List (Offer V))) :
    updater.offerFrom span index walk.unwatched =
      (updater.recorded.offerFrom span index walk).unwatched := by
  fun_induction offerFrom updater.recorded span index walk with
  | case1 index walk more stop next offered ih =>
    have same := updater.offer_unwatched span index walk
    rw [offered] at same
    rw [← ih, offerFrom, if_pos more, same]
  | case2 index walk done => rw [offerFrom, if_neg done]

theorem SpanMap.Endures.watched {span : Span} {Kept : M → Prop} (endures : Endures span Kept) :
    Endures span fun watched : Watched M => Kept watched.map ∧ ∀ written ∈ watched.written,
      written.start < written.stop ∧ span.start ≤ written.start ∧ written.stop ≤ span.stop where
  finds watched kept := endures.finds watched.map kept.1
  writes watched kept written value inhabited starts stops := by
    refine ⟨endures.writes watched.map kept.1 written value inhabited starts stops, ?_⟩
    intro other member
    rcases List.mem_append.mp member with earlier | now
    · exact kept.2 other earlier
    · obtain rfl := List.mem_singleton.mp now
      exact ⟨inhabited, starts, stops⟩

theorem Updater.Loops.asked_le {updater : Updater V σ} {span : Span} {index : Nat}
    {walk final : Walk M (σ × List (Offer V))} {visited : List Nat}
    (loops : updater.recorded.Loops span index walk visited final) :
    final.state.2.length ≤ walk.state.2.length + visited.length := by
  induction loops with
  | done => exact Nat.le_refl _
  | @pass index stop walk next final visited more offered later ih =>
    have asked : next.state.2.length ≤ walk.state.2.length + 1 := by
      have once := updater.recorded.offer_offered span index walk
      rw [offered] at once
      cases once with
      | passed cursor => exact Nat.le_succ _
      | declined cursor offer silent => simp [answer_recorded updater walk.state.1 walk.state.2]
      | written cursor offer written value answered =>
        simp [answer_recorded updater walk.state.1 walk.state.2]
    rw [List.length_cons]
    omega

end

/-! ## Safety -/

section

variable {M V σ : Type} [SpanMap M V] [LawfulSpanMap M V]

/-- What is stored are inhabited spans of the domain, each behind the one before it. -/
structure SpanMap.Orderly (map : M) : Prop where
  holds : ∃ tiles, LawfulSpanMap.Holds map tiles
  inhabited : ∀ entry ∈ entries map, entry.1.start < entry.1.stop
  ascending : (entries map).Pairwise fun earlier later => earlier.1.stop ≤ later.1.start
  inDomain : ∀ entry ∈ entries map, entry.1.stop ≤ limit map

theorem SpanMap.orderly_of_holds {map : M} {tiles : List (Tile V)}
    (holds : LawfulSpanMap.Holds map tiles) : Orderly map := by
  have bounds : ∀ entry ∈ entries map, entry.1.start < entry.1.stop ∧ entry.1.stop ≤ limit map := by
    intro entry member
    obtain ⟨tile, within, stored⟩ := List.mem_filterMap.mp (entries_eq holds ▸ member)
    obtain rfl := Tile.stored?_eq_some.mp stored
    exact ((LawfulSpanMap.tiling holds).bounds within).2
  exact ⟨⟨tiles, holds⟩, fun entry member => (bounds entry member).1, entries_ascending holds,
    fun entry member => (bounds entry member).2⟩

/-- With this cursor the update is the plain loop, so it ends, and looks up nothing outside the span
and the domain. Nor does it write there, and it asks no more questions than there are indices, as
the same update shows with a record of both. -/
structure Updater.Safe (updater : Updater V σ) (map : M) (cursor : Cursor) (span : Span)
    (state : σ) : Prop where
  ends : ∃ visited,
    updater.Loops (span.intersect ⟨0, SpanMap.limit map⟩)
        (span.intersect ⟨0, SpanMap.limit map⟩).start (.start map cursor state) visited
        (updater.apply map cursor span state) ∧
      ∀ index ∈ visited, index ∈ span ∧ index < SpanMap.limit map
  watched : (updater.watch map cursor span state).unwatched = updater.apply map cursor span state
  asked : (updater.watch map cursor span state).state.2.length ≤
    (span.intersect ⟨0, SpanMap.limit map⟩).length
  written : ∀ part ∈ (updater.watch map cursor span state).map.written,
    part.start < part.stop ∧ ∀ index ∈ part, index ∈ span ∧ index < SpanMap.limit map
  limit : SpanMap.limit (updater.apply map cursor span state).map = SpanMap.limit map
  outside : ∀ index, ¬ (index ∈ span ∧ index < SpanMap.limit map) →
    SpanMap.value? (updater.apply map cursor span state).map index = SpanMap.value? map index
  orderly : SpanMap.Orderly (updater.apply map cursor span state).map

theorem Updater.safe_of_holds {map : M} {tiles : List (Tile V)}
    (holds : LawfulSpanMap.Holds map tiles) (updater : Updater V σ) (cursor : Cursor) (span : Span)
    (state : σ) : updater.Safe map cursor span state := by
  have clipped (index : Nat) : index ∈ span.intersect ⟨0, SpanMap.limit map⟩ ↔
      index ∈ span ∧ index < SpanMap.limit map := by
    rw [Span.mem_intersect]
    exact and_congr_right fun _ => and_iff_right (Nat.zero_le index)
  have endures := SpanMap.endures_sameOutside map fun index inside => ((clipped index).mp inside).2
  have unchanged := SpanMap.sameOutside_self holds (span.intersect ⟨0, SpanMap.limit map⟩)
  obtain ⟨same, visited, loops, -, inside⟩ :=
    updater.exists_loops endures _ (.start map cursor state) unchanged (Nat.le_refl _)
  obtain ⟨kept, passes, watched, bounded, -⟩ := updater.recorded.exists_loops endures.watched _
    (.start ⟨map, []⟩ cursor (state, [])) ⟨unchanged, List.forall_mem_nil _⟩ (Nat.le_refl _)
  obtain ⟨later, laterHolds⟩ := same.holds
  refine ⟨⟨visited, loops, ?_⟩, ?_, ?_, ?_, same.limit, ?_, SpanMap.orderly_of_holds laterHolds⟩
  · intro index member
    exact (clipped index).mp (inside index member)
  · exact (updater.offerFrom_unwatched _ _ _).symm
  · have asked := watched.asked_le
    simp only [Walk.start, List.length_nil, Nat.zero_add] at asked
    exact Nat.le_trans asked bounded
  · intro part member
    obtain ⟨inhabited, starts, stops⟩ := kept.2 part member
    refine ⟨inhabited, fun index within => (clipped index).mp ?_⟩
    exact ⟨Nat.le_trans starts within.1, Nat.lt_of_lt_of_le within.2 stops⟩
  · intro index missed
    exact same.value index (mt (clipped index).mp missed)

end

namespace AdaptiveMap

variable {V σ : Type} {map : AdaptiveMap V}

/-- What operations inside the domain, and updates under any cursor, make of an empty map of either
kind. -/
inductive Reachable {V : Type} : AdaptiveMap V → Prop where
  | new {map : AdaptiveMap V} : map.IsNew → Reachable map
  | operate {map : AdaptiveMap V} (operation : Operation V) :
      Reachable map → operation.Within (SpanMap.limit map) →
      Reachable ((History.start map).perform operation).2.map
  | apply {map : AdaptiveMap V} {σ : Type} (updater : Updater V σ) (cursor : Cursor) (span : Span)
      (state : σ) : Reachable map → Reachable (updater.apply map cursor span state).map

theorem Reachable.exists_holds (reachable : map.Reachable) :
    ∃ tiles, LawfulSpanMap.Holds map tiles := by
  induction reachable with
  | new isNew => exact ⟨_, isNew.stands.holds⟩
  | operate operation _ within ih =>
    obtain ⟨tiles, holds⟩ := ih
    exact ⟨_, ((History.start_stands holds).perform operation within).2.holds⟩
  | apply updater cursor span state _ ih =>
    obtain ⟨tiles, holds⟩ := ih
    exact (updater.safe_of_holds holds cursor span state).orderly.holds

/-- No cursor makes an update of a reachable map unsafe. -/
theorem Reachable.apply_safe (reachable : map.Reachable) (updater : Updater V σ) (cursor : Cursor)
    (span : Span) (state : σ) : updater.Safe map cursor span state := by
  obtain ⟨tiles, holds⟩ := reachable.exists_holds
  exact updater.safe_of_holds holds cursor span state

/-- The cursor holds a gap that the map does not have, past its domain. Before that, another cursor
passed for stored all of the domain and more. -/
theorem Reachable.apply_safe_forged :
    let forged : Cursor := ⟨some (.known ⟨0, 100⟩), 1⟩
    let stored : AdaptiveMap Nat :=
      ((History.start (.sparse (.empty 8))).perform (.overwrite ⟨0, 2⟩ 2)).2.map
    let map := ((Updater.prefer 3 : Updater Nat Unit).apply stored forged ⟨1, 20⟩ ()).map
    map.Reachable ∧
      (Updater.prefer 5 : Updater Nat Unit).Safe map ⟨some (.gap ⟨3, 9⟩), 2⟩ ⟨4, 20⟩ () := by
  intro forged stored map
  have within : (Operation.overwrite ⟨0, 2⟩ 2 : Operation Nat).Within
      (SpanMap.limit (AdaptiveMap.sparse (.empty 8) : AdaptiveMap Nat)) := by
    simp [Operation.Within, SpanMap.limit, SparseMap.empty]
  have overwritten : stored.Reachable := .operate (.overwrite ⟨0, 2⟩ 2) (.new (.sparse 8)) within
  have reachable : map.Reachable := .apply (Updater.prefer 3) forged ⟨1, 20⟩ () overwritten
  exact ⟨reachable, reachable.apply_safe (Updater.prefer 5) ⟨some (.gap ⟨3, 9⟩), 2⟩ ⟨4, 20⟩ ()⟩

end AdaptiveMap

end LayoutTracking
