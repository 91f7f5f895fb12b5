import LayoutTracking.Proofs.ReadPaths

/-!
# Merging every index once

A merge goes over the stored spans of its source one after the other and writes into the map that
it walks over. No two of these spans have an index in common. So what is decided for an index is
decided once and about the value from before the merge, however both maps are cut into spans.
-/

set_option autoImplicit false

namespace LayoutTracking

/-- What is to become of an index by itself: the value it takes if nothing is known there, and the
value that takes the place of one that is. -/
structure Choice (V : Type) where
  insert : Option V
  update : V → Option V

namespace Choice

variable {V : Type}

def decide (choice : Choice V) : Option V → Option V
  | none => choice.insert
  | some existing => choice.update existing

/-- What lies at the index afterwards. -/
def outcome (choice : Choice V) (content : Option V) : Option V :=
  choice.decide content <|> content

/-- The value that is preferred goes wherever it is not already. -/
def prefer [DecidableEq V] (value : V) : Choice V where
  insert := some value
  update existing := if existing = value then none else some value

theorem outcome_none (choice : Choice V) : choice.outcome none = choice.insert := by
  rw [outcome, decide]
  cases choice.insert <;> rfl

theorem outcome_some (choice : Choice V) (existing : V) :
    choice.outcome (some existing) = some ((choice.update existing).getD existing) := by
  rw [outcome, decide]
  cases choice.update existing <;> rfl

@[simp] theorem prefer_outcome [DecidableEq V] (value : V) (content : Option V) :
    (prefer value).outcome content = some value := by
  cases content with
  | none => exact outcome_none _
  | some existing =>
    rw [outcome_some, prefer]
    by_cases same : existing = value
    · simp [same]
    · simp [same]

@[simp] theorem prefer_decide_self [DecidableEq V] (value : V) :
    (prefer value).decide (some value) = none :=
  if_pos rfl

end Choice

namespace Updater

variable {V σ : Type} {updater : Updater V σ} {choice : Choice V}

/-- Neither its state nor the gap that it is offered has a say in what the updater answers. -/
structure Follows (updater : Updater V σ) (choice : Choice V) : Prop where
  insert : ∀ gap state, (updater.insert gap state).1 = choice.insert
  update : ∀ existing state, (updater.update existing state).1 = choice.update existing

theorem prefer_follows [DecidableEq V] (value : V) :
    (prefer value : Updater V σ).Follows (.prefer value) :=
  ⟨fun _ _ => rfl, fun _ _ => rfl⟩

theorem Follows.answer (follows : updater.Follows choice) (range : Span) (tile : Tile V)
    (state : σ) : (updater.answer state (tile.offer range)).1 = choice.decide tile.content := by
  obtain ⟨span, content⟩ := tile
  cases content with
  | none => exact follows.insert _ state
  | some existing => exact follows.update existing state

theorem Follows.settles (follows : updater.Follows choice) :
    updater.Settles (fun _ => True) (fun _ => True) choice.decide where
  back _ _ _ := trivial
  insert gap state _ := ⟨follows.insert gap state, fun _ _ => trivial⟩
  update existing state _ _ := ⟨follows.update existing state, fun _ _ => trivial⟩

theorem Follows.contentAt?_rewrite (follows : updater.Follows choice) (range : Span)
    (tiles : List (Tile V)) (state : σ) (index : Nat) :
    Tile.contentAt? (updater.rewrite range tiles state).tiles index =
      (Tile.contentAt? tiles index).map fun content =>
        if index ∈ range then choice.outcome content else content :=
  (follows.settles.rewrite (fun _ _ _ _ => trivial) trivial).2 index

theorem Follows.writes_iff (follows : updater.Follows choice) (range : Span)
    (tiles : List (Tile V)) (state : σ) :
    0 < (updater.rewrite range tiles state).writes ↔
      ∃ tile ∈ tiles, tile.span.overlaps range = true ∧
        (choice.decide tile.content).isSome = true := by
  induction tiles generalizing state with
  | nil => simp [rewrite]
  | cons tile rest ih =>
    by_cases meets : tile.span.overlaps range = true
    · rw [rewrite_met meets]
      dsimp only
      rw [follows.answer, Nat.add_pos_iff_pos_or_pos, ih]
      cases decided : choice.decide tile.content with
      | none => simp [decided]
      | some value => simp [decided, meets]
    · rw [rewrite, if_neg meets]
      refine (ih state).trans ?_
      simp [meets]

end Updater

/-! ## One span -/

section

variable {M V W σ : Type} [SpanMap M V] [LawfulSpanMap M V]

/-- What the tiles of a range have in them is what its indices hold. -/
theorem SpanMap.exists_tile_iff {map : M} {tiles : List (Tile V)}
    (holds : LawfulSpanMap.Holds map tiles) (span : Span) (Has : Option V → Prop) :
    (∃ tile ∈ tiles, tile.span.overlaps (span.intersect ⟨0, limit map⟩) = true ∧
        Has tile.content) ↔
      ∃ index ∈ span, index < limit map ∧ Has (value? map index) := by
  constructor
  · intro here
    obtain ⟨tile, member, meets, has⟩ := here
    obtain ⟨index, around, inside⟩ := Span.exists_mem_of_overlaps meets
    obtain ⟨inSpan, inDomain⟩ := Span.mem_intersect.mp inside
    refine ⟨index, inSpan, inDomain.2, ?_⟩
    rw [value?_eq holds, Tile.contentAt?, (LawfulSpanMap.tiling holds).at?_of_mem member around]
    exact has
  · intro here
    obtain ⟨index, inSpan, bound, has⟩ := here
    obtain ⟨tile, member, around⟩ := exists_tile holds bound
    have inside : index ∈ span.intersect ⟨0, limit map⟩ :=
      Span.mem_intersect.mpr ⟨inSpan, Nat.zero_le index, bound⟩
    refine ⟨tile, member, Span.overlaps_of_mem around inside, ?_⟩
    rw [value?_eq holds, Tile.contentAt?, (LawfulSpanMap.tiling holds).at?_of_mem member around]
      at has
    exact has

/-- The walk `after` has decided once, and by what `before` held, for every index of the sources. -/
structure Walk.Merged (choices : W → Choice V) (sources : List (Span × W))
    (before after : Walk M σ) : Prop where
  holds : ∃ tiles, LawfulSpanMap.Holds after.map tiles
  fits : after.cursor.Fits after.map
  limit : SpanMap.limit after.map = SpanMap.limit before.map
  decided : ∀ source ∈ sources, ∀ index ∈ source.1, index < SpanMap.limit before.map →
    SpanMap.value? after.map index =
      (choices source.2).outcome (SpanMap.value? before.map index)
  kept : ∀ index, (∀ source ∈ sources, index ∈ source.1 → SpanMap.limit before.map ≤ index) →
    SpanMap.value? after.map index = SpanMap.value? before.map index
  changed : after.changed = true ↔ before.changed = true ∨
    ∃ source ∈ sources, ∃ index ∈ source.1, index < SpanMap.limit before.map ∧
      ((choices source.2).decide (SpanMap.value? before.map index)).isSome = true

variable {choices : W → Choice V} {first second third : Walk M σ}

theorem Updater.Follows.value?_run {updater : Updater V σ} {choice : Choice V}
    (follows : updater.Follows choice) (span : Span) {walk : Walk M σ} {tiles : List (Tile V)}
    (holds : LawfulSpanMap.Holds walk.map tiles) (fits : walk.cursor.Fits walk.map) (index : Nat) :
    SpanMap.value? (updater.run span walk).map index =
      if index ∈ span ∧ index < SpanMap.limit walk.map then
        choice.outcome (SpanMap.value? walk.map index)
      else SpanMap.value? walk.map index := by
  have becomes := updater.run_becomes span holds fits
  have later := becomes.holds
  rw [List.nil_append] at later
  by_cases bound : index < SpanMap.limit walk.map
  · have inside : index ∈ span.intersect ⟨0, SpanMap.limit walk.map⟩ ↔
        index ∈ span ∧ index < SpanMap.limit walk.map := by
      rw [Span.mem_intersect]
      exact and_congr_right fun _ => and_iff_right (Nat.zero_le index)
    rw [SpanMap.value?_eq later, follows.contentAt?_rewrite, SpanMap.contentAt?_eq holds bound]
    simp only [inside, Option.map_some, Option.join_some]
  · rw [if_neg fun both => bound both.2, SpanMap.value?_eq_none holds (Nat.le_of_not_lt bound)]
    exact SpanMap.value?_eq_none later (becomes.limit.symm ▸ Nat.le_of_not_lt bound)

/-- One source is decided for by one run of its updater. -/
theorem Updater.Follows.merged {updater : Updater V σ} {source : Span × W}
    (follows : updater.Follows (choices source.2)) {walk : Walk M σ} {tiles : List (Tile V)}
    (holds : LawfulSpanMap.Holds walk.map tiles) (fits : walk.cursor.Fits walk.map) :
    walk.Merged choices [source] (updater.run source.1 walk) := by
  have becomes := updater.run_becomes source.1 holds fits
  have value := follows.value?_run source.1 holds fits
  refine ⟨⟨_, becomes.holds⟩, becomes.fits, becomes.limit, ?_, ?_, ?_⟩
  · intro other member index inside bound
    obtain rfl := List.mem_singleton.mp member
    rw [value, if_pos ⟨inside, bound⟩]
  · intro index missed
    rw [value, if_neg]
    intro both
    exact Nat.not_lt_of_le (missed source List.mem_cons_self both.1) both.2
  · rw [becomes.changed, Bool.or_eq_true, decide_eq_true_iff, follows.writes_iff,
      SpanMap.exists_tile_iff holds source.1 fun content =>
        ((choices source.2).decide content).isSome = true]
    simp

/-- What a later source decides for, the earlier ones have left as it was. -/
theorem Walk.Merged.cons {source : Span × W} {rest : List (Span × W)}
    (now : first.Merged choices [source] second) (later : second.Merged choices rest third)
    (apart : ∀ other ∈ rest, ∀ index ∈ source.1, index ∉ other.1) :
    first.Merged choices (source :: rest) third := by
  have untouched {other : Span × W} (member : other ∈ rest) {index : Nat}
      (inside : index ∈ other.1) :
      SpanMap.value? second.map index = SpanMap.value? first.map index := by
    refine now.kept index fun earlier isSource within => ?_
    obtain rfl := List.mem_singleton.mp isSource
    exact absurd inside (apart other member index within)
  refine ⟨later.holds, later.fits, later.limit.trans now.limit, ?_, ?_, ?_⟩
  · intro other member index inside bound
    rcases List.mem_cons.mp member with rfl | member
    · rw [← now.decided other List.mem_cons_self index inside bound]
      exact later.kept index fun next isLater within =>
        absurd within (apart next isLater index inside)
    · rw [← untouched member inside]
      exact later.decided other member index inside (now.limit.symm ▸ bound)
  · intro index missed
    obtain ⟨here, others⟩ := List.forall_mem_cons.mp missed
    rw [later.kept index (now.limit.symm ▸ others)]
    refine now.kept index fun other member => ?_
    obtain rfl := List.mem_singleton.mp member
    exact here
  · have onward : (∃ other ∈ rest, ∃ index ∈ other.1, index < SpanMap.limit second.map ∧
          ((choices other.2).decide (SpanMap.value? second.map index)).isSome = true) ↔
        ∃ other ∈ rest, ∃ index ∈ other.1, index < SpanMap.limit first.map ∧
          ((choices other.2).decide (SpanMap.value? first.map index)).isSome = true := by
      refine exists_congr fun other => and_congr_right fun member => ?_
      refine exists_congr fun index => and_congr_right fun inside => ?_
      rw [now.limit, untouched member inside]
    rw [later.changed, onward, now.changed, or_assoc]
    simp only [List.mem_cons, List.not_mem_nil, or_false, exists_eq_or_imp, exists_eq_left]

end

/-! ## One span after the other -/

section

variable {M N V W σ : Type} [SpanMap M V] [SpanMap N W]

/-- The target after a merge, index by index. -/
structure SpanMap.MergesOnce (target : M) (source : N) (choices : W → Choice V)
    (merged : Walk M σ) : Prop where
  inserted : ∀ index < limit target, ∀ value, value? source index = some value →
    value? target index = none → value? merged.map index = (choices value).insert
  updated : ∀ index < limit target, ∀ value, value? source index = some value →
    ∀ old, value? target index = some old →
      value? merged.map index = some (((choices value).update old).getD old)
  kept : ∀ index, limit target ≤ index ∨ value? source index = none →
    value? merged.map index = value? target index
  limit : limit merged.map = limit target
  changed : merged.changed = true ↔ ∃ index < SpanMap.limit target, ∃ value,
    value? source index = some value ∧
      ((choices value).decide (value? target index)).isSome = true

theorem SpanMap.MergesOnce.outcome {target : M} {source : N} {choices : W → Choice V}
    {merged : Walk M σ} (once : MergesOnce target source choices merged) {index : Nat}
    (bound : index < SpanMap.limit target) {value : W}
    (stored : value? source index = some value) :
    value? merged.map index = (choices value).outcome (value? target index) := by
  cases known : value? target index with
  | none => rw [once.inserted index bound value stored known, Choice.outcome_none]
  | some old => rw [once.updated index bound value stored old known, Choice.outcome_some]

variable [LawfulSpanMap M V] [LawfulSpanMap N W]

theorem Walk.merged_foldl {updaters : W → Updater V σ} {choices : W → Choice V}
    (follows : ∀ value, (updaters value).Follows (choices value)) {sources : List (Span × W)}
    (apart : sources.Pairwise fun earlier later => ∀ index ∈ earlier.1, index ∉ later.1)
    {walk : Walk M σ} {tiles : List (Tile V)} (holds : LawfulSpanMap.Holds walk.map tiles)
    (fits : walk.cursor.Fits walk.map) :
    walk.Merged choices sources
      (sources.foldl (fun walk source => (updaters source.2).run source.1 walk) walk) := by
  induction sources generalizing walk tiles with
  | nil => exact ⟨⟨tiles, holds⟩, fits, rfl, by simp, fun _ _ => rfl, by simp⟩
  | cons source rest ih =>
    obtain ⟨apartNow, apartLater⟩ := List.pairwise_cons.mp apart
    have now : walk.Merged choices [source] ((updaters source.2).run source.1 walk) :=
      (follows source.2).merged holds fits
    obtain ⟨later, laterHolds⟩ := now.holds
    exact now.cons (ih apartLater laterHolds now.fits) apartNow

theorem SpanMap.value?_eq_some_iff {source : N} {tiles : List (Tile W)}
    (holds : LawfulSpanMap.Holds source tiles) {index : Nat} {value : W} :
    value? source index = some value ↔
      ∃ entry ∈ entries source, index ∈ entry.1 ∧ entry.2 = value := by
  constructor
  · intro stored
    obtain ⟨entry, found, rfl⟩ := Option.map_eq_some_iff.mp stored
    obtain ⟨member, inside⟩ := (get?_eq_some_iff holds index entry).mp found
    exact ⟨entry, member, inside, rfl⟩
  · intro stored
    obtain ⟨entry, member, inside, rfl⟩ := stored
    exact value?_of_mem_entries holds member inside

theorem splice_mergesOnce {target : M} {tiles : List (Tile V)}
    (holds : LawfulSpanMap.Holds target tiles) {source : N} {sourceTiles : List (Tile W)}
    (sourceHolds : LawfulSpanMap.Holds source sourceTiles) {updaters : W → Updater V σ}
    {choices : W → Choice V} (follows : ∀ value, (updaters value).Follows (choices value))
    (state : σ) :
    SpanMap.MergesOnce target source choices
      (splice source (Updater.family updaters) (.start target .fresh state)) := by
  have merged : (Walk.start target .fresh state).Merged choices (SpanMap.entries source) _ :=
    Walk.merged_foldl follows (SpanMap.entries_apart sourceHolds) holds
      (Cursor.fits_of_slot_eq_none rfl target)
  have decided (index : Nat) (bound : index < SpanMap.limit target) (value : W)
      (stored : SpanMap.value? source index = some value) :
      SpanMap.value? (splice source (Updater.family updaters) (.start target .fresh state)).map
        index = (choices value).outcome (SpanMap.value? target index) := by
    obtain ⟨entry, member, inside, rfl⟩ := (SpanMap.value?_eq_some_iff sourceHolds).mp stored
    exact merged.decided entry member index inside bound
  refine ⟨?_, ?_, ?_, merged.limit, ?_⟩
  · intro index bound value stored unknown
    rw [decided index bound value stored, unknown, Choice.outcome_none]
  · intro index bound value stored old known
    rw [decided index bound value stored, known, Choice.outcome_some]
  · intro index missed
    refine merged.kept index fun entry member inside => ?_
    rcases missed with past | missing
    · exact past
    · rw [SpanMap.value?_of_mem_entries sourceHolds member inside] at missing
      cases missing
  · refine merged.changed.trans ?_
    constructor
    · rintro (started | ⟨entry, member, index, inside, bound, answered⟩)
      · cases started
      · exact ⟨index, bound, entry.2, SpanMap.value?_of_mem_entries sourceHolds member inside,
          answered⟩
    · intro written
      obtain ⟨index, bound, value, stored, answered⟩ := written
      obtain ⟨entry, member, inside, rfl⟩ := (SpanMap.value?_eq_some_iff sourceHolds).mp stored
      exact .inr ⟨entry, member, index, inside, bound, answered⟩

end

theorem splice_idle {M N V W σ : Type} [SpanMap M V] [SpanMap N W] (source : N)
    (updaters : W → Updater V σ) (walk : Walk M σ)
    (idle : (splice source (Updater.family updaters) walk).changed = false) :
    (splice source (Updater.family updaters) walk).map = walk.map := by
  refine (Walk.idleFrom_foldl (fun _ => True) _ ?_ walk idle).2.1
  intro entry _ walk
  exact Updater.run_idle (fun _ _ _ _ => trivial) entry.1 walk

/-! ## Values that are preferred -/

section

variable {M N V σ : Type} [SpanMap M V] [SpanMap N V] [DecidableEq V]

/-- After the merge the target agrees with all that the source knows below the target's limit, so the
same merge has nothing left to do. -/
structure SpanMap.TakesOver (target : M) (source : N) (merged : Walk M σ) : Prop where
  agrees : ∀ index < limit target, ∀ value, value? source index = some value →
    value? merged.map index = some value
  again : ∀ state : σ,
    let second := splice source (Updater.family Updater.prefer) (.start merged.map .fresh state)
    second.changed = false ∧ second.map = merged.map

theorem splice_takesOver [LawfulSpanMap M V] [LawfulSpanMap N V] {target : M}
    {tiles : List (Tile V)} (holds : LawfulSpanMap.Holds target tiles) {source : N}
    {sourceTiles : List (Tile V)} (sourceHolds : LawfulSpanMap.Holds source sourceTiles)
    (state : σ) :
    SpanMap.TakesOver target source
      (splice source (Updater.family Updater.prefer) (.start target .fresh state)) := by
  have follows (value : V) : (Updater.prefer value : Updater V σ).Follows (.prefer value) :=
    Updater.prefer_follows value
  have once := splice_mergesOnce holds sourceHolds follows state
  have agrees : ∀ index < SpanMap.limit target, ∀ value,
      SpanMap.value? source index = some value →
      SpanMap.value? (splice source (Updater.family Updater.prefer)
        (.start target .fresh state)).map index = some value := by
    intro index bound value stored
    rw [once.outcome bound stored, Choice.prefer_outcome]
  refine ⟨agrees, fun later => ?_⟩
  have fresh : Cursor.fresh.Fits target := Cursor.fits_of_slot_eq_none rfl target
  have becomes := (Walk.becomes_start holds fresh state).splice source
    (Updater.family Updater.prefer)
  have twice := splice_mergesOnce becomes.holds sourceHolds follows later
  have unchanged : (splice source (Updater.family Updater.prefer) (.start (splice source
      (Updater.family Updater.prefer) (.start target .fresh state)).map .fresh later)).changed =
        false := by
    rw [Bool.eq_false_iff, Ne, twice.changed]
    rintro ⟨index, bound, value, stored, answered⟩
    rw [agrees index (once.limit ▸ bound) value stored, Choice.prefer_decide_self] at answered
    cases answered
  exact ⟨unchanged, splice_idle source _ _ unchanged⟩

end

namespace AdaptiveMap

variable {V W σ : Type} {target : AdaptiveMap V} {source : AdaptiveMap W}

/-- Whatever kinds and limits two reachable maps have, merging one into the other decides once for
every index. Where the source's values are preferred, the target takes them over. -/
theorem Reachable.splice_decides_once (reachable : target.Reachable)
    (sourceReachable : source.Reachable) {updaters : W → Updater V σ} {choices : W → Choice V}
    (follows : ∀ value, (updaters value).Follows (choices value)) (state : σ) :
    SpanMap.MergesOnce target source choices
        (splice source (Updater.family updaters) (.start target .fresh state)) ∧
      ∀ [DecidableEq V] (other : AdaptiveMap V), other.Reachable →
        SpanMap.TakesOver target other
          (splice other (Updater.family Updater.prefer) (.start target .fresh state)) := by
  obtain ⟨tiles, holds⟩ := reachable.exists_holds
  obtain ⟨sourceTiles, sourceHolds⟩ := sourceReachable.exists_holds
  refine ⟨splice_mergesOnce holds sourceHolds follows state, ?_⟩
  intro _ other otherReachable
  obtain ⟨otherTiles, otherHolds⟩ := otherReachable.exists_holds
  exact splice_takesOver holds otherHolds state

/-- The sum shows how often each index is met. The source is cut otherwise than the target, and it
goes on past the target's limit. -/
theorem Reachable.splice_decides_once_adding :
    let target : AdaptiveMap Nat :=
      ((History.start (.sparse (.empty 10))).perform (.overwrite ⟨0, 5⟩ 1)).2.map
    let source : AdaptiveMap Nat :=
      ((History.start (.flat (.empty 14))).perform (.overwrite ⟨3, 12⟩ 2)).2.map
    let adding (value : Nat) : Updater Nat Unit :=
      ⟨fun _ state => (some value, state), fun old state => (some (old + value), state)⟩
    let sum (value : Nat) : Choice Nat := ⟨some value, fun old => some (old + value)⟩
    target.Reachable ∧ source.Reachable ∧ (∀ value, (adding value).Follows (sum value)) ∧
      (SpanMap.MergesOnce target source sum
          (splice source (Updater.family adding) (.start target .fresh ())) ∧
        ∀ [DecidableEq Nat] (other : AdaptiveMap Nat), other.Reachable →
          SpanMap.TakesOver target other
            (splice other (Updater.family Updater.prefer) (.start target .fresh ()))) := by
  intro target source adding sum
  have reachable : target.Reachable :=
    .operate (.overwrite ⟨0, 5⟩ 1) (.new (.sparse 10)) (show 5 ≤ 10 by decide)
  have sourceReachable : source.Reachable :=
    .operate (.overwrite ⟨3, 12⟩ 2) (.new (.flat 14)) (show 12 ≤ 14 by decide)
  have follows (value : Nat) : (adding value).Follows (sum value) :=
    ⟨fun _ _ => rfl, fun _ _ => rfl⟩
  exact ⟨reachable, sourceReachable, follows,
    reachable.splice_decides_once sourceReachable follows ()⟩

end AdaptiveMap

end LayoutTracking
