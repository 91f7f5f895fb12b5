import LayoutTracking.Proofs.Registries

/-!
# Handles and the snapshots behind them

A snapshot is taken only for an entry that is written there and then, and no write takes a handle
away from where it is. So the handles in a registry name every place of its store, and no other.
-/

set_option autoImplicit false

namespace LayoutTracking

def LayoutEntry.RefersTo (entry : LayoutEntry) (place : Nat) : Prop :=
  ∃ handle ∈ entry.snapshot, handle.index.toNat = place

theorem LayoutEntry.RefersTo.merge {entry : LayoutEntry} {place : Nat}
    (refers : entry.RefersTo place) (other : LayoutEntry) : (entry.merge other).RefersTo place := by
  obtain ⟨handle, isHandle, atPlace⟩ := refers
  obtain ⟨initial, current, snapshot⟩ := entry
  obtain rfl : snapshot = some handle := isHandle
  exact ⟨handle, rfl, atPlace⟩

/-- A push takes the first place that is free. -/
theorem SnapshotStore.place_of_push {first second : SnapshotStore} {handle : SnapshotId}
    {snapshot : Snapshot} (pushed : first.push snapshot = .ok (handle, second)) {place : Nat}
    (bound : place < second.snapshots.size) :
    place < first.snapshots.size ∨ handle.index.toNat = place := by
  obtain ⟨-, atEnd, rfl⟩ := push_eq_ok pushed
  rw [Array.size_push] at bound
  omega

/-- Some entry among the tiles refers to the place. -/
def Tile.Refer (tiles : List (Tile LayoutEntry)) (place : Nat) : Prop :=
  ∃ tile ∈ tiles, ∃ entry ∈ tile.content, entry.RefersTo place

namespace Registry

/-! ## One answer -/

/-- The updater takes a snapshot only into an entry that it answers with, and leaves no place
without a reference. -/
structure Refers {σ : Type} (updater : Updater LayoutEntry σ) (store : σ → SnapshotStore) :
    Prop where
  taken : ∀ state offer place,
    place < (store (updater.answer state offer).2).snapshots.size →
      place < (store state).snapshots.size ∨
        ∃ entry ∈ (updater.answer state offer).1, entry.RefersTo place
  kept : ∀ state existing place entry, entry ∈ (updater.update existing state).1 →
    existing.RefersTo place → entry.RefersTo place

theorem Refers.replaced {σ : Type} {updater : Updater LayoutEntry σ} {store : σ → SnapshotStore}
    (refers : Refers updater store) (range : Span) (state : σ)
    (front : List (Tile LayoutEntry)) (tile : Tile LayoutEntry) (rest : List (Tile LayoutEntry))
    (named : ∀ place < (store state).snapshots.size, Tile.Refer (front ++ tile :: rest) place) :
    let (answer, next) := updater.answer state (tile.offer range)
    ∀ place < (store next).snapshots.size,
      Tile.Refer (front ++ tile.replace range answer ++ rest) place := by
  have taken := refers.taken state (tile.offer range)
  have kept : ∀ place existing, tile.content = some existing → existing.RefersTo place →
      ∀ entry ∈ (updater.answer state (tile.offer range)).1, entry.RefersTo place := by
    intro place existing content referred entry isAnswer
    rw [Tile.offer, content] at isAnswer
    exact refers.kept state existing place entry isAnswer referred
  generalize updater.answer state (tile.offer range) = reply at taken kept ⊢
  obtain ⟨answer, next⟩ := reply
  have written : ∀ place, ∀ entry ∈ answer, entry.RefersTo place →
      Tile.Refer (front ++ tile.replace range answer ++ rest) place := by
    rintro place entry ⟨⟩ referred
    exact ⟨⟨tile.span.intersect range, some entry⟩, by simp [Tile.replace], entry, rfl, referred⟩
  intro place bound
  rcases taken place bound with earlier | ⟨entry, isAnswer, referred⟩
  · obtain ⟨other, member, existing, content, referred⟩ := named place earlier
    have elsewhere (within : other ∈ front ∨ other ∈ rest) :
        Tile.Refer (front ++ tile.replace range answer ++ rest) place := by
      refine ⟨other, ?_, existing, content, referred⟩
      rcases within with inFront | inRest
      · exact List.mem_append_left _ (List.mem_append_left _ inFront)
      · exact List.mem_append_right _ inRest
    rcases List.mem_append.mp member with inFront | inBack
    · exact elsewhere (.inl inFront)
    · rcases List.mem_cons.mp inBack with rfl | inRest
      · cases answer with
        | none => exact ⟨other, by simp [Tile.replace], existing, content, referred⟩
        | some entry =>
          exact written place entry rfl (kept place existing content referred entry rfl)
      · exact elsewhere (.inr inRest)
  · exact written place entry isAnswer referred

theorem filler_refers (template : LayoutEntry) (snapshot : Snapshot) :
    Refers (filler template snapshot) Filling.store where
  taken filling offer place bound := by
    cases offer with
    | update existing =>
      simp only [Updater.answer, filler] at bound
      split at bound
      · exact .inl bound
      · exact .inl bound
    | insert gap =>
      simp only [Updater.answer, filler, Filling.ask] at bound ⊢
      split at bound
      · exact .inl bound
      · split at bound
        · next handle store pushed =>
          rcases SnapshotStore.place_of_push pushed bound with earlier | same
          · exact .inl earlier
          · refine .inr ⟨_, rfl, handle, ?_, same⟩
            simp [Filling.entry]
        · exact .inl bound
  kept filling existing place entry isAnswer referred := by
    simp only [filler] at isAnswer
    split at isAnswer
    · obtain rfl := Option.some.inj isAnswer
      exact referred.merge _
    · cases isAnswer

theorem Importing.Copied.taken {source : SnapshotStore} {importing : Importing}
    {handle : SnapshotId} {reply : Option SnapshotId × Importing}
    (copied : Importing.Copied source importing handle reply) {place : Nat}
    (bound : place < reply.2.store.snapshots.size) :
    place < importing.store.snapshots.size ∨ ∃ copy ∈ reply.1, copy.index.toNat = place := by
  cases copied with
  | known => exact .inl bound
  | absent => exact .inl bound
  | refused => exact .inl bound
  | issued _ _ pushed =>
    rcases SnapshotStore.place_of_push pushed bound with earlier | same
    · exact .inl earlier
    · exact .inr ⟨_, rfl, same⟩

theorem Importing.taken_of_copy? {source : SnapshotStore} {importing : Importing}
    {handle : Option SnapshotId} {place : Nat}
    (bound : place < (importing.copy? source handle).2.store.snapshots.size) :
    place < importing.store.snapshots.size ∨
      ∃ copy ∈ (importing.copy? source handle).1, copy.index.toNat = place := by
  cases handle with
  | none => exact .inl bound
  | some handle => exact (Importing.copied_copy source importing handle).taken bound

theorem importer_refers (source : SnapshotStore) (entry : LayoutEntry) :
    Refers (importer source entry) Importing.store where
  taken importing offer place bound := by
    cases offer with
    | insert gap =>
      rcases Importing.taken_of_copy? bound with earlier | ⟨copy, isCopy, atPlace⟩
      · exact .inl earlier
      · exact .inr ⟨_, rfl, copy, isCopy, atPlace⟩
    | update existing =>
      obtain ⟨initial, current, snapshot⟩ := existing
      cases snapshot with
      | some handle => exact .inl bound
      | none =>
        rcases Importing.taken_of_copy? bound with earlier | ⟨copy, isCopy, atPlace⟩
        · exact .inl earlier
        · have differs : LayoutEntry.merge ⟨initial, current, none⟩
              { entry with snapshot := (importing.copy? source entry.snapshot).1 } ≠
                ⟨initial, current, none⟩ := LayoutEntry.merge_ne_of_snapshot rfl isCopy
          exact .inr ⟨_, if_neg differs, copy, isCopy, atPlace⟩
  kept importing existing place merged isAnswer referred := by
    obtain ⟨snapshot, answer⟩ : ∃ snapshot, ((importer source entry).update existing importing).1 =
        if existing.merge { entry with snapshot } = existing then none
        else some (existing.merge { entry with snapshot }) := ⟨_, rfl⟩
    rw [answer] at isAnswer
    split at isAnswer
    · cases isAnswer
    · obtain rfl := Option.some.inj isAnswer
      exact referred.merge _

/-! ## Whole runs -/

/-- Every place of the store has an entry that refers to it. -/
def NoneOrphaned (registry : Registry) : Prop :=
  ∃ tiles, LawfulSpanMap.Holds registry.layouts tiles ∧
    ∀ place < registry.snapshots.snapshots.size, Tile.Refer tiles place

variable {registry source : Registry}

theorem Refers.run {W σ : Type} {updaters : W → Updater LayoutEntry σ}
    {store : σ → SnapshotStore} (refers : ∀ value, Refers (updaters value) store) (limit : Nat)
    (sources : List (Span × W)) (sofar : Rewriting LayoutEntry σ)
    (named : ∀ place < (store sofar.state).snapshots.size, Tile.Refer sofar.tiles place) :
    let done := sofar.splice limit (Updater.family updaters) sources
    ∀ place < (store done.state).snapshots.size, Tile.Refer done.tiles place := by
  refine Rewriting.splice_preserves
    (fun state tiles => ∀ place < (store state).snapshots.size, Tile.Refer tiles place) ?_ named
  intro source _
  exact (refers source.2).replaced

theorem NoneOrphaned.fill (complete : registry.NoneOrphaned) (template : LayoutEntry)
    (snapshot : Snapshot) (swept : Swept) :
    (registry.fill template snapshot swept).registry.NoneOrphaned := by
  obtain ⟨tiles, holds, named⟩ := complete
  have becomes := fill_becomes template snapshot swept holds
  have later := Refers.run (fun _ : Unit => filler_refers template snapshot)
    (SpanMap.limit registry.layouts) (swept.spans.map (·, ()))
    ⟨tiles, ⟨registry.snapshots, none, []⟩, 0⟩ named
  change ∀ place < (requested _ _ _ _ _ _).state.store.snapshots.size, _ at later
  rw [← becomes.state] at later
  exact ⟨_, becomes.holds, later⟩

theorem NoneOrphaned.answers (complete : registry.NoneOrphaned) {template : LayoutEntry}
    {outcome : Outcome} (answers : registry.Answers template outcome) :
    outcome.registry.NoneOrphaned := by
  cases answers with
  | filled snapshot swept => exact complete.fill template snapshot swept
  | setAside notice _ => exact complete

theorem NoneOrphaned.importFrom (complete : registry.NoneOrphaned) (source : Registry) :
    (registry.importFrom source).registry.NoneOrphaned := by
  by_cases compatible : registry.key = source.key
  · obtain ⟨tiles, holds, named⟩ := complete
    rw [importFrom_eq compatible]
    have becomes := importEntries_becomes holds source.snapshots (SpanMap.entries source.layouts)
    have later := Refers.run (importer_refers source.snapshots) (SpanMap.limit registry.layouts)
      (SpanMap.entries source.layouts) ⟨tiles, ⟨registry.snapshots, [], []⟩, 0⟩ named
    change ∀ place < (merged _ _ _ _ _).state.store.snapshots.size, _ at later
    rw [← becomes.state] at later
    exact ⟨_, becomes.holds, later⟩
  · rw [importFrom_of_ne compatible]
    exact complete

theorem Reachable.noneOrphaned (reachable : registry.Reachable) : registry.NoneOrphaned := by
  induction reachable with
  | empty image threshold store => exact ⟨_, AdaptiveMap.holds_empty _ _, nofun⟩
  | emptyLike store _ _ => exact ⟨_, AdaptiveMap.holds_emptied _, nofun⟩
  | setLayout _ _ _ _ _ _ ih => exact ih.answers (fillSelector_answers _ _ _ _ _)
  | setInitial _ _ _ _ _ ih => exact ih.answers (fillSelector_answers _ _ _ _ _)
  | setInitialFromView _ _ _ _ _ ih => exact ih.answers (setInitialFromView_answers _ _ _ _)
  | importFrom _ _ _ ih _ => exact ih.importFrom _

/-! ## Registries in order -/

/-- The stored spans are disjoint pieces of the domain in ascending order, each entry has an initial
layout and a snapshot in the registry's own store, and the handles name the places of that store:
all of them, and no other. -/
structure InOrder (registry : Registry) : Prop where
  size : SpanMap.size registry.layouts = (SpanMap.entries registry.layouts).length
  inhabited : ∀ stored ∈ SpanMap.entries registry.layouts, stored.1.start < stored.1.stop
  ascending : (SpanMap.entries registry.layouts).Pairwise
    fun earlier later => earlier.1.stop ≤ later.1.start
  inside : ∀ stored ∈ SpanMap.entries registry.layouts,
    stored.1.stop ≤ registry.addressing.count
  settled : ∀ stored ∈ SpanMap.entries registry.layouts, ∃ layout handle snapshot,
    stored.2.initial = some layout ∧ stored.2.snapshot = some handle ∧
      registry.snapshots.owns handle = true ∧ registry.snapshots.get? handle = some snapshot
  places : ∀ place,
    (∃ stored ∈ SpanMap.entries registry.layouts, ∃ handle,
      stored.2.snapshot = some handle ∧ handle.index.toNat = place) ↔
      place < registry.snapshots.snapshots.size

theorem Sound.resolves_of_mem (sound : registry.Sound) {stored : Span × LayoutEntry}
    (member : stored ∈ SpanMap.entries registry.layouts) :
    ∃ layout handle snapshot, stored.2.initial = some layout ∧ stored.2.snapshot = some handle ∧
      registry.snapshots.get? handle = some snapshot := by
  obtain ⟨index, known⟩ := sound.known_of_mem member
  obtain ⟨hasInitial, hasSnapshot⟩ := sound.settled index stored.2 known
  obtain ⟨layout, isLayout⟩ := Option.isSome_iff_exists.mp hasInitial
  obtain ⟨handle, isHandle⟩ := Option.isSome_iff_exists.mp hasSnapshot
  obtain ⟨snapshot, found⟩ :=
    Option.isSome_iff_exists.mp (sound.resolves index stored.2 known handle isHandle)
  exact ⟨layout, handle, snapshot, isLayout, isHandle, found⟩

theorem Sound.inOrder (sound : registry.Sound) (complete : registry.NoneOrphaned) :
    registry.InOrder := by
  obtain ⟨tiles, holds, named⟩ := complete
  have tiling := LawfulSpanMap.tiling holds
  have entries := SpanMap.entries_eq holds
  have isTile : ∀ stored ∈ SpanMap.entries registry.layouts,
      (⟨stored.1, some stored.2⟩ : Tile LayoutEntry) ∈ tiles := by
    intro stored member
    rw [entries] at member
    obtain ⟨tile, within, found⟩ := List.mem_filterMap.mp member
    exact Tile.stored?_eq_some.mp found ▸ within
  refine ⟨?_, ?_, ?_, ?_, ?_, ?_⟩
  · rw [entries, LawfulSpanMap.size_eq holds]
  · intro stored member
    exact (tiling.bounds (isTile stored member)).2.1
  · exact SpanMap.entries_ascending holds
  · intro stored member
    exact sound.limit ▸ (tiling.bounds (isTile stored member)).2.2
  · intro stored member
    obtain ⟨layout, handle, snapshot, isLayout, isHandle, found⟩ := sound.resolves_of_mem member
    have owned := (SnapshotStore.get?_eq_some.mp found).1
    exact ⟨layout, handle, snapshot, isLayout, isHandle, beq_iff_eq.mpr owned, found⟩
  · intro place
    constructor
    · rintro ⟨stored, member, handle, isHandle, rfl⟩
      obtain ⟨-, own, snapshot, -, isOwn, found⟩ := sound.resolves_of_mem member
      obtain rfl := Option.some.inj (isHandle.symm.trans isOwn)
      exact (Array.getElem?_eq_some_iff.mp (SnapshotStore.get?_eq_some.mp found).2).1
    · intro bound
      obtain ⟨tile, member, entry, content, handle, isHandle, atPlace⟩ := named place bound
      refine ⟨(tile.span, entry), ?_, handle, isHandle, atPlace⟩
      rw [entries]
      refine List.mem_filterMap.mpr ⟨tile, member, ?_⟩
      rw [Tile.stored?, show tile.content = some entry from content]
      rfl

/-- Whatever operations build up a registry, as long as snapshots find room: it is in order. -/
theorem inOrder_of_reachable (reachable : registry.Reachable) : registry.InOrder :=
  reachable.sound.inOrder reachable.noneOrphaned

/-- Two layers of one mip level are known before a request covers all levels of all aspects. It
fills the rest, in two stretches, with a second snapshot. -/
theorem inOrder_of_two_requests :
    let image : Image := ⟨⟨1⟩, ⟨⟨3⟩, 2, 3, .undefined, none⟩, 0, by decide⟩
    let first := (Registry.empty image 0 ⟨1⟩).setLayout ⟨⟨1⟩, none⟩ ⟨⟨1⟩, 1, 1, 0, 2⟩ .general none
    let second := first.registry.setInitial ⟨⟨2⟩, none⟩ (.all ⟨3⟩) .presentSrc
    second.registry.Reachable ∧ second.registry.InOrder := by
  intro image first second
  have begun := Reachable.empty image 0 ⟨1⟩
  obtain ⟨firstRoom, firstSize⟩ := begun.sound.fillSelector_foundRoom ⟨⟨1⟩, none⟩ ⟨⟨1⟩, 1, 1, 0, 2⟩
    ⟨some .general, some .general, none⟩ .transition (by decide)
  have between : first.registry.Reachable := .setLayout _ _ _ _ begun firstRoom
  have secondRoom : second.FoundRoom := by
    refine (between.sound.fillSelector_foundRoom _ _ _ .initialLayout ?_).1
    exact Nat.lt_of_le_of_lt firstSize (by decide)
  have reachable : second.registry.Reachable := .setInitial _ _ _ between secondRoom
  exact ⟨reachable, inOrder_of_reachable reachable⟩

end Registry

end LayoutTracking
