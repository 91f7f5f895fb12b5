import LayoutTracking.Proofs.CopyOrder
import LayoutTracking.Proofs.ExactFlags
import LayoutTracking.Proofs.StoreNames

/-!
# Deep copies

An import into a registry that knows nothing is a copy of its source. The source's spans come one
after the other behind what is there, each into the gap that is left, so none is cut or joined; and
of every snapshot there is one copy, for the source has none that no entry refers to.
-/

set_option autoImplicit false

namespace LayoutTracking

theorem SnapshotStore.size_le_of_push {first second : SnapshotStore} {handle : SnapshotId}
    {snapshot : Snapshot} (pushed : first.push snapshot = .ok (handle, second)) :
    second.snapshots.size ≤ capacity := by
  unfold push at pushed
  split at pushed
  · next room =>
    cases pushed
    exact (Array.size_push snapshot).trans_le room
  · cases pushed

/-! ## Spans behind one another -/

namespace Tile

variable {V : Type}

theorem filterMap_gap (span : Span) : (gap span : List (Tile V)).filterMap stored? = [] := by
  unfold gap
  split
  · rfl
  · rfl

theorem eq_of_mem_gap {tile : Tile V} {span : Span} (member : tile ∈ gap span) :
    tile = ⟨span, none⟩ := by
  unfold gap at member
  split at member
  · cases member
  · exact List.mem_singleton.mp member

theorem trim_gap (cut : Span → Span) (span : Span) :
    ((⟨span, none⟩ : Tile V).trim cut).toList = gap (cut span) := by
  unfold trim gap
  split
  · rfl
  · rfl

/-- A value in the middle of a gap leaves a gap on either side. -/
theorem replace_gap {gapSpan span : Span} (starts : gapSpan.start ≤ span.start)
    (inhabited : span.start < span.stop) (stops : span.stop ≤ gapSpan.stop) (value : V) :
    (⟨gapSpan, none⟩ : Tile V).replace span (some value) =
      gap ⟨gapSpan.start, span.start⟩ ++ ⟨span, some value⟩ :: gap ⟨span.stop, gapSpan.stop⟩ := by
  have whole : gapSpan.intersect span = span := by
    cases span
    simp only [Span.intersect, Span.mk.injEq] at starts inhabited stops ⊢
    omega
  rw [replace, trim_gap, trim_gap, whole]
  simp only [Span.before, Span.after]
  rw [Nat.min_eq_right (by omega), Nat.max_eq_right (by omega)]

end Tile

section

variable {V W σ : Type} {updaters : W → Updater V σ}

/-- The tiles are as they were up to an index, and there is nothing stored behind it. -/
def Rewriting.EndsAt (sofar : Rewriting V σ) (limit reached : Nat) (front : List (Tile V)) : Prop :=
  sofar.tiles = front ++ Tile.gap ⟨reached, limit⟩ ∧ ∀ tile ∈ front, tile.span.stop ≤ reached

/-- One span behind everything that is stored is stored as it is. -/
theorem Rewriting.EndsAt.resume {sofar : Rewriting V σ} {limit reached : Nat}
    {front : List (Tile V)} (ends : sofar.EndsAt limit reached front) {updater : Updater V σ}
    (fills : ∀ gap state, (updater.insert gap state).1.isSome = true) {span : Span}
    (behind : reached ≤ span.start) (inhabited : span.start < span.stop)
    (inDomain : span.stop ≤ limit) :
    ∃ value, (updater.resume limit span sofar).EndsAt limit span.stop
      (front ++ (Tile.gap ⟨reached, span.start⟩ ++ [⟨span, some value⟩])) := by
  obtain ⟨tiles, early⟩ := ends
  have clipped : span.intersect ⟨0, limit⟩ = span := by
    cases span
    simp only [Span.intersect, Span.mk.injEq] at inhabited inDomain ⊢
    omega
  have missed : ∀ tile ∈ front, tile.span.overlaps span = false := by
    intro tile member
    have stops := early tile member
    rw [Bool.eq_false_iff, Ne, Span.overlaps_iff]
    omega
  have left : reached < limit := by omega
  have meets : (⟨⟨reached, limit⟩, none⟩ : Tile V).span.overlaps span = true := by
    rw [Span.overlaps_iff]
    dsimp only
    omega
  obtain ⟨value, filled⟩ := Option.isSome_iff_exists.mp
    (fills (Span.intersect ⟨reached, limit⟩ span) sofar.state)
  refine ⟨value, ?_, ?_⟩
  · rw [Updater.resume, clipped, tiles]
    dsimp only
    rw [Updater.rewrite_append, Updater.rewrite_missed updater span _ missed, Tile.gap_of_lt left]
    dsimp only
    rw [Updater.rewrite_met meets]
    dsimp only [Tile.offer, Updater.answer, Updater.rewrite]
    rw [filled, Tile.replace_gap behind inhabited inDomain, List.append_nil, List.append_assoc,
      List.append_assoc, List.singleton_append]
  · intro tile member
    rcases List.mem_append.mp member with before | now
    · exact Nat.le_trans (early tile before) (by omega)
    · rcases List.mem_append.mp now with inGap | isLast
      · rw [Tile.eq_of_mem_gap inGap]
        exact Nat.le_of_lt inhabited
      · obtain rfl := List.mem_singleton.mp isLast
        exact Nat.le_refl _

/-- Where all spans of the source lie behind what is stored, they are stored as they are. -/
theorem Rewriting.EndsAt.splice {sources : List (Span × W)} {limit : Nat}
    (fills : ∀ value gap state, ((updaters value).insert gap state).1.isSome = true)
    (inhabited : ∀ source ∈ sources, source.1.start < source.1.stop)
    (inDomain : ∀ source ∈ sources, source.1.stop ≤ limit)
    (ascending : sources.Pairwise fun earlier later => earlier.1.stop ≤ later.1.start)
    {sofar : Rewriting V σ} {reached : Nat} {front : List (Tile V)}
    (ends : sofar.EndsAt limit reached front)
    (behind : ∀ source ∈ sources, reached ≤ source.1.start) :
    ((sofar.splice limit (Updater.family updaters) sources).tiles.filterMap Tile.stored?).map
        (·.1) =
      (front.filterMap Tile.stored?).map (·.1) ++ sources.map (·.1) := by
  induction sources generalizing sofar reached front with
  | nil =>
    change (sofar.tiles.filterMap Tile.stored?).map (·.1) = _
    rw [ends.1, List.filterMap_append, Tile.filterMap_gap, List.map_nil, List.append_nil,
      List.append_nil]
  | cons source rest ih =>
    obtain ⟨inhabitedNow, inhabitedLater⟩ := List.forall_mem_cons.mp inhabited
    obtain ⟨inDomainNow, inDomainLater⟩ := List.forall_mem_cons.mp inDomain
    obtain ⟨ascendingNow, ascendingLater⟩ := List.pairwise_cons.mp ascending
    obtain ⟨behindNow, -⟩ := List.forall_mem_cons.mp behind
    obtain ⟨value, next⟩ := ends.resume (fills source.2) behindNow inhabitedNow inDomainNow
    rw [splice_cons, ih inhabitedLater inDomainLater ascendingLater next ascendingNow]
    simp [Tile.filterMap_gap]

end

namespace Registry

variable {registry source : Registry}

/-! ## Room -/

theorem Filling.Since.size_le {store : SnapshotStore} {snapshot : Snapshot} {filling : Filling}
    (since : filling.Since store snapshot)
    (bound : store.snapshots.size ≤ SnapshotStore.capacity) :
    filling.store.snapshots.size ≤ SnapshotStore.capacity := by
  cases since with
  | unasked => exact bound
  | issued pushed => exact SnapshotStore.size_le_of_push pushed
  | refused => exact bound

theorem Importing.Copied.size_le {store : SnapshotStore} {importing : Importing}
    {handle : SnapshotId} {reply : Option SnapshotId × Importing}
    (copied : Importing.Copied store importing handle reply)
    (bound : importing.store.snapshots.size ≤ SnapshotStore.capacity) :
    reply.2.store.snapshots.size ≤ SnapshotStore.capacity := by
  cases copied with
  | known => exact bound
  | absent => exact bound
  | issued _ _ pushed => exact SnapshotStore.size_le_of_push pushed
  | refused => exact bound

theorem Sound.answers_size_le (sound : registry.Sound) {template : LayoutEntry} {outcome : Outcome}
    (answers : registry.Answers template outcome)
    (bound : registry.snapshots.snapshots.size ≤ SnapshotStore.capacity) :
    outcome.registry.snapshots.snapshots.size ≤ SnapshotStore.capacity := by
  cases answers with
  | filled snapshot swept =>
    obtain ⟨tiles, holds⟩ := sound.holds
    obtain ⟨filling, since, store, -⟩ := fill_since template snapshot swept holds
    rw [store]
    exact since.size_le bound
  | setAside notice _ => exact bound

theorem Sound.importFrom_size_le (sound : registry.Sound) (source : Registry)
    (bound : registry.snapshots.snapshots.size ≤ SnapshotStore.capacity) :
    (registry.importFrom source).registry.snapshots.snapshots.size ≤ SnapshotStore.capacity := by
  by_cases compatible : registry.key = source.key
  · obtain ⟨tiles, holds⟩ := sound.holds
    have becomes := importEntries_becomes holds source.snapshots (SpanMap.entries source.layouts)
    let Fits (importing : Importing) : Prop :=
      importing.store.snapshots.size ≤ SnapshotStore.capacity
    have kept : Fits (merged (SpanMap.limit registry.layouts) source.snapshots
        (SpanMap.entries source.layouts) tiles registry.snapshots).state := by
      refine Rewriting.splice_keeps Fits (fun entry _ => importer_keeps Fits ?_ entry.2) bound
      intro importing handle
      exact (Importing.copied_copy source.snapshots importing handle).size_le
    rw [importFrom_eq compatible]
    exact (congrArg (·.store.snapshots.size) becomes.state).trans_le kept
  · rw [importFrom_of_ne compatible]
    exact bound

/-- No store ever holds more snapshots than there are places to hand out. -/
theorem Reachable.size_le (reachable : registry.Reachable) :
    registry.snapshots.snapshots.size ≤ SnapshotStore.capacity := by
  induction reachable with
  | empty => exact Nat.zero_le _
  | emptyLike => exact Nat.zero_le _
  | setLayout _ _ _ _ reachable _ ih =>
    exact reachable.sound.answers_size_le (fillSelector_answers _ _ _ _ _) ih
  | setInitial _ _ _ reachable _ ih =>
    exact reachable.sound.answers_size_le (fillSelector_answers _ _ _ _ _) ih
  | setInitialFromView _ _ _ reachable _ ih =>
    exact reachable.sound.answers_size_le (setInitialFromView_answers _ _ _ _) ih
  | importFrom reachable _ _ ih _ => exact reachable.sound.importFrom_size_le _ ih

/-! ## The copy of a registry -/

/-- An entry of the copy says what the original says, and its snapshot is a copy of the original's
in the copy's own store. -/
structure CopiesEntry (source copy : Registry) (original copied : Span × LayoutEntry) : Prop where
  span : copied.1 = original.1
  initial : copied.2.initial = original.2.initial
  current : copied.2.current = original.2.current
  snapshot : ∃ handle own snapshot, original.2.snapshot = some handle ∧
    copied.2.snapshot = some own ∧ copy.snapshots.owns own = true ∧
    copy.snapshots.get? own = some snapshot ∧ source.snapshots.get? handle = some snapshot

/-- The copy has what the source has, span by span, and shares nothing with it. -/
structure DeepCopy (source copy : Registry) : Prop where
  key : copy.key = source.key
  entries : List.Forall₂ (CopiesEntry source copy) (SpanMap.entries source.layouts)
    (SpanMap.entries copy.layouts)
  count : copy.snapshots.snapshots.size = source.snapshots.snapshots.size

theorem Sound.importFrom_spans (sound : source.Sound) (store : StoreId) :
    (SpanMap.entries ((source.emptyLike store).importFrom source).registry.layouts).map (·.1) =
      (SpanMap.entries source.layouts).map (·.1) := by
  obtain ⟨tiles, sourceHolds⟩ := sound.holds
  have orderly := SpanMap.orderly_of_holds sourceHolds
  have sameLimit : SpanMap.limit (source.emptyLike store).layouts = SpanMap.limit source.layouts :=
    AdaptiveMap.limit_emptied source.layouts
  have begins : LawfulSpanMap.Holds (source.emptyLike store).layouts
      (Tile.gap ⟨0, SpanMap.limit source.layouts⟩) := AdaptiveMap.holds_emptied source.layouts
  have becomes := importEntries_becomes begins source.snapshots (SpanMap.entries source.layouts)
  have holds := becomes.holds
  rw [List.nil_append, sameLimit] at holds
  have ends : (⟨Tile.gap ⟨0, SpanMap.limit source.layouts⟩, ⟨.empty store, [], []⟩, 0⟩ :
      Rewriting LayoutEntry Importing).EndsAt (SpanMap.limit source.layouts) 0 [] :=
    ⟨rfl, List.forall_mem_nil _⟩
  have fills (entry : LayoutEntry) (gap : Span) (importing : Importing) :
      ((importer source.snapshots entry).insert gap importing).1.isSome = true := rfl
  rw [importFrom_emptyLike]
  exact (congrArg (List.map (·.1)) (SpanMap.entries_eq holds)).trans
    (ends.splice fills orderly.inhabited orderly.inDomain orderly.ascending
      fun _ _ => Nat.zero_le _)

theorem known?_emptyLike (source : Registry) (store : StoreId) (index : Nat) :
    (source.emptyLike store).known? index = none :=
  known?_of_gap (AdaptiveMap.holds_emptied source.layouts) index

theorem Sound.copiesEntry (sound : source.Sound) (store : StoreId)
    (room : ((source.emptyLike store).importFrom source).FoundRoom) {index : Nat}
    {original copied : LayoutEntry} (known : source.known? index = some original)
    (knownCopy : ((source.emptyLike store).importFrom source).registry.known? index =
      some copied) (span : Span) :
    CopiesEntry source ((source.emptyLike store).importFrom source).registry (span, original)
      (span, copied) := by
  have emptySound := sound.emptyLike store
  obtain ⟨copyOf, imported⟩ := emptySound.importFrom_imported sound rfl room
  have union := imported.union emptySound sound
  obtain ⟨handle, own, snapshot, isHandle, value, owned, inCopy, inSource⟩ :=
    union.taken index (sound.lt_of_known known) original known (source.known?_emptyLike store index)
  obtain rfl := Option.some.inj (value.symm.trans knownCopy)
  exact ⟨rfl, rfl, rfl, handle, own, snapshot, isHandle, rfl, owned, inCopy, inSource⟩

theorem Sound.importFrom_copies (sound : source.Sound) (store : StoreId)
    (room : ((source.emptyLike store).importFrom source).FoundRoom) :
    List.Forall₂ (CopiesEntry source ((source.emptyLike store).importFrom source).registry)
      (SpanMap.entries source.layouts)
      (SpanMap.entries ((source.emptyLike store).importFrom source).registry.layouts) := by
  obtain ⟨tiles, sourceHolds⟩ := sound.holds
  obtain ⟨copyTiles, holds⟩ := ((sound.emptyLike store).importFrom sound room).holds
  have orderly := SpanMap.orderly_of_holds sourceHolds
  have sameSpans := (sound.importFrom_spans store).symm
  rw [← List.forall₂_eq_eq_eq, List.forall₂_map_left_iff, List.forall₂_map_right_iff] at sameSpans
  refine List.forall₂_iff_zip.mpr ⟨sameSpans.length_eq, ?_⟩
  intro original copied paired
  obtain ⟨isOriginal, isCopied⟩ := List.of_mem_zip paired
  obtain ⟨span, entry⟩ := original
  obtain ⟨otherSpan, other⟩ := copied
  obtain rfl : span = otherSpan := (List.forall₂_iff_zip.mp sameSpans).2 paired
  have inside : span.start ∈ span := ⟨Nat.le_refl _, orderly.inhabited _ isOriginal⟩
  exact sound.copiesEntry store room (SpanMap.value?_of_mem_entries sourceHolds isOriginal inside)
    (SpanMap.value?_of_mem_entries holds isCopied inside) span

/-- Every place of the source's store is named by a handle that the copy needs. -/
theorem Sound.importFrom_count (sound : source.Sound) (complete : source.NoneOrphaned)
    (store : StoreId) (room : ((source.emptyLike store).importFrom source).FoundRoom) :
    ((source.emptyLike store).importFrom source).registry.snapshots.snapshots.size =
      source.snapshots.snapshots.size := by
  have emptySound := sound.emptyLike store
  obtain ⟨importing, same, took⟩ := emptySound.importFrom_took sound rfl room
  have named : List.range source.snapshots.snapshots.size ⊆
      importing.handles.map (·.index.toNat) := by
    intro place isPlace
    obtain ⟨stored, member, handle, isHandle, rfl⟩ :=
      ((sound.inOrder complete).places place).mpr (List.mem_range.mp isPlace)
    obtain ⟨index, known⟩ := sound.known_of_mem member
    have needs : Needs (source.emptyLike store) source handle index :=
      ⟨sound.lt_of_known known, source.known?_emptyLike store index, stored.2, known, isHandle⟩
    refine List.mem_map_of_mem ((took.mem_iff handle).mpr ?_)
    exact (emptySound.mem_wanted_iff sound).mpr ⟨index, needs⟩
  have fewer := SnapshotStore.length_le took.nodup took.resolves
  have enough := (List.nodup_range.subperm named).length_le
  rw [List.length_range, List.length_map] at enough
  rw [← same, took.size_eq, Nat.le_antisymm fewer enough]
  exact Nat.zero_add _

/-- The flag is raised for whatever the copy stores, and that is what the source stores. -/
theorem Sound.importFrom_emptyLike_changed_iff (sound : source.Sound) (store : StoreId)
    (room : ((source.emptyLike store).importFrom source).FoundRoom) :
    ((source.emptyLike store).importFrom source).changed = true ↔
      SpanMap.entries source.layouts ≠ [] := by
  obtain ⟨tiles, sourceHolds⟩ := sound.holds
  obtain ⟨copyTiles, holds⟩ := ((sound.emptyLike store).importFrom sound room).holds
  have sameLength := (sound.importFrom_copies store room).length_eq
  have emptyHolds : LawfulSpanMap.Holds (source.emptyLike store).layouts _ :=
    AdaptiveMap.holds_emptied source.layouts
  rw [importFrom_changed_iff emptyHolds sourceHolds, ← List.length_pos_iff, sameLength,
    List.length_pos_iff]
  constructor
  · rintro ⟨index, known⟩
    rw [known?_emptyLike] at known
    obtain ⟨entry, isKnown⟩ := Option.ne_none_iff_exists'.mp known
    obtain ⟨stored, member, -⟩ := (SpanMap.value?_eq_some_iff holds).mp isKnown
    exact List.ne_nil_of_mem member
  · intro some
    obtain ⟨stored, member⟩ := List.exists_mem_of_ne_nil _ some
    have inhabited := (SpanMap.orderly_of_holds holds).inhabited stored member
    refine ⟨stored.1.start, ?_⟩
    rw [known?_emptyLike, known?,
      SpanMap.value?_of_mem_entries holds member ⟨Nat.le_refl _, inhabited⟩]
    exact Option.some_ne_none _

/-- Importing a registry into an empty one of its kind copies it. There is a place for every copy, so
nothing has to be said of room. -/
theorem Reachable.importFrom_emptyLike_copies (reachable : source.Reachable) (store : StoreId) :
    let outcome := (source.emptyLike store).importFrom source
    outcome.FoundRoom ∧ DeepCopy source outcome.registry ∧
      outcome.registry.snapshots.id = store ∧
      (outcome.changed = true ↔ SpanMap.entries source.layouts ≠ []) := by
  intro outcome
  have sound := reachable.sound
  have room : outcome.FoundRoom := by
    refine (sound.emptyLike store).importFrom_foundRoom sound ?_
    exact (Nat.zero_add _).trans_le reachable.size_le
  obtain ⟨copyOf, imported⟩ := (sound.emptyLike store).importFrom_imported sound rfl room
  have sameKey : outcome.registry.key = source.key := by
    rw [key, imported.image, imported.addressing]
    rfl
  exact ⟨room,
    ⟨sameKey, sound.importFrom_copies store room,
      sound.importFrom_count reachable.noneOrphaned store room⟩,
    imported.snapshots.id, sound.importFrom_emptyLike_changed_iff store room⟩

/-- Two snapshots, and one of them in two stretches with the other between. -/
theorem Reachable.importFrom_emptyLike_copies_layers :
    let image : Image := ⟨⟨1⟩, ⟨⟨3⟩, 2, 3, .undefined, none⟩, 0, by decide⟩
    let first := (Registry.empty image 0 ⟨1⟩).setLayout ⟨⟨1⟩, none⟩ ⟨⟨1⟩, 1, 1, 0, 2⟩ .general none
    let source := first.registry.setInitial ⟨⟨2⟩, none⟩ (.all ⟨3⟩) .presentSrc
    let outcome := (source.registry.emptyLike ⟨2⟩).importFrom source.registry
    source.registry.Reachable ∧ outcome.FoundRoom ∧ DeepCopy source.registry outcome.registry ∧
      outcome.registry.snapshots.id = ⟨2⟩ ∧
      (outcome.changed = true ↔ SpanMap.entries source.registry.layouts ≠ []) := by
  intro image first source outcome
  have begun := Reachable.empty image 0 ⟨1⟩
  obtain ⟨firstRoom, firstSize⟩ := begun.sound.fillSelector_foundRoom ⟨⟨1⟩, none⟩ ⟨⟨1⟩, 1, 1, 0, 2⟩
    ⟨some .general, some .general, none⟩ .transition (by decide)
  have between : first.registry.Reachable := .setLayout _ _ _ _ begun firstRoom
  obtain ⟨room, -⟩ := between.sound.fillSelector_foundRoom ⟨⟨2⟩, none⟩ (.all ⟨3⟩)
    ⟨some .presentSrc, none, none⟩ .initialLayout (Nat.lt_of_le_of_lt firstSize (by decide))
  have reachable : source.registry.Reachable := .setInitial _ _ _ between room
  exact ⟨reachable, reachable.importFrom_emptyLike_copies ⟨2⟩⟩

end Registry

end LayoutTracking
