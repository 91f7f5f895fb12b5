import LayoutTracking.Proofs.Importing

/-!
# Reachable registries

In every registry that operations build up, as long as snapshots find room, each stored entry has
an initial layout and a snapshot that resolves in the registry's own store.
-/

set_option autoImplicit false

namespace LayoutTracking.Registry

/-- The entry at an index, whatever span it is stored over. -/
def known? (registry : Registry) (index : Nat) : Option LayoutEntry :=
  SpanMap.value? registry.layouts index

/-- The snapshot of the entry, if there is one, is in the store. -/
def ResolvesIn (store : SnapshotStore) (content : Option LayoutEntry) : Prop :=
  ∀ entry ∈ content, ∀ handle ∈ entry.snapshot, (store.get? handle).isSome = true

theorem resolvesIn_none (store : SnapshotStore) : ResolvesIn store none := by
  intro entry none
  cases none

structure Sound (registry : Registry) : Prop where
  holds : ∃ tiles, LawfulSpanMap.Holds registry.layouts tiles
  limit : SpanMap.limit registry.layouts = registry.addressing.count
  settled : ∀ index entry, registry.known? index = some entry → entry.IsSettled
  resolves : ∀ index, ResolvesIn registry.snapshots (registry.known? index)

/-- The registries that operations build up, each snapshot finding room. -/
inductive Reachable : Registry → Prop where
  | empty (image : Image) (threshold : Nat) (store : StoreId) :
      Reachable (.empty image threshold store)
  | emptyLike {registry : Registry} (store : StoreId) :
      Reachable registry → Reachable (registry.emptyLike store)
  | setLayout {registry : Registry} (recorder : Recorder) (selector : Selector)
      (layout : ImageLayout) (expected : Option ImageLayout) :
      Reachable registry → (registry.setLayout recorder selector layout expected).FoundRoom →
      Reachable (registry.setLayout recorder selector layout expected).registry
  | setInitial {registry : Registry} (recorder : Recorder) (selector : Selector)
      (layout : ImageLayout) :
      Reachable registry → (registry.setInitial recorder selector layout).FoundRoom →
      Reachable (registry.setInitial recorder selector layout).registry
  | setInitialFromView {registry : Registry} (recorder : Recorder) (layout : ImageLayout)
      (view : View) :
      Reachable registry → (registry.setInitialFromView recorder layout view).FoundRoom →
      Reachable (registry.setInitialFromView recorder layout view).registry
  | importFrom {registry source : Registry} :
      Reachable registry → Reachable source → (registry.importFrom source).FoundRoom →
      Reachable (registry.importFrom source).registry

variable {registry source : Registry}

theorem Sound.allStored (sound : registry.Sound) {tiles : List (Tile LayoutEntry)}
    (holds : LawfulSpanMap.Holds registry.layouts tiles) :
    Tile.AllStored LayoutEntry.IsSettled tiles :=
  (SpanMap.allStored_iff holds).mpr sound.settled

theorem Sound.known?_eq_none (sound : registry.Sound) {index : Nat}
    (beyond : registry.addressing.count ≤ index) : registry.known? index = none := by
  obtain ⟨tiles, holds⟩ := sound.holds
  exact SpanMap.value?_eq_none holds (sound.limit.symm ▸ beyond)

theorem Sound.lt_of_known (sound : registry.Sound) {index : Nat} {entry : LayoutEntry}
    (known : registry.known? index = some entry) : index < registry.addressing.count := by
  obtain ⟨tiles, holds⟩ := sound.holds
  exact sound.limit ▸ SpanMap.lt_limit_of_value? holds known

theorem Sound.place_lt (sound : registry.Sound) {index : Nat} {entry : LayoutEntry}
    (known : registry.known? index = some entry) {handle : SnapshotId}
    (isHandle : entry.snapshot = some handle) :
    handle.index.toNat < registry.snapshots.snapshots.size := by
  obtain ⟨snapshot, found⟩ :=
    Option.isSome_iff_exists.mp (sound.resolves index entry known handle isHandle)
  exact (Array.getElem?_eq_some_iff.mp (SnapshotStore.get?_eq_some.mp found).2).1

theorem known?_of_gap {limit : Nat}
    (holds : LawfulSpanMap.Holds registry.layouts (Tile.gap ⟨0, limit⟩)) (index : Nat) :
    registry.known? index = none := by
  rw [known?, SpanMap.value?_eq holds, Tile.gap]
  split
  · rfl
  · rw [Tile.contentAt?_cons]
    split
    · rfl
    · rfl

theorem sound_of_gap {limit : Nat}
    (holds : LawfulSpanMap.Holds registry.layouts (Tile.gap ⟨0, limit⟩))
    (sameLimit : SpanMap.limit registry.layouts = registry.addressing.count) : registry.Sound := by
  refine ⟨⟨_, holds⟩, sameLimit, ?_, ?_⟩
  · intro index entry known
    rw [known?_of_gap holds] at known
    cases known
  · intro index
    rw [known?_of_gap holds]
    exact resolvesIn_none _

theorem sound_empty (image : Image) (threshold : Nat) (store : StoreId) :
    (Registry.empty image threshold store).Sound :=
  sound_of_gap (AdaptiveMap.holds_empty _ _) (AdaptiveMap.limit_empty _ _)

theorem Sound.emptyLike (sound : registry.Sound) (store : StoreId) :
    (registry.emptyLike store).Sound :=
  sound_of_gap (AdaptiveMap.holds_emptied _) ((AdaptiveMap.limit_emptied _).trans sound.limit)

theorem ResolvesIn.extend {earlier later : SnapshotStore} {content : Option LayoutEntry}
    (resolves : ResolvesIn earlier content) (extended : later.Extends earlier) :
    ResolvesIn later content := by
  intro entry isEntry handle isHandle
  obtain ⟨snapshot, found⟩ := Option.isSome_iff_exists.mp (resolves entry isEntry handle isHandle)
  exact Option.isSome_iff_exists.mpr ⟨snapshot, extended.get? found⟩

theorem Sound.of_revised (sound : registry.Sound) {after : Registry}
    {change : Nat → Option LayoutEntry → Option LayoutEntry}
    (addressing : after.addressing = registry.addressing)
    (extended : after.snapshots.Extends registry.snapshots)
    (revised : SpanMap.Revised registry.layouts after.layouts LayoutEntry.IsSettled change)
    (resolves : ∀ index content, ResolvesIn after.snapshots content →
      ResolvesIn after.snapshots (change index content)) : after.Sound := by
  obtain ⟨holds, sameLimit, settled, value⟩ := revised
  refine ⟨holds, sameLimit.trans (sound.limit.trans (congrArg _ addressing.symm)), settled, ?_⟩
  intro index
  by_cases bound : index < SpanMap.limit registry.layouts
  · rw [known?, value index bound]
    exact resolves index _ ((sound.resolves index).extend extended)
  · obtain ⟨tiles, holds⟩ := holds
    rw [known?, SpanMap.value?_eq_none holds (sameLimit.symm ▸ Nat.le_of_not_lt bound)]
    exact resolvesIn_none _

/-! ## Requests -/

theorem Sound.of_filled (sound : registry.Sound) {after : Registry} {template : LayoutEntry}
    {snapshot : Snapshot} {spans : List Span} {handle : Option SnapshotId}
    (filled : Filled registry after template snapshot spans handle) : after.Sound := by
  refine sound.of_revised filled.addressing filled.snapshots filled.revised ?_
  intro index content resolves
  split
  · rintro entry ⟨⟩ issued isIssued
    cases content with
    | none => exact Option.isSome_iff_exists.mpr ⟨snapshot, (filled.issued issued isIssued).2⟩
    | some existing => exact resolves existing rfl issued isIssued
  · exact resolves

theorem Sound.fill_filled (sound : registry.Sound) {template : LayoutEntry}
    {snapshot : Snapshot} {swept : Swept} (initial : template.initial.isSome = true)
    (room : (registry.fill template snapshot swept).FoundRoom) :
    ∃ handle, Filled registry (registry.fill template snapshot swept).registry template snapshot
      swept.spans handle := by
  obtain ⟨tiles, holds⟩ := sound.holds
  exact Registry.fill_filled holds (sound.allStored holds) initial room

theorem Sound.fill (sound : registry.Sound) {template : LayoutEntry} {snapshot : Snapshot}
    {swept : Swept} (initial : template.initial.isSome = true)
    (room : (registry.fill template snapshot swept).FoundRoom) :
    (registry.fill template snapshot swept).registry.Sound := by
  obtain ⟨handle, filled⟩ := sound.fill_filled initial room
  exact sound.of_filled filled

/-- What a request with an entry comes to: the entry is filled in over a sweep, or nothing
happens. -/
inductive Answers (registry : Registry) (template : LayoutEntry) : Outcome → Prop where
  | filled (snapshot : Snapshot) (swept : Swept) :
      Answers registry template (registry.fill template snapshot swept)
  | setAside (notice : Notice) :
      notice.severity ≠ .error → Answers registry template (registry.setAside notice)

theorem fillSelector_answers (registry : Registry) (recorder : Recorder) (selector : Selector)
    (template : LayoutEntry) (request : Request) :
    registry.Answers template (registry.fillSelector recorder selector template request) := by
  unfold fillSelector
  by_cases admitted : registry.addressing.admits (registry.addressing.normalize selector) = true
  · rw [if_pos admitted]
    exact .filled _ _
  · rw [if_neg admitted]
    exact .setAside _ nofun

theorem setInitialFromView_answers (registry : Registry) (recorder : Recorder)
    (layout : ImageLayout) (view : View) :
    registry.Answers ⟨some layout, none, none⟩
      (registry.setInitialFromView recorder layout view) := by
  unfold setInitialFromView
  by_cases shown : view.image.id = registry.image
  · rw [if_pos shown]
    exact .filled _ _
  · rw [if_neg shown]
    exact .setAside _ nofun

theorem Sound.answers (sound : registry.Sound) {template : LayoutEntry} {outcome : Outcome}
    (initial : template.initial.isSome = true) (answers : registry.Answers template outcome)
    (room : outcome.FoundRoom) : outcome.registry.Sound := by
  cases answers with
  | filled snapshot swept => exact sound.fill initial room
  | setAside notice _ => exact sound

/-- As long as a store has a place left, a request finds room in it, and takes no more than that. -/
theorem Sound.answers_foundRoom (sound : registry.Sound) {template : LayoutEntry}
    {outcome : Outcome} (answers : registry.Answers template outcome)
    (room : registry.snapshots.snapshots.size < SnapshotStore.capacity) :
    outcome.FoundRoom ∧
      outcome.registry.snapshots.snapshots.size ≤ registry.snapshots.snapshots.size + 1 := by
  cases answers with
  | filled snapshot swept =>
    obtain ⟨tiles, holds⟩ := sound.holds
    exact fill_foundRoom _ _ _ holds room
  | setAside notice isMild =>
    refine ⟨?_, Nat.le_succ _⟩
    intro other member
    exact List.mem_singleton.mp member ▸ isMild

theorem Sound.fillSelector_foundRoom (sound : registry.Sound) (recorder : Recorder)
    (selector : Selector) (template : LayoutEntry) (request : Request)
    (room : registry.snapshots.snapshots.size < SnapshotStore.capacity) :
    (registry.fillSelector recorder selector template request).FoundRoom ∧
      (registry.fillSelector recorder selector template request).registry.snapshots.snapshots.size ≤
        registry.snapshots.snapshots.size + 1 :=
  sound.answers_foundRoom (registry.fillSelector_answers recorder selector template request) room

/-! ## Imports -/

/-- What becomes of an entry, or a gap, where the source has an entry, or a gap. -/
def joined (copyOf : SnapshotId → Option SnapshotId) (source content : Option LayoutEntry) :
    Option LayoutEntry :=
  source.elim content fun entry => some (imported copyOf entry content)

theorem Sound.foldl_imported (sound : source.Sound) (copyOf : SnapshotId → Option SnapshotId)
    (index : Nat) (content : Option LayoutEntry) :
    ((SpanMap.entries source.layouts).filter fun entry => index ∈ entry.1).foldl
        (fun content entry => some (imported copyOf entry.2 content)) content =
      joined copyOf (source.known? index) content := by
  obtain ⟨tiles, holds⟩ := sound.holds
  rw [SpanMap.entries_filter holds, known?, SpanMap.value?]
  cases SpanMap.get? source.layouts index with
  | none => rfl
  | some entry => rfl

theorem Sound.known_of_mem (sound : source.Sound) {entry : Span × LayoutEntry}
    (member : entry ∈ SpanMap.entries source.layouts) :
    ∃ index, source.known? index = some entry.2 := by
  obtain ⟨tiles, holds⟩ := sound.holds
  rw [SpanMap.entries_eq holds] at member
  obtain ⟨tile, within, stored⟩ := List.mem_filterMap.mp member
  have bounds := (LawfulSpanMap.tiling holds).bounds within
  refine ⟨tile.span.start, ?_⟩
  rw [known?, SpanMap.value?, SpanMap.get?_of_mem holds within ⟨Nat.le_refl _, bounds.2.1⟩, stored]
  rfl

theorem Sound.importFrom_imported (sound : registry.Sound) (sourceSound : source.Sound)
    (compatible : registry.key = source.key) (room : (registry.importFrom source).FoundRoom) :
    ∃ copyOf, Imported registry (registry.importFrom source).registry source.snapshots
      (SpanMap.entries source.layouts) copyOf := by
  obtain ⟨tiles, holds⟩ := sound.holds
  rw [importFrom_eq compatible] at room ⊢
  refine importEntries_imported holds (sound.allStored holds) ?_ ?_ room
  · intro entry member
    obtain ⟨index, known⟩ := sourceSound.known_of_mem member
    exact sourceSound.settled index entry.2 known
  · intro entry member
    obtain ⟨index, known⟩ := sourceSound.known_of_mem member
    exact sourceSound.resolves index entry.2 known

theorem Sound.importFrom (sound : registry.Sound) (sourceSound : source.Sound)
    (room : (registry.importFrom source).FoundRoom) :
    (registry.importFrom source).registry.Sound := by
  by_cases compatible : registry.key = source.key
  · obtain ⟨copyOf, merged⟩ := sound.importFrom_imported sourceSound compatible room
    refine sound.of_revised merged.addressing merged.snapshots merged.revised ?_
    intro index content resolves
    rw [sourceSound.foldl_imported]
    cases source.known? index with
    | none => exact resolves
    | some entry =>
      rintro after ⟨⟩ handle isHandle
      cases content with
      | some existing => exact resolves existing rfl handle isHandle
      | none =>
        obtain ⟨original, -, isCopy⟩ := Option.bind_eq_some_iff.mp isHandle
        obtain ⟨snapshot, -, found⟩ := merged.resolves original handle isCopy
        exact Option.isSome_iff_exists.mpr ⟨snapshot, found⟩
  · rw [importFrom_of_ne compatible]
    exact sound

theorem Reachable.sound (reachable : registry.Reachable) : registry.Sound := by
  induction reachable with
  | empty image threshold store => exact sound_empty image threshold store
  | emptyLike store _ ih => exact ih.emptyLike store
  | setLayout recorder selector layout expected _ room ih =>
    exact ih.answers rfl (fillSelector_answers _ _ _ _ _) room
  | setInitial recorder selector layout _ room ih =>
    exact ih.answers rfl (fillSelector_answers _ _ _ _ _) room
  | setInitialFromView recorder layout view _ room ih =>
    exact ih.answers rfl (setInitialFromView_answers _ _ _ _) room
  | importFrom _ _ room ih sourceIH => exact ih.importFrom sourceIH room

end LayoutTracking.Registry
