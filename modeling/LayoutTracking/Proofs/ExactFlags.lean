import LayoutTracking.Proofs.Devices
import LayoutTracking.Proofs.ImportUnion
import LayoutTracking.Proofs.Moves

/-!
# Exact flags

The flag that an operation returns is exact: it is raised if and only if something became known or
moved at some index. An operation that does not raise it has left everything as it was, down to the
spans, the revision and the store, and an operation done again at once does not raise it.
-/

set_option autoImplicit false

namespace LayoutTracking

/-- What an operation returns besides the new state says of the state before whether anything that
is held there has changed. -/
structure FlagIsExact {S C : Type} (operation : S → S × Bool) (held : S → Nat → Option C)
    (before : S) : Prop where
  flag : (operation before).2 = true ↔
    ∃ index, held (operation before).1 index ≠ held before index
  idle : (operation before).2 = false → (operation before).1 = before
  again : (operation (operation before).1).2 = false

theorem flagIsExact_of_idle {S C : Type} {operation : S → S × Bool} {held : S → Nat → Option C}
    {before : S} (idle : operation before = (before, false)) :
    FlagIsExact operation held before := by
  refine ⟨?_, ?_, ?_⟩
  · rw [idle]
    simp
  · rw [idle]
    exact fun _ => rfl
  · rw [idle, idle]

/-- The operation is like an exact one, before and after it. -/
theorem FlagIsExact.congr {S C : Type} {operation other : S → S × Bool} {held : S → Nat → Option C}
    {before : S} (exactFlag : FlagIsExact other held before) (now : operation before = other before)
    (later : operation (other before).1 = other (other before).1) :
    FlagIsExact operation held before := by
  refine ⟨?_, ?_, ?_⟩
  · rw [now]
    exact exactFlag.flag
  · rw [now]
    exact exactFlag.idle
  · rw [now, later]
    exact exactFlag.again

def Registry.Outcome.flagged (outcome : Registry.Outcome) : Registry × Bool :=
  (outcome.registry, outcome.changed)

def Device.Outcome.flagged (outcome : Device.Outcome) : Device × Bool :=
  (outcome.device, outcome.changed)

def Walk.flagged {M σ : Type} (walk : Walk M σ) : M × Bool := (walk.map, walk.changed)

namespace Registry

/-! ## Requests -/

theorem filler_settling (template : LayoutEntry) (snapshot : Snapshot) :
    (filler template snapshot).Settling fun entry => entry.movesTo template.current = false where
  insert gap filling := by
    refine ⟨_, rfl, ?_⟩
    simp [LayoutEntry.movesTo, Filling.entry]
  update existing filling moves := by
    have moves := Bool.of_not_eq_false moves
    obtain ⟨layout, specified⟩ :=
      Option.isSome_iff_exists.mp (LayoutEntry.movesTo_eq_true.mp moves).1
    refine ⟨existing.merge (filling.entry template), ?_, ?_⟩
    · simp only [filler, moves, ↓reduceIte, Option.mem_def]
    · simp [LayoutEntry.movesTo, LayoutEntry.merge, Filling.entry, specified]
  spares existing resting filling := by
    simp [filler, resting]

variable {registry source : Registry} {tiles sourceTiles : List (Tile LayoutEntry)}

/-- A request that writes nothing has met no gap, and so has taken no snapshot. -/
theorem fill_idle (template : LayoutEntry) (snapshot : Snapshot) (swept : Swept)
    (idle : (registry.fill template snapshot swept).changed = false) :
    (registry.fill template snapshot swept).registry = registry := by
  have keeps (filling : Filling) (offer : Offer LayoutEntry)
      (kept : filling.store = registry.snapshots)
      (silent : ((filler template snapshot).answer filling offer).1 = none) :
      ((filler template snapshot).answer filling offer).2.store = registry.snapshots := by
    cases offer with
    | insert gap => cases silent
    | update existing =>
      simp only [Updater.answer, filler]
      split
      · exact kept
      · exact kept
  have quiet := Walk.idleFrom_foldl (Filling.store · = registry.snapshots) swept.spans
    (fun span _ walk => Updater.run_idle keeps span walk)
    (.start registry.layouts .fresh ⟨registry.snapshots, none, []⟩)
  obtain ⟨-, sameMap, sameStore⟩ := quiet idle
  exact congrArg₂ (fun layouts snapshots => { registry with layouts, snapshots }) sameMap
    (sameStore rfl)

theorem fill_flagIsExact (holds : LawfulSpanMap.Holds registry.layouts tiles)
    (template : LayoutEntry) (snapshot : Snapshot) (swept : Swept) :
    FlagIsExact (fun registry => (registry.fill template snapshot swept).flagged) known?
      registry where
  flag := (filler_settling template snapshot).runAll_changed_iff holds swept.spans _
  idle := fill_idle template snapshot swept
  again := (filler_settling template snapshot).runAll_again holds swept.spans _ _

/-- The request is the same before and after, for it depends on the addressing alone. -/
theorem fillSelector_flagIsExact (holds : LawfulSpanMap.Holds registry.layouts tiles)
    (recorder : Recorder) (selector : Selector) (template : LayoutEntry) (request : Request) :
    FlagIsExact (fun registry => (registry.fillSelector recorder selector template request).flagged)
      known? registry := by
  cases admitted : registry.addressing.admits (registry.addressing.normalize selector) with
  | false =>
    refine flagIsExact_of_idle ?_
    simp only [fillSelector, admitted, Bool.false_eq_true, ↓reduceIte]
    rfl
  | true =>
    obtain ⟨swept, filled⟩ : ∃ swept, ∀ other : Registry,
        other.addressing = registry.addressing →
          other.fillSelector recorder selector template request =
            other.fill template (.take recorder none) swept := by
      refine ⟨.ofSelector registry.addressing (registry.addressing.normalize selector), ?_⟩
      intro other same
      rw [fillSelector, same, if_pos admitted]
    exact (fill_flagIsExact holds template _ swept).congr
      (congrArg Outcome.flagged (filled registry rfl)) (congrArg Outcome.flagged (filled _ rfl))

/-! ## Imports -/

theorem importer_differs (source : SnapshotStore) (entry : LayoutEntry) :
    (importer source entry).Differs := by
  intro existing importing value answered same
  subst same
  obtain ⟨snapshot, answer⟩ : ∃ snapshot, ((importer source entry).update value importing).1 =
      if value.merge { entry with snapshot } = value then none
      else some (value.merge { entry with snapshot }) := ⟨_, rfl⟩
  rw [answer] at answered
  split at answered
  · cases answered
  · next moved => exact moved (Option.some.inj answered)

theorem importer_spares (source : SnapshotStore) {entry existing : LayoutEntry}
    (settled : existing.IsSettled)
    (current : (entry.current <|> existing.current) = existing.current) :
    (importer source entry).Spares existing := by
  intro importing
  simp [importer, settled.2, settled.merge, current]

theorem importEntries_changed_iff (holds : LawfulSpanMap.Holds registry.layouts tiles)
    (source : SnapshotStore) {entries : List (Span × LayoutEntry)}
    (ascending : entries.Pairwise fun earlier later => earlier.1.stop ≤ later.1.start) :
    (registry.importEntries source entries).changed = true ↔
      ∃ index, (registry.importEntries source entries).registry.known? index ≠
        registry.known? index := by
  refine (importEntries_becomes holds source entries).changed_iff holds ?_ ?_
  · intro unwritten
    exact (Rewriting.splice_unwritten unwritten).1
  · refine Rewriting.exists_moved_of_splice
      (⟨tiles, ⟨registry.snapshots, [], []⟩, 0⟩ : Rewriting LayoutEntry Importing)
      (LawfulSpanMap.tiling holds) ?_ (ascending.imp ?_)
    · exact fun entry _ => importer_differs source entry.2
    · intro earlier later before index inEarlier inLater
      exact absurd (Nat.lt_of_lt_of_le inEarlier.2 before) (Nat.not_lt_of_le inLater.1)

theorem Importing.store_of_copied_none {source : SnapshotStore} {importing : Importing}
    {handle : Option SnapshotId} (none : (importing.copy? source handle).1 = none) :
    (importing.copy? source handle).2.store = importing.store := by
  cases handle with
  | none => rfl
  | some handle =>
    have copied := copied_copy source importing handle
    rw [Importing.copy?] at none ⊢
    generalize importing.copy source handle = reply at none copied ⊢
    cases copied with
    | known => rfl
    | absent => rfl
    | issued => cases none
    | refused => rfl

/-- An import that writes nothing has made no copy that anything refers to, and so none at all. -/
theorem importEntries_idle (source : SnapshotStore) (entries : List (Span × LayoutEntry))
    (idle : (registry.importEntries source entries).changed = false) :
    (registry.importEntries source entries).registry = registry := by
  have keeps (entry : LayoutEntry) (importing : Importing) (offer : Offer LayoutEntry)
      (kept : importing.store = registry.snapshots)
      (silent : ((importer source entry).answer importing offer).1 = none) :
      ((importer source entry).answer importing offer).2.store = registry.snapshots := by
    cases offer with
    | insert gap => cases silent
    | update existing =>
      obtain ⟨initial, current, snapshot⟩ := existing
      cases snapshot with
      | some handle => exact kept
      | none =>
        refine (Importing.store_of_copied_none ?_).trans kept
        cases copied : (importing.copy? source entry.snapshot).1 with
        | none => rfl
        | some copy =>
          have differs : LayoutEntry.merge ⟨initial, current, none⟩
              { entry with snapshot := (importing.copy? source entry.snapshot).1 } ≠
                ⟨initial, current, none⟩ := LayoutEntry.merge_ne_of_snapshot rfl copied
          exact nomatch (if_neg differs).symm.trans silent
  have quiet := Walk.idleFrom_foldl (Importing.store · = registry.snapshots) entries
    (fun entry _ walk => Updater.run_idle (keeps entry.2) entry.1 walk)
    (.start registry.layouts .fresh ⟨registry.snapshots, [], []⟩)
  obtain ⟨-, sameMap, sameStore⟩ := quiet idle
  exact congrArg₂ (fun layouts snapshots => { registry with layouts, snapshots }) sameMap
    (sameStore rfl)

theorem importFrom_changed_iff (holds : LawfulSpanMap.Holds registry.layouts tiles)
    (sourceHolds : LawfulSpanMap.Holds source.layouts sourceTiles) :
    (registry.importFrom source).changed = true ↔
      ∃ index, (registry.importFrom source).registry.known? index ≠ registry.known? index := by
  by_cases compatible : registry.key = source.key
  · rw [importFrom_eq compatible]
    exact importEntries_changed_iff holds _ (SpanMap.entries_ascending sourceHolds)
  · rw [importFrom_of_ne compatible]
    simp [setAside]

theorem importFrom_idle (idle : (registry.importFrom source).changed = false) :
    (registry.importFrom source).registry = registry := by
  by_cases compatible : registry.key = source.key
  · rw [importFrom_eq compatible] at idle ⊢
    exact importEntries_idle _ _ idle
  · rw [importFrom_of_ne compatible]
    rfl

theorem imported_current (copyOf : SnapshotId → Option SnapshotId) (entry : LayoutEntry)
    (content : Option LayoutEntry) :
    (entry.current <|> (imported copyOf entry content).current) =
      (imported copyOf entry content).current := by
  cases content with
  | none => cases current : entry.current <;> simp [imported, current]
  | some existing => cases current : entry.current <;> simp [imported, current]

/-- What the source knows has been taken over, with a snapshot where there was none. -/
theorem Sound.importFrom_again (sound : registry.Sound) (sourceSound : source.Sound)
    (room : (registry.importFrom source).FoundRoom) :
    ((registry.importFrom source).registry.importFrom source).changed = false := by
  by_cases compatible : registry.key = source.key
  · obtain ⟨copyOf, imports⟩ := sound.importFrom_imported sourceSound compatible room
    have afterSound := sound.importFrom sourceSound room
    obtain ⟨tiles, holds⟩ := afterSound.holds
    obtain ⟨sourceTiles, sourceHolds⟩ := sourceSound.holds
    have sameKey : (registry.importFrom source).registry.key = source.key := by
      rw [key, imports.image, imports.addressing]
      exact compatible
    rw [importFrom_eq sameKey]
    refine (importEntries_becomes holds _ _).changed_eq.trans ?_
    refine decide_eq_false (Nat.not_lt_of_le (Nat.le_of_eq ?_))
    refine Rewriting.splice_silent (LawfulSpanMap.tiling holds) ?_
    intro entry member index inside bound
    have told : source.known? index = some entry.2 :=
      SpanMap.value?_of_mem_entries sourceHolds member inside
    have inDomain : index < registry.addressing.count :=
      imports.addressing ▸ afterSound.limit ▸ bound
    have value := imports.known?_eq sound sourceSound inDomain
    rw [told] at value
    have here := SpanMap.contentAt?_eq holds bound
    exact ⟨_, here.trans (congrArg some value),
      importer_spares _ (afterSound.settled index _ value) (imported_current copyOf entry.2 _)⟩
  · rw [importFrom_of_ne compatible, setAside, importFrom_of_ne compatible]
    rfl

theorem importFrom_flagIsExact (sound : registry.Sound) (sourceSound : source.Sound)
    (room : (registry.importFrom source).FoundRoom) :
    FlagIsExact (fun registry => (registry.importFrom source).flagged) known? registry where
  flag := by
    obtain ⟨tiles, holds⟩ := sound.holds
    obtain ⟨sourceTiles, sourceHolds⟩ := sourceSound.holds
    exact importFrom_changed_iff holds sourceHolds
  idle := importFrom_idle
  again := sound.importFrom_again sourceSound room

end Registry

/-! ## Device-wide maps -/

theorem Updater.prefer_settling {V σ : Type} [DecidableEq V] (value : V) :
    (prefer value : Updater V σ).Settling (· = value) where
  insert _ _ := ⟨value, rfl, rfl⟩
  update _ _ differs := ⟨value, if_neg differs, rfl⟩
  spares _ same _ := if_pos same

namespace Device

theorem paint_flagIsExact {map : AdaptiveMap ImageLayout} (isMap : IsMap map) (spans : List Span)
    (layout : ImageLayout) :
    FlagIsExact (fun map => (paint map spans layout).flagged) SpanMap.value? map := by
  obtain ⟨tiles, holds⟩ := isMap.holds
  have settling : (Updater.prefer layout : Updater ImageLayout Unit).Settling (· = layout) :=
    Updater.prefer_settling layout
  refine ⟨settling.runAll_changed_iff holds spans (), ?_, settling.runAll_again holds spans () ()⟩
  intro idle
  have quiet := Walk.idleFrom_foldl (fun _ => True) spans
    (fun span _ walk => (Updater.prefer layout).run_idle (fun _ _ _ _ => trivial) span walk)
    (.start map .fresh ())
  exact (quiet idle).2.1

variable {device : Device} {image : Image}

theorem setSpans_flagIsExact (sound : device.Sound) (member : image ∈ device.images)
    (spans : List Span) (layout : ImageLayout) :
    FlagIsExact (fun device => (device.setSpans image spans layout).flagged) (layoutAt? · image)
      device := by
  have placed := sound.placed image member
  obtain ⟨flag, idle, again⟩ := paint_flagIsExact (sound.isMap image) spans layout
  refine ⟨?_, ?_, ?_⟩
  · simp only [Outcome.flagged, setSpans, layoutAt?, layoutMap_putMap placed]
    exact flag
  · intro silent
    exact (congrArg (device.putMap image) (idle silent)).trans (putMap_layoutMap placed)
  · simp only [Outcome.flagged, setSpans, layoutMap_putMap placed]
    exact again

theorem setLayout_flagIsExact (sound : device.Sound) (member : image ∈ device.images)
    (selector : Selector) (layout : ImageLayout) :
    FlagIsExact (fun device => (device.setLayout image selector layout).flagged)
      (layoutAt? · image) device := by
  cases admitted : image.addressing.admits (image.addressing.normalize selector) with
  | false =>
    refine flagIsExact_of_idle ?_
    rw [setLayout_eq, admitted]
    rfl
  | true =>
    obtain ⟨swept, same⟩ : ∃ swept, ∀ device : Device,
        device.setLayout image selector layout = device.setSwept image swept layout := by
      refine ⟨.ofSelector image.addressing (image.addressing.normalize selector), ?_⟩
      intro other
      rw [setLayout_eq, if_pos admitted]
    have flagged : FlagIsExact (fun device => (device.setSwept image swept layout).flagged)
        (layoutAt? · image) device := setSpans_flagIsExact sound member swept.spans layout
    exact flagged.congr (congrArg Outcome.flagged (same device)) (congrArg Outcome.flagged (same _))

end Device

/-! ## All of them -/

/-- The flags of transitions and imports say whether an entry has changed, and those of device-wide
updates whether a layout has. -/
theorem flagIsExact_of_reachable :
    (∀ registry : Registry, registry.Reachable →
      ∀ (recorder : Recorder) (selector : Selector) (layout : ImageLayout)
        (expected : Option ImageLayout),
        FlagIsExact
          (fun registry => (registry.setLayout recorder selector layout expected).flagged)
          Registry.known? registry) ∧
    (∀ registry source : Registry, registry.Reachable → source.Reachable →
      (registry.importFrom source).FoundRoom →
        FlagIsExact (fun registry => (registry.importFrom source).flagged) Registry.known?
          registry) ∧
    (∀ map : AdaptiveMap ImageLayout, Device.IsMap map → ∀ layout : ImageLayout,
      (∀ span : Span,
        FlagIsExact (fun map => (Device.paint map [span] layout).flagged) SpanMap.value? map) ∧
      ∀ swept : Swept,
        FlagIsExact (fun map => (Device.paint map swept.spans layout).flagged) SpanMap.value?
          map) ∧
    ∀ device : Device, device.Reachable → ∀ image ∈ device.images,
      ∀ (selector : Selector) (layout : ImageLayout),
        FlagIsExact (fun device => (device.setLayout image selector layout).flagged)
          (Device.layoutAt? · image) device := by
  refine ⟨?_, ?_, ?_, ?_⟩
  · intro registry reachable recorder selector layout expected
    obtain ⟨tiles, holds⟩ := reachable.sound.holds
    exact Registry.fillSelector_flagIsExact holds _ _ _ _
  · intro registry source reachable sourceReachable room
    exact Registry.importFrom_flagIsExact reachable.sound sourceReachable.sound room
  · intro map isMap layout
    exact ⟨fun span => Device.paint_flagIsExact isMap [span] layout,
      fun swept => Device.paint_flagIsExact isMap swept.spans layout⟩
  · intro device reachable image member selector layout
    exact Device.setLayout_flagIsExact reachable.sound member selector layout

/-- A flat registry is imported into a sparse one, and a request moves what both know and fills what
neither does. A device-wide map is written past its end. -/
theorem flagIsExact_of_layers :
    let info : ImageInfo := ⟨⟨3⟩, 2, 3, .undefined, none⟩
    let device := (Device.empty.createImage info (by decide) 16).2
    let image := (Device.empty.createImage info (by decide) 16).1
    let source :=
      ((Registry.empty image 16 ⟨1⟩).setLayout ⟨⟨1⟩, none⟩ ⟨⟨1⟩, 0, 1, 0, 2⟩ .general none).registry
    let target :=
      ((Registry.empty image 0 ⟨2⟩).setLayout ⟨⟨2⟩, none⟩ ⟨⟨1⟩, 0, 2, 1, 1⟩ .presentSrc none).registry
    (target.importFrom source).FoundRoom ∧
      FlagIsExact (fun target => (target.setLayout ⟨⟨2⟩, none⟩ (.all ⟨3⟩) .general none).flagged)
        Registry.known? target ∧
      FlagIsExact (fun target => (target.importFrom source).flagged) Registry.known? target ∧
      FlagIsExact (fun map => (Device.paint map [⟨10, 14⟩] .presentSrc).flagged) SpanMap.value?
        (.empty 12 0 : AdaptiveMap ImageLayout) ∧
      FlagIsExact (fun map => (Device.paint map (Swept.full info.addressing).spans .general).flagged)
        SpanMap.value? (.empty 12 16 : AdaptiveMap ImageLayout) ∧
      FlagIsExact (fun device => (device.setLayout image (.all ⟨2⟩) .general).flagged)
        (Device.layoutAt? · image) device := by
  intro info device image source target
  obtain ⟨transitions, imports, maps, devices⟩ := flagIsExact_of_reachable
  have sourceBegun := Registry.Reachable.empty image 16 ⟨1⟩
  have targetBegun := Registry.Reachable.empty image 0 ⟨2⟩
  have sourceReachable : source.Reachable := .setLayout _ _ _ _ sourceBegun
    (sourceBegun.sound.fillSelector_foundRoom _ _ _ .transition (by decide)).1
  have targetReachable : target.Reachable := .setLayout _ _ _ _ targetBegun
    (targetBegun.sound.fillSelector_foundRoom _ _ _ .transition (by decide)).1
  have sourceFilled : source = _ := congrArg Registry.Outcome.registry
    (Registry.setLayout_eq_fill ⟨by decide, by decide, by decide, by decide⟩)
  have targetFilled : target = _ := congrArg Registry.Outcome.registry
    (Registry.setLayout_eq_fill ⟨by decide, by decide, by decide, by decide⟩)
  have silent : (target.importFrom source).notices = [] := by
    rw [sourceFilled, targetFilled]
    decide +kernel
  have room : (target.importFrom source).FoundRoom := by
    rw [Registry.Outcome.FoundRoom, silent]
    intro notice member
    cases member
  have member : image ∈ device.images := List.mem_singleton_self image
  exact ⟨room, transitions target targetReachable _ _ _ _,
    imports target source targetReachable sourceReachable room,
    (maps _ (.empty 12 0) .presentSrc).1 ⟨10, 14⟩,
    (maps _ (.empty 12 16) .general).2 (Swept.full info.addressing),
    devices device (.createImage info _ 16 .empty) image member _ _⟩

end LayoutTracking
