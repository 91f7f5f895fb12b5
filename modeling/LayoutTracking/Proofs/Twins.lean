import LayoutTracking.Proofs.Devices
import LayoutTracking.Proofs.Recordings
import LayoutTracking.Session.Report
import Mathlib.Data.List.Forall2

/-!
# Twins

Two maps are twins if they stand for the same tiles after as many writes, of whatever kind each of
them is. Registries, recordings and devices are twins if their maps are, and they agree in all else.
Every operation takes twins to twins, and says the same of both.
-/

set_option autoImplicit false

namespace LayoutTracking

/-! ## Lists side by side -/

section

variable {α β : Type} {Same : α → β → Prop} {lefts : List α} {rights : List β}

theorem isSome_eq_of_rel {first : Option α} {second : Option β}
    (rel : Option.Rel Same first second) : first.isSome = second.isSome := by
  cases rel with
  | none => rfl
  | some _ => rfl

theorem getElem?_rel (same : List.Forall₂ Same lefts rights) (position : Nat) :
    Option.Rel Same lefts[position]? rights[position]? := by
  induction same generalizing position with
  | nil => exact .none
  | cons first _ ih =>
    cases position with
    | zero => exact .some first
    | succ position => exact ih position

theorem set_rel (same : List.Forall₂ Same lefts rights) (position : Nat) {left : α} {right : β}
    (both : Same left right) :
    List.Forall₂ Same (lefts.set position left) (rights.set position right) := by
  induction same generalizing position with
  | nil => exact .nil
  | cons first later ih =>
    cases position with
    | zero => exact .cons both later
    | succ position => exact .cons first (ih position)

theorem append_rel (same : List.Forall₂ Same lefts rights) {left : α} {right : β}
    (both : Same left right) : List.Forall₂ Same (lefts ++ [left]) (rights ++ [right]) :=
  List.rel_append same (.cons both .nil)

end

/-! ## Maps -/

section

variable {M N V σ : Type} [SpanMap M V] [LawfulSpanMap M V] [SpanMap N V] [LawfulSpanMap N V]

structure SpanMap.Twins (left : M) (right : N) : Prop where
  holds : ∃ tiles, LawfulSpanMap.Holds left tiles ∧ LawfulSpanMap.Holds right tiles
  limit : SpanMap.limit left = SpanMap.limit right
  revision : SpanMap.revision left = SpanMap.revision right

variable {left : M} {right : N}

theorem SpanMap.Twins.indistinguishable (twins : Twins left right) :
    Indistinguishable left right := by
  obtain ⟨⟨tiles, holds, otherHolds⟩, limit, revision⟩ := twins
  have stands := History.start_stands otherHolds
  rw [← limit, ← revision] at stands
  exact (History.start_stands holds).indistinguishable stands

theorem SpanMap.Twins.overwrite (twins : Twins left right) {span : Span} (value : V)
    (bound : span.stop ≤ SpanMap.limit left) :
    Twins (SpanMap.overwrite left span value) (SpanMap.overwrite right span value) := by
  by_cases isEmpty : span.isEmpty = true
  · rw [LawfulSpanMap.overwrite_of_isEmpty value isEmpty,
      LawfulSpanMap.overwrite_of_isEmpty value isEmpty]
    exact twins
  · obtain ⟨tiles, holds, otherHolds⟩ := twins.holds
    have inhabited : span.start < span.stop :=
      Span.isEmpty_eq_false_iff.mp (Bool.eq_false_iff.mpr isEmpty)
    have otherBound := Nat.le_trans bound (Nat.le_of_eq twins.limit)
    refine ⟨⟨_, LawfulSpanMap.holds_overwrite value holds inhabited bound,
      LawfulSpanMap.holds_overwrite value otherHolds inhabited otherBound⟩, ?_, ?_⟩
    · rw [LawfulSpanMap.limit_overwrite, LawfulSpanMap.limit_overwrite, twins.limit]
    · rw [LawfulSpanMap.revision_overwrite value inhabited bound,
        LawfulSpanMap.revision_overwrite value inhabited otherBound, twins.revision]

/-- A span that is refused by one of the maps is refused by the other. -/
theorem SpanMap.Twins.overwrite? (twins : Twins left right) (span : Span) (value : V) :
    Twins ((SpanMap.overwrite? left span value).getD left)
      ((SpanMap.overwrite? right span value).getD right) := by
  unfold SpanMap.overwrite?
  rw [← twins.limit]
  by_cases bound : span.stop ≤ SpanMap.limit left
  · rw [if_pos bound, if_pos bound]
    exact twins.overwrite value bound
  · rw [if_neg bound, if_neg bound]
    exact twins

/-- Walks that came the same way over twins. -/
structure Walk.Twins (left : Walk M σ) (right : Walk N σ) : Prop where
  map : SpanMap.Twins left.map right.map
  state : left.state = right.state
  changed : left.changed = right.changed

theorem Walk.Becomes.twins {walk : Walk M σ} {other : Walk N σ} {state : σ} {done : Rewriting V σ}
    (becomes : (Walk.start left .fresh state).Becomes walk [] done)
    (otherBecomes : (Walk.start right .fresh state).Becomes other [] done)
    (twins : SpanMap.Twins left right) : walk.Twins other := by
  refine ⟨⟨⟨_, becomes.holds, otherBecomes.holds⟩, ?_, ?_⟩, ?_, ?_⟩
  · exact becomes.limit.trans (twins.limit.trans otherBecomes.limit.symm)
  · rw [becomes.revision, otherBecomes.revision]
    exact congrArg (· + done.writes) twins.revision
  · rw [becomes.state, otherBecomes.state]
  · rw [becomes.changed, otherBecomes.changed]
    rfl

theorem SpanMap.Twins.runAll (twins : Twins left right) (updater : Updater V σ) (spans : List Span)
    (state : σ) :
    (updater.runAll spans (.start left .fresh state)).Twins
      (updater.runAll spans (.start right .fresh state)) := by
  obtain ⟨tiles, holds, otherHolds⟩ := twins.holds
  have otherBecomes := updater.runAll_becomes otherHolds spans state
  rw [← twins.limit] at otherBecomes
  exact (updater.runAll_becomes holds spans state).twins otherBecomes twins

theorem SpanMap.Twins.mergeAll {W : Type} (twins : Twins left right)
    (make : W → σ → Updater V σ × σ) (sources : List (Span × W)) (state : σ) :
    Walk.Twins
      (sources.foldl
        (fun walk entry =>
          let (updater, state) := make entry.2 walk.state
          updater.run entry.1 { walk with state })
        (.start left .fresh state))
      (sources.foldl
        (fun walk entry =>
          let (updater, state) := make entry.2 walk.state
          updater.run entry.1 { walk with state })
        (.start right .fresh state)) := by
  obtain ⟨tiles, holds, otherHolds⟩ := twins.holds
  have fresh : Cursor.fresh.Fits left := Cursor.fits_of_slot_eq_none rfl left
  have otherFresh : Cursor.fresh.Fits right := Cursor.fits_of_slot_eq_none rfl right
  have becomes := (Walk.becomes_start holds fresh state).mergeAll make sources
  have otherBecomes := (Walk.becomes_start otherHolds otherFresh state).mergeAll make sources
  rw [show SpanMap.limit (Walk.start right _ _).map = SpanMap.limit left from twins.limit.symm]
    at otherBecomes
  exact becomes.twins otherBecomes twins

end

namespace AdaptiveMap

variable {V : Type}

theorem revision_empty (limit threshold : Nat) :
    SpanMap.revision (AdaptiveMap.empty limit threshold : AdaptiveMap V) = 0 := by
  unfold AdaptiveMap.empty
  split
  · rfl
  · rfl

theorem revision_emptied (map : AdaptiveMap V) : SpanMap.revision map.emptied = 0 := by
  cases map with
  | flat _ => rfl
  | sparse _ => rfl

/-- The one place where a threshold is looked at. -/
theorem twins_empty (limit threshold other : Nat) :
    SpanMap.Twins (AdaptiveMap.empty limit threshold : AdaptiveMap V)
      (AdaptiveMap.empty limit other : AdaptiveMap V) where
  holds := ⟨_, holds_empty limit threshold, holds_empty limit other⟩
  limit := (limit_empty limit threshold).trans (limit_empty limit other).symm
  revision := (revision_empty limit threshold).trans (revision_empty limit other).symm

theorem twins_emptied {left right : AdaptiveMap V} (twins : SpanMap.Twins left right) :
    SpanMap.Twins left.emptied right.emptied where
  holds := ⟨_, holds_emptied left, twins.limit ▸ holds_emptied right⟩
  limit := (limit_emptied left).trans (twins.limit.trans (limit_emptied right).symm)
  revision := (revision_emptied left).trans (revision_emptied right).symm

end AdaptiveMap

/-! ## Registries -/

namespace Registry

structure Twins (left right : Registry) : Prop where
  image : left.image = right.image
  addressing : left.addressing = right.addressing
  layouts : SpanMap.Twins left.layouts right.layouts
  snapshots : left.snapshots = right.snapshots

structure Outcome.Twins (left right : Outcome) : Prop where
  registry : left.registry.Twins right.registry
  changed : left.changed = right.changed
  notices : left.notices = right.notices
  failure : left.failure = right.failure

variable {left right source counterpart : Registry}

theorem twins_empty (image : Image) (threshold other : Nat) (store : StoreId) :
    (Registry.empty image threshold store).Twins (.empty image other store) :=
  ⟨rfl, rfl, AdaptiveMap.twins_empty _ _ _, rfl⟩

theorem Twins.emptyLike (twins : left.Twins right) (store : StoreId) :
    (left.emptyLike store).Twins (right.emptyLike store) :=
  ⟨twins.image, twins.addressing, AdaptiveMap.twins_emptied twins.layouts, rfl⟩

theorem Twins.key_eq (twins : left.Twins right) : left.key = right.key := by
  rw [key, key, twins.image, twins.addressing]

theorem Twins.setAside (twins : left.Twins right) (notice : Notice) :
    (left.setAside notice).Twins (right.setAside notice) := ⟨twins, rfl, rfl, rfl⟩

theorem Twins.fill (twins : left.Twins right) (template : LayoutEntry) (snapshot : Snapshot)
    (swept : Swept) :
    (left.fill template snapshot swept).Twins (right.fill template snapshot swept) := by
  obtain ⟨image, addressing, layouts, snapshots⟩ := left
  obtain ⟨_, _, others, _⟩ := right
  obtain ⟨rfl, rfl, layouts, rfl⟩ := twins
  have walks := layouts.runAll (filler template snapshot) swept.spans ⟨snapshots, none, []⟩
  exact ⟨⟨rfl, rfl, walks.map, congrArg Filling.store walks.state⟩, walks.changed,
    congrArg Filling.notices walks.state, rfl⟩

theorem Twins.fillSelector (twins : left.Twins right) (recorder : Recorder) (selector : Selector)
    (template : LayoutEntry) (request : Request) :
    (left.fillSelector recorder selector template request).Twins
      (right.fillSelector recorder selector template request) := by
  simp only [Registry.fillSelector, ← twins.addressing, ← twins.image]
  split
  · exact twins.fill _ _ _
  · exact twins.setAside _

theorem Twins.setLayout (twins : left.Twins right) (recorder : Recorder) (selector : Selector)
    (layout : ImageLayout) (expected : Option ImageLayout) :
    (left.setLayout recorder selector layout expected).Twins
      (right.setLayout recorder selector layout expected) := twins.fillSelector _ _ _ _

theorem Twins.setInitial (twins : left.Twins right) (recorder : Recorder) (selector : Selector)
    (layout : ImageLayout) :
    (left.setInitial recorder selector layout).Twins
      (right.setInitial recorder selector layout) := twins.fillSelector _ _ _ _

theorem Twins.setInitialFromView (twins : left.Twins right) (recorder : Recorder)
    (layout : ImageLayout) (view : View) :
    (left.setInitialFromView recorder layout view).Twins
      (right.setInitialFromView recorder layout view) := by
  unfold Registry.setInitialFromView
  rw [← twins.image]
  split
  · exact twins.fill _ _ _
  · exact twins.setAside _

theorem Twins.importEntries (twins : left.Twins right) (source : SnapshotStore)
    (entries : List (Span × LayoutEntry)) :
    (left.importEntries source entries).Twins (right.importEntries source entries) := by
  obtain ⟨image, addressing, layouts, snapshots⟩ := left
  obtain ⟨_, _, others, _⟩ := right
  obtain ⟨rfl, rfl, layouts, rfl⟩ := twins
  have walks := layouts.mergeAll (Updater.family (importer source)) entries ⟨snapshots, [], []⟩
  exact ⟨⟨rfl, rfl, walks.map, congrArg Importing.store walks.state⟩, walks.changed,
    congrArg Importing.notices walks.state, rfl⟩

/-- The kinds of the source and of the target may differ as well. -/
theorem Twins.importFrom (twins : left.Twins right) (sources : source.Twins counterpart) :
    (left.importFrom source).Twins (right.importFrom counterpart) := by
  by_cases compatible : left.key = source.key
  · rw [importFrom_eq compatible,
      importFrom_eq (twins.key_eq.symm.trans (compatible.trans sources.key_eq)),
      sources.snapshots, sources.layouts.indistinguishable.entries]
    exact twins.importEntries _ _
  · rw [importFrom_of_ne compatible, importFrom_of_ne (twins.key_eq ▸ sources.key_eq ▸ compatible),
      twins.key_eq, sources.key_eq]
    exact twins.setAside _

theorem Twins.searchSweep (twins : left.Twins right) (sweep : Sweep)
    (holds : Span × LayoutEntry → Bool) :
    left.searchSweep sweep holds = right.searchSweep sweep holds := by
  unfold Registry.searchSweep SpanMap.search
  rw [funext twins.layouts.indistinguishable.entriesIn]

theorem Twins.searchSelector (twins : left.Twins right) (selector : Selector)
    (holds : Span × LayoutEntry → Bool) :
    left.searchSelector selector holds = right.searchSelector selector holds := by
  unfold Registry.searchSelector
  rw [twins.addressing, funext fun sweep => twins.searchSweep sweep holds]

theorem Twins.entryAt? (twins : left.Twins right) (subresource : Subresource) :
    left.entryAt? subresource = right.entryAt? subresource := by
  unfold Registry.entryAt?
  rw [twins.addressing, twins.layouts.indistinguishable.get?]

theorem Twins.reportEntry (twins : left.Twins right) : left.reportEntry = right.reportEntry := by
  funext entry
  rw [Registry.reportEntry, Registry.reportEntry, twins.snapshots]

end Registry

/-! ## Recordings -/

namespace Recording

/-- Twin registries under the same image. -/
def TwinEntries (left right : ImageId × Registry) : Prop := left.1 = right.1 ∧ left.2.Twins right.2

structure Twins (left right : Recording) : Prop where
  recorder : left.recorder = right.recorder
  registries : List.Forall₂ TwinEntries left.registries right.registries

structure Outcome.Twins (left right : Outcome) : Prop where
  recording : left.recording.Twins right.recording
  stores : left.stores = right.stores
  changed : left.changed = right.changed
  notices : left.notices = right.notices
  failure : left.failure = right.failure

variable {left right nested counterpart : Recording}

theorem twins_empty (recorder : Recorder) (threshold other : Nat) :
    (Recording.empty recorder threshold).Twins (.empty recorder other) := ⟨rfl, .nil⟩

theorem lookup_twins {lefts rights : List (ImageId × Registry)}
    (entries : List.Forall₂ TwinEntries lefts rights) (image : ImageId) :
    Option.Rel Registry.Twins (lefts.lookup image) (rights.lookup image) := by
  induction entries with
  | nil => exact .none
  | @cons left right lefts rights first _ ih =>
    obtain ⟨id, registry⟩ := left
    obtain ⟨_, other⟩ := right
    obtain ⟨rfl, twins⟩ := first
    by_cases same : image = id
    · subst same
      rw [List.lookup_cons_self, List.lookup_cons_self]
      exact .some twins
    · rw [List.lookup_cons, List.lookup_cons, beq_false_of_ne same]
      exact ih

theorem Twins.registry? (twins : left.Twins right) (image : ImageId) :
    Option.Rel Registry.Twins (left.registry? image) (right.registry? image) :=
  lookup_twins twins.registries image

theorem replaced_twins {lefts rights : List (ImageId × Registry)}
    (entries : List.Forall₂ TwinEntries lefts rights) (image : ImageId) {registry other : Registry}
    (twins : registry.Twins other) :
    List.Forall₂ TwinEntries
      (lefts.map fun entry => if entry.1 = image then (image, registry) else entry)
      (rights.map fun entry => if entry.1 = image then (image, other) else entry) := by
  rw [List.forall₂_map_left_iff, List.forall₂_map_right_iff]
  refine entries.imp ?_
  rintro ⟨id, held⟩ ⟨_, heldOther⟩ ⟨rfl, heldTwins⟩
  by_cases same : id = image
  · rw [if_pos same, if_pos same]
    exact ⟨rfl, twins⟩
  · rw [if_neg same, if_neg same]
    exact ⟨rfl, heldTwins⟩

theorem Twins.put (twins : left.Twins right) (image : ImageId) {registry other : Registry}
    (registries : registry.Twins other) : (left.put image registry).Twins (right.put image other) := by
  refine ⟨twins.recorder, ?_⟩
  unfold Recording.put
  rw [isSome_eq_of_rel (twins.registry? image)]
  split
  · exact replaced_twins twins.registries image registries
  · exact append_rel twins.registries ⟨rfl, registries⟩

theorem Twins.edit (twins : left.Twins right) (image : ImageId)
    {make makeOther : StoreId → Registry} (made : ∀ store, (make store).Twins (makeOther store))
    {operation counterpart : Registry → Registry.Outcome}
    (operated : ∀ {registry other : Registry}, registry.Twins other →
      (operation registry).Twins (counterpart other)) (stores : Counter) :
    (left.edit image make operation stores).Twins (right.edit image makeOther counterpart stores) := by
  have found := twins.registry? image
  unfold Recording.edit Recording.obtain
  generalize left.registry? image = registry at found ⊢
  generalize right.registry? image = other at found ⊢
  cases found with
  | none =>
    have outcomes := operated (made ⟨stores.draw.1⟩)
    exact ⟨twins.put image outcomes.registry, rfl, outcomes.changed, outcomes.notices,
      congrArg (stores.spent? <|> ·) outcomes.failure⟩
  | some registries =>
    have outcomes := operated registries
    exact ⟨twins.put image outcomes.registry, rfl, outcomes.changed, outcomes.notices,
      congrArg (none <|> ·) outcomes.failure⟩

/-- The registry of an image seen for the first time is of the kind that the recording's own threshold
says. -/
theorem Twins.editImage (twins : left.Twins right) (image : Image)
    {operation : Registry → Registry.Outcome}
    (operated : ∀ {registry other : Registry}, registry.Twins other →
      (operation registry).Twins (operation other)) (stores : Counter) :
    (left.editImage image operation stores).Twins (right.editImage image operation stores) :=
  twins.edit image.id (Registry.twins_empty image left.threshold right.threshold) operated stores

theorem Twins.touch (twins : left.Twins right) (image : Image) (stores : Counter) :
    (left.touch image stores).Twins (right.touch image stores) :=
  twins.editImage image (fun registries => ⟨registries, rfl, rfl, rfl⟩) stores

theorem Twins.setLayout (twins : left.Twins right) (image : Image) (selector : Selector)
    (layout : ImageLayout) (expected : Option ImageLayout) (stores : Counter) :
    (left.setLayout image selector layout expected stores).Twins
      (right.setLayout image selector layout expected stores) := by
  unfold Recording.setLayout
  rw [twins.recorder]
  exact twins.editImage image (fun registries => registries.setLayout _ _ _ _) stores

theorem Twins.setInitial (twins : left.Twins right) (image : Image) (selector : Selector)
    (layout : ImageLayout) (stores : Counter) :
    (left.setInitial image selector layout stores).Twins
      (right.setInitial image selector layout stores) := by
  unfold Recording.setInitial
  rw [twins.recorder]
  exact twins.editImage image (fun registries => registries.setInitial _ _ _) stores

theorem Twins.setInitialFromView (twins : left.Twins right) (view : View) (layout : ImageLayout)
    (stores : Counter) :
    (left.setInitialFromView view layout stores).Twins
      (right.setInitialFromView view layout stores) := by
  unfold Recording.setInitialFromView
  rw [twins.recorder]
  exact twins.editImage view.image (fun registries => registries.setInitialFromView _ _ _) stores

theorem Outcome.Twins.andThen {earlier earlierOther later laterOther : Outcome}
    (first : earlier.Twins earlierOther) (second : later.Twins laterOther) :
    (earlier.andThen later).Twins (earlierOther.andThen laterOther) where
  recording := second.recording
  stores := second.stores
  changed := congrArg₂ (· || ·) first.changed second.changed
  notices := congrArg₂ (· ++ ·) first.notices second.notices
  failure := congrArg₂ (· <|> ·) first.failure second.failure

theorem Twins.importAll {sources counterparts : List (ImageId × Registry)}
    (entries : List.Forall₂ TwinEntries sources counterparts) {left right : Recording}
    (twins : left.Twins right) (stores : Counter) :
    (left.importAll sources stores).Twins (right.importAll counterparts stores) := by
  induction entries generalizing left right stores with
  | nil => exact ⟨twins, rfl, rfl, rfl, rfl⟩
  | @cons source counterpart sources counterparts first _ ih =>
    obtain ⟨id, registry⟩ := source
    obtain ⟨_, other⟩ := counterpart
    obtain ⟨rfl, registries⟩ := first
    have once : (left.importOne id registry stores).Twins (right.importOne id other stores) :=
      twins.edit id registries.emptyLike (fun targets => targets.importFrom registries) stores
    rw [importAll_cons, importAll_cons, ← once.stores]
    exact once.andThen (ih once.recording _)

theorem Twins.execute (twins : left.Twins right) (nestedTwins : nested.Twins counterpart)
    (stores : Counter) : (left.execute nested stores).Twins (right.execute counterpart stores) :=
  Twins.importAll nestedTwins.registries twins stores

theorem Twins.reset (twins : left.Twins right) : left.reset.Twins right.reset :=
  ⟨twins.recorder, .nil⟩

end Recording

/-! ## Devices -/

namespace Device

structure Twins (left right : Device) : Prop where
  images : left.images = right.images
  imageIds : left.imageIds = right.imageIds
  maps : List.Forall₂ SpanMap.Twins left.maps right.maps

structure Outcome.Twins (left right : Outcome) : Prop where
  device : left.device.Twins right.device
  changed : left.changed = right.changed
  notices : left.notices = right.notices
  failure : left.failure = right.failure

variable {left right : Device}

theorem twins_empty : Device.empty.Twins .empty := ⟨rfl, rfl, .nil⟩

theorem Twins.layoutMap (twins : left.Twins right) (image : Image) :
    SpanMap.Twins (left.layoutMap image) (right.layoutMap image) := by
  have found := getElem?_rel twins.maps image.layoutMap
  rw [Device.layoutMap, Device.layoutMap, List.getD_eq_getElem?_getD, List.getD_eq_getElem?_getD]
  generalize left.maps[image.layoutMap]? = map at found ⊢
  generalize right.maps[image.layoutMap]? = other at found ⊢
  cases found with
  | none => exact AdaptiveMap.twins_empty 0 0 0
  | some maps => exact maps

theorem Twins.putMap (twins : left.Twins right) (image : Image)
    {map other : AdaptiveMap ImageLayout} (maps : SpanMap.Twins map other) :
    (left.putMap image map).Twins (right.putMap image other) :=
  ⟨twins.images, twins.imageIds, set_rel twins.maps image.layoutMap maps⟩

theorem Twins.setSpans (twins : left.Twins right) (image : Image) (spans : List Span)
    (layout : ImageLayout) :
    (left.setSpans image spans layout).Twins (right.setSpans image spans layout) := by
  have walks := (twins.layoutMap image).runAll (Updater.prefer layout) spans ()
  exact ⟨twins.putMap image walks.map, walks.changed, rfl, rfl⟩

theorem Twins.setSwept (twins : left.Twins right) (image : Image) (swept : Swept)
    (layout : ImageLayout) :
    (left.setSwept image swept layout).Twins (right.setSwept image swept layout) :=
  have outcomes := twins.setSpans image swept.spans layout
  ⟨outcomes.device, outcomes.changed, outcomes.notices, rfl⟩

theorem Twins.setLayout (twins : left.Twins right) (image : Image) (selector : Selector)
    (layout : ImageLayout) :
    (left.setLayout image selector layout).Twins (right.setLayout image selector layout) := by
  rw [setLayout_eq, setLayout_eq]
  split
  · exact twins.setSwept image _ layout
  · exact ⟨twins, rfl, rfl, rfl⟩

theorem freshMap_twins (info : ImageInfo) (threshold other : Nat) :
    SpanMap.Twins (freshMap info threshold) (freshMap info other) := by
  rw [freshMap_eq]
  exact ((AdaptiveMap.twins_empty info.addressing.count threshold other).runAll
    (Updater.prefer info.initialLayout) (Swept.full info.addressing).spans ()).map

section Creating

variable (info : ImageInfo) (fits : info.addressing.count < UInt64.size) (threshold other : Nat)

theorem createImage_fst (device : Device) :
    (device.createImage info fits threshold).1 =
      ⟨⟨device.imageIds.draw.1⟩, info, device.maps.length, fits⟩ := rfl

theorem createImage_imageIds (device : Device) :
    (device.createImage info fits threshold).2.imageIds = device.imageIds.draw.2 := rfl

theorem Twins.createImage_eq (twins : left.Twins right) :
    (left.createImage info fits threshold).1 = (right.createImage info fits other).1 := by
  rw [createImage_fst, createImage_fst]
  simp only [twins.imageIds, twins.maps.length_eq]

theorem Twins.createImage (twins : left.Twins right) :
    (left.createImage info fits threshold).2.Twins (right.createImage info fits other).2 := by
  refine ⟨?_, ?_, ?_⟩
  · rw [createImage_images, createImage_images, twins.images,
      twins.createImage_eq info fits threshold other]
  · rw [createImage_imageIds, createImage_imageIds, twins.imageIds]
  · rw [createImage_maps, createImage_maps]
    exact append_rel twins.maps (freshMap_twins info threshold other)

theorem Twins.createAlias (twins : left.Twins right) (aliased : Image) :
    (left.createAlias info fits threshold aliased).1 =
        (right.createAlias info fits other aliased).1 ∧
      (left.createAlias info fits threshold aliased).2.Twins
        (right.createAlias info fits other aliased).2 := by
  unfold Device.createAlias
  split
  · rw [← twins.imageIds]
    exact ⟨rfl, congrArg (· ++ _) twins.images, rfl, twins.maps⟩
  · exact ⟨twins.createImage_eq info fits threshold other,
      twins.createImage info fits threshold other⟩

end Creating

theorem Twins.layoutAt? (twins : left.Twins right) (image : Image) (index : Nat) :
    left.layoutAt? image index = right.layoutAt? image index := by
  rw [Device.layoutAt?, Device.layoutAt?, (twins.layoutMap image).indistinguishable.get?]

theorem Twins.layoutOf? (twins : left.Twins right) (image : Image) (subresource : Subresource) :
    left.layoutOf? image subresource = right.layoutOf? image subresource := by
  unfold Device.layoutOf?
  rw [twins.layoutAt?]

theorem Twins.searchSpan (twins : left.Twins right) (image : Image) (query : Span)
    (holds : Span × ImageLayout → Bool) :
    left.searchSpan image query holds = right.searchSpan image query holds := by
  unfold Device.searchSpan SpanMap.search
  rw [(twins.layoutMap image).indistinguishable.entriesIn]

theorem Twins.searchSweep (twins : left.Twins right) (image : Image) (sweep : Sweep)
    (holds : Span × ImageLayout → Bool) :
    left.searchSweep image sweep holds = right.searchSweep image sweep holds := by
  unfold Device.searchSweep
  congr 1
  funext span
  exact twins.searchSpan image span holds

theorem Twins.searchSelector (twins : left.Twins right) (image : Image) (selector : Selector)
    (holds : Span × ImageLayout → Bool) :
    left.searchSelector image selector holds = right.searchSelector image selector holds := by
  unfold Device.searchSelector
  rw [funext fun sweep => twins.searchSweep image sweep holds]

end Device

end LayoutTracking
