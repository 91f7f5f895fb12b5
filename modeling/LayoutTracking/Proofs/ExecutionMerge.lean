import LayoutTracking.Proofs.ExactFlags
import LayoutTracking.Proofs.Recordings
import LayoutTracking.Proofs.StoreNames
import LayoutTracking.Session.Run

/-!
# Execution as a merge

A recording that executes another merges it image by image. No image stands in the way of another,
so the order in which the registries of the other come does not matter, and since each registry is
one of the image that it is kept for, none is ever refused.
-/

set_option autoImplicit false

namespace LayoutTracking

namespace Registry

/-! ## Registries of one image, with or without room -/

/-- What can be done to a registry of a recording, whether or not its snapshots find room. -/
inductive IsEdit : (Registry → Outcome) → Prop where
  | look : IsEdit fun registry => ⟨registry, false, [], none⟩
  | setLayout (recorder : Recorder) (selector : Selector) (layout : ImageLayout)
      (expected : Option ImageLayout) : IsEdit (·.setLayout recorder selector layout expected)
  | setInitial (recorder : Recorder) (selector : Selector) (layout : ImageLayout) :
      IsEdit (·.setInitial recorder selector layout)
  | setInitialFromView (recorder : Recorder) (layout : ImageLayout) (view : View) :
      IsEdit (·.setInitialFromView recorder layout view)
  | importFrom (source : Registry) : IsEdit (·.importFrom source)

/-- The registry carries the identity of the image, and the addressing of the image it stands for. -/
structure Belongs (registry : Registry) (infos : ImageId → ImageInfo) (id : ImageId) : Prop where
  image : registry.image = id
  addressing : registry.addressing = (infos id).addressing
  holds : ∃ tiles, LawfulSpanMap.Holds registry.layouts tiles

variable {infos : ImageId → ImageInfo} {id : ImageId} {registry source : Registry}

theorem Belongs.of_shape (belongs : registry.Belongs infos id) {after : Registry}
    (shape : registry.SameShape after) (holds : ∃ tiles, LawfulSpanMap.Holds after.layouts tiles) :
    after.Belongs infos id :=
  ⟨shape.1.trans belongs.image, shape.2.trans belongs.addressing, holds⟩

theorem Belongs.key_eq (belongs : registry.Belongs infos id)
    (sourceBelongs : source.Belongs infos id) : registry.key = source.key := by
  rw [key, key, belongs.image, sourceBelongs.image, belongs.addressing, sourceBelongs.addressing]

theorem Belongs.answers (belongs : registry.Belongs infos id) {template : LayoutEntry}
    {outcome : Outcome} (answers : registry.Answers template outcome) :
    outcome.registry.Belongs infos id := by
  refine belongs.of_shape answers.shape ?_
  obtain ⟨tiles, holds⟩ := belongs.holds
  cases answers with
  | filled snapshot swept => exact fill_holds template snapshot swept holds
  | setAside notice _ => exact ⟨tiles, holds⟩

theorem Belongs.importFrom (belongs : registry.Belongs infos id) (source : Registry) :
    (registry.importFrom source).registry.Belongs infos id := by
  refine belongs.of_shape (registry.importFrom_shape source) ?_
  obtain ⟨tiles, holds⟩ := belongs.holds
  by_cases compatible : registry.key = source.key
  · rw [importFrom_eq compatible]
    exact ⟨_, (importEntries_becomes holds _ _).holds⟩
  · rw [importFrom_of_ne compatible]
    exact ⟨tiles, holds⟩

theorem IsEdit.belongs {operation : Registry → Outcome} (isEdit : IsEdit operation)
    (belongs : registry.Belongs infos id) : (operation registry).registry.Belongs infos id := by
  cases isEdit with
  | look => exact belongs
  | setLayout => exact belongs.answers (fillSelector_answers _ _ _ _ _)
  | setInitial => exact belongs.answers (fillSelector_answers _ _ _ _ _)
  | setInitialFromView => exact belongs.answers (setInitialFromView_answers _ _ _ _)
  | importFrom source => exact belongs.importFrom source

theorem Belongs.emptyLike (belongs : source.Belongs infos id) (store : StoreId) :
    (source.emptyLike store).Belongs infos id :=
  belongs.of_shape ⟨rfl, rfl⟩ ⟨_, AdaptiveMap.holds_emptied source.layouts⟩

theorem belongs_empty (image : Image) (isKnown : image.info = infos image.id) (threshold : Nat)
    (store : StoreId) : (Registry.empty image threshold store).Belongs infos image.id :=
  ⟨rfl, congrArg ImageInfo.addressing isKnown, _, AdaptiveMap.holds_empty _ _⟩

/-- An import that is not refused reports copies that found no room, and nothing else. -/
theorem importFrom_accepted (belongs : registry.Belongs infos id)
    (sourceBelongs : source.Belongs infos id) :
    ∀ notice ∈ (registry.importFrom source).notices, ∃ error, notice = .notCopied error := by
  obtain ⟨tiles, holds⟩ := belongs.holds
  rw [importFrom_eq (belongs.key_eq sourceBelongs)]
  have becomes := importEntries_becomes holds source.snapshots (SpanMap.entries source.layouts)
  let Copies (importing : Importing) : Prop :=
    ∀ notice ∈ importing.notices, ∃ error, notice = Notice.notCopied error
  have copies : Copies (merged (SpanMap.limit registry.layouts) source.snapshots
      (SpanMap.entries source.layouts) tiles registry.snapshots).state := by
    refine Rewriting.splice_keeps Copies (fun entry _ => ?_) (show Copies _ from nofun)
    refine importer_keeps Copies (fun importing handle copies => ?_) entry.2
    have copied := Importing.copied_copy source.snapshots importing handle
    generalize importing.copy source.snapshots handle = reply at copied ⊢
    cases copied with
    | known => exact copies
    | absent => exact copies
    | issued => exact copies
    | refused error =>
      intro notice member
      rcases List.mem_append.mp member with earlier | isLast
      · exact copies notice earlier
      · exact ⟨error, List.mem_singleton.mp isLast⟩
  rw [← becomes.state] at copies
  exact copies

end Registry

namespace Recording

/-- The recordings that operations build up of images told apart by their identities, whether or not
snapshots find room. -/
def Built (infos : ImageId → ImageInfo) : Recording → Prop :=
  BuiltBy (fun image operation => image.info = infos image.id ∧ Registry.IsEdit operation)
    fun _ => True

variable {infos : ImageId → ImageInfo} {recording nested : Recording}

theorem imports_belongs : Imports (fun id registry => registry.Belongs infos id)
    fun _ => True where
  emptied _ _ store belongs := belongs.emptyLike store
  imported _ _ source belongs _ _ := belongs.importFrom source

theorem Built.isEach (built : recording.Built infos) :
    recording.Each fun id registry => registry.Belongs infos id :=
  BuiltBy.isEach built imports_belongs
    (fun image _ edits threshold store => Registry.belongs_empty image edits.1 threshold store)
    (fun _ _ edits _ belongs _ => edits.2.belongs belongs)

theorem Each.importOne_belongs
    (isEach : recording.Each fun id registry => registry.Belongs infos id) {id : ImageId}
    {source : Registry} (belongs : source.Belongs infos id) (stores : Counter) :
    (recording.importOne id source stores).recording.Each
      fun id registry => registry.Belongs infos id :=
  isEach.importOne imports_belongs belongs fun _ _ => trivial

/-! ## One registry after the other -/

theorem importOne_changed_iff (isEach : recording.Each fun id registry => registry.Belongs infos id)
    {id : ImageId} {source : Registry} (belongs : source.Belongs infos id) (stores : Counter) :
    (recording.importOne id source stores).changed = true ↔
      ∃ index, (recording.importOne id source stores).recording.known? id index ≠
        recording.known? id index := by
  obtain ⟨store, imports, flag, -⟩ :=
    recording.exists_edit id source.emptyLike (·.importFrom source) stores
  obtain ⟨sourceTiles, sourceHolds⟩ := belongs.holds
  have after (index : Nat) : (recording.importOne id source stores).recording.known? id index =
      (((recording.registry? id).getD (source.emptyLike store)).importFrom
        source).registry.known? index := by
    rw [known?, importOne, imports, registry?_put, if_pos rfl]
    rfl
  have before (index : Nat) : recording.known? id index =
      ((recording.registry? id).getD (source.emptyLike store)).known? index := by
    rw [known?]
    cases recording.registry? id with
    | some registry => rfl
    | none => exact (Registry.known?_of_gap (AdaptiveMap.holds_emptied source.layouts) index).symm
  simp only [after, before]
  rw [importOne, flag]
  obtain ⟨tiles, holds⟩ := (isEach.getD id (belongs.emptyLike store)).holds
  exact Registry.importFrom_changed_iff holds sourceHolds

theorem Each.importAll_accepted {sources : List (ImageId × Registry)}
    (belong : ∀ entry ∈ sources, entry.2.Belongs infos entry.1) {recording : Recording}
    (isEach : recording.Each fun id registry => registry.Belongs infos id) (stores : Counter) :
    ∀ notice ∈ (recording.importAll sources stores).notices, ∃ error, notice = .notCopied error := by
  induction sources generalizing recording stores with
  | nil => nofun
  | cons entry rest ih =>
    obtain ⟨id, source⟩ := entry
    obtain ⟨belongs, restBelong⟩ := List.forall_mem_cons.mp belong
    rw [importAll_cons]
    intro notice member
    rcases List.mem_append.mp member with now | later
    · obtain ⟨store, -, -, notices⟩ :=
        recording.exists_edit id source.emptyLike (·.importFrom source) stores
      rw [Recording.importOne, notices] at now
      have targetBelongs := isEach.getD id (Registry.Belongs.emptyLike belongs store)
      exact Registry.importFrom_accepted targetBelongs belongs notice now
    · exact ih restBelong (isEach.importOne_belongs belongs stores) _ notice later

/-- An execution changes something if and only if it changes an entry at some index of an image. -/
theorem Each.importAll_changed_iff {sources : List (ImageId × Registry)}
    (distinct : (sources.map (·.1)).Nodup)
    (belong : ∀ entry ∈ sources, entry.2.Belongs infos entry.1) {recording : Recording}
    (isEach : recording.Each fun id registry => registry.Belongs infos id) (stores : Counter) :
    (recording.importAll sources stores).changed = true ↔
      ∃ image index, (recording.importAll sources stores).recording.known? image index ≠
        recording.known? image index := by
  induction sources generalizing recording stores with
  | nil =>
    constructor
    · nofun
    · rintro ⟨image, index, differs⟩
      exact absurd rfl differs
  | cons entry rest ih =>
    obtain ⟨id, source⟩ := entry
    obtain ⟨belongs, restBelong⟩ := List.forall_mem_cons.mp belong
    obtain ⟨absent, distinctRest⟩ := List.nodup_cons.mp distinct
    have now := importOne_changed_iff isEach belongs stores
    have later := ih distinctRest restBelong (isEach.importOne_belongs belongs stores)
      (recording.importOne id source stores).stores
    rw [importAll_cons]
    have first (index : Nat) := known?_eq_of_registry?_eq
      (registry?_importAll_of_absent (lookup_eq_none_iff_not_mem.mpr absent)
        (recording.importOne id source stores).recording
        (recording.importOne id source stores).stores) index
    have others {image : ImageId} (differs : image ≠ id) (index : Nat) :=
      known?_eq_of_registry?_eq (registry?_importOne_of_ne differs recording source stores) index
    rw [Outcome.andThen, Bool.or_eq_true, now, later]
    constructor
    · rintro (⟨index, moved⟩ | ⟨image, index, moved⟩)
      · exact ⟨id, index, (first index).symm ▸ moved⟩
      · have differs : image ≠ id := by
          rintro rfl
          exact moved (first index)
        exact ⟨image, index, others differs index ▸ moved⟩
    · rintro ⟨image, index, moved⟩
      by_cases same : image = id
      · subst same
        exact .inl ⟨index, first index ▸ moved⟩
      · exact .inr ⟨image, index, (others same index).symm ▸ moved⟩

/-! ## Executions -/

/-- What an execution makes of a recording, whatever the order in which the registries of the other
come and the stores that are drawn. -/
structure Merges (infos : ImageId → ImageInfo) (primary secondary : Recording) (outcome : Outcome) :
    Prop where
  untold : ∀ image, secondary.registry? image = none →
    outcome.recording.registry? image = primary.registry? image
  both : ∀ image registry source, primary.registry? image = some registry →
    secondary.registry? image = some source →
    outcome.recording.registry? image = some (registry.importFrom source).registry
  made : ∀ image source, primary.registry? image = none →
    secondary.registry? image = some source →
    ∃ store registry, outcome.recording.registry? image = some registry ∧
      registry = ((source.emptyLike store).importFrom source).registry ∧
      registry.layouts.isFlat = source.layouts.isFlat
  carried : ∀ recording ∈ [primary, secondary, outcome.recording],
    recording.Each fun image registry =>
      registry.image = image ∧ registry.addressing = (infos image).addressing
  /-- No import is refused: at most a snapshot finds no room. -/
  accepted : ∀ notice ∈ outcome.notices, ∃ error, notice = .notCopied error
  changed : outcome.changed = true ↔
    ∃ image index, outcome.recording.known? image index ≠ primary.known? image index

/-- The outcomes differ by the stores of what was made for a new image, and in no other way. -/
structure SameButStores (primary : Recording) (left right : Outcome) : Prop where
  changed : right.changed = left.changed
  touched : ∀ image, (primary.registry? image).isSome = true →
    right.recording.registry? image = left.recording.registry? image
  made : ∀ image, primary.registry? image = none →
    Option.Rel Registry.SameButStore (left.recording.registry? image)
      (right.recording.registry? image)

variable {primary secondary : Recording} {order other : List (ImageId × Registry)}

theorem Built.carried (built : recording.Built infos) :
    recording.Each fun image registry =>
      registry.image = image ∧ registry.addressing = (infos image).addressing := by
  refine ⟨built.isEach.distinct, ?_⟩
  intro image registry found
  have belongs := built.isEach.each image registry found
  exact ⟨belongs.image, belongs.addressing⟩

theorem Built.merges (built : primary.Built infos) (secondaryBuilt : secondary.Built infos)
    (isOrder : order.Perm secondary.registries) (stores : Counter) :
    Merges infos primary secondary (primary.importAll order stores) := by
  have secondaryEach := secondaryBuilt.isEach
  have distinct : (order.map (·.1)).Nodup :=
    (isOrder.map (·.1)).nodup_iff.mpr secondaryEach.distinct
  have sameLookup (image : ImageId) : order.lookup image = secondary.registry? image :=
    lookup_eq_of_perm isOrder secondaryEach.distinct image
  refine ⟨?_, ?_, ?_, ?_, ?_, ?_⟩
  · intro image untold
    exact registry?_importAll_of_absent ((sameLookup image).trans untold) primary stores
  · intro image registry source isRegistry isSource
    obtain ⟨store, imports, -⟩ :=
      exists_registry?_importAll distinct ((sameLookup image).trans isSource) primary stores
    rw [isRegistry] at imports
    exact imports
  · intro image source untouched isSource
    obtain ⟨store, imports, -⟩ :=
      exists_registry?_importAll distinct ((sameLookup image).trans isSource) primary stores
    rw [untouched] at imports
    exact ⟨store, _, imports, rfl, Registry.importFrom_emptyLike_isFlat source store⟩
  · have after : (primary.importAll order stores).recording.Built infos :=
      .importAll stores built secondaryBuilt isOrder fun _ _ => trivial
    intro recording member
    rcases List.mem_cons.mp member with rfl | member
    · exact built.carried
    rcases List.mem_cons.mp member with rfl | member
    · exact secondaryBuilt.carried
    · exact List.mem_singleton.mp member ▸ after.carried
  · exact built.isEach.importAll_accepted (secondaryEach.mem isOrder) stores
  · exact built.isEach.importAll_changed_iff distinct (secondaryEach.mem isOrder) stores

theorem Merges.made_rel {left right : Outcome} (merges : Merges infos primary secondary left)
    (otherMerges : Merges infos primary secondary right) {image : ImageId}
    (untouched : primary.registry? image = none) :
    Option.Rel Registry.SameButStore (left.recording.registry? image)
      (right.recording.registry? image) := by
  cases told : secondary.registry? image with
  | none =>
    rw [merges.untold image told, otherMerges.untold image told, untouched]
    exact .none
  | some source =>
    obtain ⟨first, _, isLeft, rfl, -⟩ := merges.made image source untouched told
    obtain ⟨second, _, isRight, rfl, -⟩ := otherMerges.made image source untouched told
    rw [isLeft, isRight]
    exact .some (Registry.importFrom_emptyLike_sameButStore source first second)

theorem Merges.touched_eq {left right : Outcome} (merges : Merges infos primary secondary left)
    (otherMerges : Merges infos primary secondary right) {image : ImageId}
    (touched : (primary.registry? image).isSome = true) :
    right.recording.registry? image = left.recording.registry? image := by
  obtain ⟨registry, isRegistry⟩ := Option.isSome_iff_exists.mp touched
  cases told : secondary.registry? image with
  | none => rw [merges.untold image told, otherMerges.untold image told]
  | some source =>
    rw [merges.both image registry source isRegistry told,
      otherMerges.both image registry source isRegistry told]

/-- Whether an entry is new does not depend on the store that its snapshot is in. -/
theorem changed_of_sameButStores {left right : Recording} (built : left.Built infos)
    (otherBuilt : right.Built infos)
    (touched : ∀ image, (primary.registry? image).isSome = true →
      right.registry? image = left.registry? image)
    (made : ∀ image, primary.registry? image = none →
      Option.Rel Registry.SameButStore (left.registry? image) (right.registry? image))
    {image : ImageId} {index : Nat} (moved : left.known? image index ≠ primary.known? image index) :
    right.known? image index ≠ primary.known? image index := by
  cases isPrimary : primary.registry? image with
  | some registry =>
    have isTouched : (primary.registry? image).isSome = true := by
      rw [isPrimary]
      rfl
    rw [known?_eq_of_registry?_eq (touched image isTouched)]
    exact moved
  | none =>
    have unknown : primary.known? image index = none := by
      rw [known?, isPrimary]
      rfl
    have same := made image isPrimary
    have holds := built.isEach.each image
    have otherHolds := otherBuilt.isEach.each image
    rw [unknown] at moved ⊢
    intro lost
    refine moved ?_
    rw [known?] at lost ⊢
    generalize left.registry? image = registry at same holds ⊢
    generalize right.registry? image = other at same otherHolds lost
    cases same with
    | none => rfl
    | some same =>
      obtain ⟨tiles, holds⟩ := (holds _ rfl).holds
      obtain ⟨others, otherHolds⟩ := (otherHolds _ rfl).holds
      exact Option.map_eq_none_iff.mp ((same.known? holds otherHolds index).symm.trans lost)

theorem Built.sameButStores (built : primary.Built infos) (secondaryBuilt : secondary.Built infos)
    (isOrder : order.Perm secondary.registries) (stores : Counter)
    (otherIsOrder : other.Perm secondary.registries) (otherStores : Counter) :
    SameButStores primary (primary.importAll order stores) (primary.importAll other otherStores) := by
  have merges := built.merges secondaryBuilt isOrder stores
  have otherMerges := built.merges secondaryBuilt otherIsOrder otherStores
  have after : (primary.importAll order stores).recording.Built infos :=
    .importAll stores built secondaryBuilt isOrder fun _ _ => trivial
  have otherAfter : (primary.importAll other otherStores).recording.Built infos :=
    .importAll otherStores built secondaryBuilt otherIsOrder fun _ _ => trivial
  refine ⟨?_, fun image => merges.touched_eq otherMerges, fun image => merges.made_rel otherMerges⟩
  rw [Bool.eq_iff_iff, otherMerges.changed, merges.changed]
  constructor
  · rintro ⟨image, index, moved⟩
    exact ⟨image, index, changed_of_sameButStores otherAfter after
      (fun image => otherMerges.touched_eq merges) (fun image => otherMerges.made_rel merges) moved⟩
  · rintro ⟨image, index, moved⟩
    exact ⟨image, index, changed_of_sameButStores after otherAfter
      (fun image => merges.touched_eq otherMerges) (fun image => merges.made_rel otherMerges) moved⟩

/-! ## As long as there are identities -/

theorem importOne_succeeds (recording : Recording) (id : ImageId) (source : Registry)
    {stores : Counter} (enough : 0 < stores.left) :
    (recording.importOne id source stores).failure = none ∧
      stores.left ≤ (recording.importOne id source stores).stores.left + 1 := by
  have imports : ∀ registry : Registry, (registry.importFrom source).failure = none := by
    intro registry
    by_cases compatible : registry.key = source.key
    · rw [Registry.importFrom_eq compatible, Registry.importEntries]
    · rw [Registry.importFrom_of_ne compatible, Registry.setAside]
  unfold importOne edit obtain
  cases recording.registry? id with
  | some registry => exact ⟨imports registry, Nat.le_succ _⟩
  | none =>
    refine ⟨?_, (Counter.left_draw enough).ge⟩
    dsimp only
    rw [Counter.spent?_eq_none_iff.mpr enough, imports]
    rfl

/-- Each registry needs one identity at most. -/
theorem importAll_succeeds {sources : List (ImageId × Registry)} (recording : Recording)
    {stores : Counter} (enough : sources.length ≤ stores.left) :
    (recording.importAll sources stores).failure = none := by
  induction sources generalizing recording stores with
  | nil => rfl
  | cons entry rest ih =>
    obtain ⟨id, source⟩ := entry
    rw [List.length_cons] at enough
    obtain ⟨once, fewer⟩ := recording.importOne_succeeds id source (Nat.zero_lt_of_lt enough)
    rw [importAll_cons, Outcome.andThen, once, ih _ (by omega)]
    rfl

/-- Of all recordings the one that executes changes, and no other. The step fails if the execution
does. -/
theorem step_execute {session : Session} {number nested : Nat} (differ : number ≠ nested)
    (isPrimary : session.recordings[number]? = some primary)
    (isSecondary : session.recordings[nested]? = some secondary) :
    ∃ answer, session.step (.edit (.execute number nested)) =
        Session.settle (primary.execute secondary session.storeIds).failure answer ∧
      answer.session.recordings[number]? =
        some (primary.execute secondary session.storeIds).recording ∧
      answer.session.recordings[nested]? = some secondary := by
  obtain ⟨bound, -⟩ := List.getElem?_eq_some_iff.mp isPrimary
  have finds {position : Nat} {recording : Recording}
      (isThere : session.recordings[position]? = some recording) :
      Session.find session.recordings position = .ok recording := by
    rw [Session.find, isThere]
  let outcome := primary.execute secondary session.storeIds
  refine ⟨⟨.recordingWritten outcome.changed outcome.recording.report, outcome.notices,
    { session with
      recordings := session.recordings.set number outcome.recording
      storeIds := outcome.stores }⟩, ?_, ?_, ?_⟩
  · simp only [Session.step, Session.edit, Session.editRecording, finds isSecondary,
      finds isPrimary, bind, Except.bind]
    rfl
  · exact List.getElem?_set_self bound
  · exact (List.getElem?_set_ne differ).trans isSecondary

/-- However the registries of the executed recording come: the execution merges it image by image,
comes to the same up to the stores that it makes, and leaves the executed recording as it is. It does
not fail as long as there are identities for these stores. -/
theorem execute_merges (built : primary.Built infos) (secondaryBuilt : secondary.Built infos)
    (isOrder : order.Perm secondary.registries) (stores : Counter) :
    Merges infos primary secondary (primary.importAll order stores) ∧
      (∀ other otherStores, other.Perm secondary.registries →
        SameButStores primary (primary.importAll order stores)
          (primary.importAll other otherStores)) ∧
      (order.length ≤ stores.left → (primary.importAll order stores).failure = none) ∧
      ∀ (session : Session) (number nested : Nat), number ≠ nested →
        session.recordings[number]? = some primary → session.recordings[nested]? = some secondary →
        ∃ answer, session.step (.edit (.execute number nested)) =
            Session.settle (primary.execute secondary session.storeIds).failure answer ∧
          answer.session.recordings[number]? =
            some (primary.execute secondary session.storeIds).recording ∧
          answer.session.recordings[nested]? = some secondary := by
  refine ⟨built.merges secondaryBuilt isOrder stores, ?_, primary.importAll_succeeds, ?_⟩
  · intro other otherStores otherIsOrder
    exact built.sameButStores secondaryBuilt isOrder stores otherIsOrder otherStores
  · intro session number nested differ isPrimary isSecondary
    exact step_execute differ isPrimary isSecondary

/-- Two recordings share an image, and the second has touched two more, one of them without recording
anything. Its registries come in the opposite order. -/
theorem execute_merges_of_three_images :
    let image : Image := ⟨⟨1⟩, ⟨⟨3⟩, 2, 3, .undefined, none⟩, 0, by decide⟩
    let other : Image := ⟨⟨2⟩, ⟨⟨1⟩, 1, 1, .undefined, none⟩, 0, by decide⟩
    let third : Image := ⟨⟨3⟩, ⟨⟨1⟩, 1, 1, .undefined, none⟩, 0, by decide⟩
    let primary := (setLayout (.empty ⟨⟨1⟩, none⟩ 16) image ⟨⟨1⟩, 0, 1, 0, 2⟩ .general none
      ⟨1⟩).recording
    let secondary := (touch (setLayout (setLayout (.empty ⟨⟨2⟩, none⟩ 1) image ⟨⟨1⟩, 0, 2, 1, 1⟩
      .presentSrc none ⟨2⟩).recording other (.all ⟨1⟩) .general none ⟨3⟩).recording third ⟨4⟩).recording
    let infos : ImageId → ImageInfo := fun id => if id = image.id then image.info else other.info
    let session : Session := { Session.empty with recordings := [primary, secondary] }
    Merges infos primary secondary (primary.importAll secondary.registries.reverse ⟨5⟩) ∧
      SameButStores primary (primary.importAll secondary.registries.reverse ⟨5⟩)
        (primary.execute secondary ⟨9⟩) ∧
      (primary.importAll secondary.registries.reverse ⟨5⟩).failure = none ∧
      ∃ answer, session.step (.edit (.execute 0 1)) = .ok answer ∧
        answer.session.recordings[0]? =
          some (primary.execute secondary session.storeIds).recording ∧
        answer.session.recordings[1]? = some secondary := by
  intro image other third primary secondary infos session
  have edited {recording : Recording} (stores : Counter) (built : recording.Built infos)
      {image : Image} {operation : Registry → Registry.Outcome}
      (isKnown : image.info = infos image.id) (isEdit : Registry.IsEdit operation) :
      (recording.editImage image operation stores).recording.Built infos :=
    .editImage stores built ⟨isKnown, isEdit⟩ fun _ _ => trivial
  have built : primary.Built infos := edited ⟨1⟩ (.empty _ 16) rfl (.setLayout _ _ .general none)
  have secondaryBuilt : secondary.Built infos := by
    refine edited ⟨4⟩ (edited ⟨3⟩ (edited ⟨2⟩ (.empty _ 1) rfl ?_) rfl ?_) rfl .look
    · exact .setLayout _ _ .presentSrc none
    · exact .setLayout _ _ .general none
  have three : secondary.registries.length = 3 := rfl
  obtain ⟨merges, same, succeeds, others⟩ :=
    execute_merges built secondaryBuilt (List.reverse_perm secondary.registries) ⟨5⟩
  have enough : secondary.registries.length ≤ session.storeIds.left := by
    rw [three]
    decide
  obtain ⟨answer, stepped, kept⟩ := others session 0 1 (by decide) rfl rfl
  rw [execute, primary.importAll_succeeds enough] at stepped
  refine ⟨merges, same _ ⟨9⟩ (.refl _), succeeds ?_, answer, stepped, kept⟩
  rw [List.length_reverse, three]
  decide

end Recording

end LayoutTracking
