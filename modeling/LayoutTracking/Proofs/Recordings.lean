import LayoutTracking.Layout.Recording
import LayoutTracking.Proofs.Registries
import Mathlib.Data.List.Nodup

/-!
# Reachable recordings

A recording has at most one registry for an image, and each is a registry of just that image, as far
as no two images share an identity. An execution imports registries under their images, one after
the other, and every such step keeps to this.
-/

set_option autoImplicit false

namespace LayoutTracking

/-! ## Lists of registries -/

theorem lookup_eq_some_iff_mem {K V : Type} [DecidableEq K] {entries : List (K × V)}
    (distinct : (entries.map (·.1)).Nodup) {key : K} {value : V} :
    entries.lookup key = some value ↔ (key, value) ∈ entries := by
  induction entries with
  | nil => simp
  | cons entry rest ih =>
    obtain ⟨absent, distinctRest⟩ := List.nodup_cons.mp distinct
    obtain ⟨first, held⟩ := entry
    by_cases same : key = first
    · subst same
      have notLater : (key, value) ∉ rest := fun later =>
        absent (List.mem_map_of_mem (f := (·.1)) later)
      simp [notLater, eq_comm]
    · rw [List.lookup_cons, beq_false_of_ne same, List.mem_cons, ih distinctRest]
      simp [same]

theorem lookup_eq_none_iff_not_mem {K V : Type} [DecidableEq K] {entries : List (K × V)} {key : K} :
    entries.lookup key = none ↔ key ∉ entries.map (·.1) := by
  rw [List.lookup_eq_none_iff, List.mem_map]
  constructor
  · rintro apart ⟨entry, within, rfl⟩
    exact absurd (apart entry within) (by simp)
  · intro absent entry within
    exact bne_iff_ne.mpr fun same => absent ⟨entry, within, same.symm⟩

theorem lookup_eq_of_perm {K V : Type} [DecidableEq K] {entries others : List (K × V)}
    (perm : entries.Perm others) (distinct : (others.map (·.1)).Nodup) (key : K) :
    entries.lookup key = others.lookup key := by
  have entriesDistinct : (entries.map (·.1)).Nodup := (perm.map _).nodup_iff.mpr distinct
  refine Option.ext fun value => ?_
  rw [lookup_eq_some_iff_mem entriesDistinct, lookup_eq_some_iff_mem distinct, perm.mem_iff]

theorem lookup_map_replace {K V : Type} [DecidableEq K] (entries : List (K × V)) (key : K)
    (value : V) (other : K) :
    (entries.map fun entry => if entry.1 = key then (key, value) else entry).lookup other =
      if other = key then (entries.lookup key).map fun _ => value else entries.lookup other := by
  induction entries with
  | nil => simp
  | cons entry rest ih =>
    obtain ⟨first, held⟩ := entry
    by_cases replaced : first = key
    · subst replaced
      by_cases same : other = first
      · simp [same]
      · simp [List.lookup_cons, beq_false_of_ne same, same, ih]
    · by_cases same : other = first
      · subst same
        simp [replaced]
      · by_cases asked : other = key
        · subst asked
          simp [List.lookup_cons, replaced, beq_false_of_ne same, ih]
        · simp [List.lookup_cons, replaced, beq_false_of_ne same, ih, asked]

namespace Registry

/-! ## Registries of one image -/

/-- A registry of the image that the identity stands for. -/
structure Tracks (registry : Registry) (infos : ImageId → ImageInfo) (id : ImageId) : Prop where
  reachable : registry.Reachable
  image : registry.image = id
  addressing : registry.addressing = (infos id).addressing

/-- What can be done to a registry of a recording. -/
inductive IsOperation : (Registry → Outcome) → Prop where
  | look : IsOperation fun registry => ⟨registry, false, [], none⟩
  | setLayout (recorder : Recorder) (selector : Selector) (layout : ImageLayout)
      (expected : Option ImageLayout) :
      IsOperation (·.setLayout recorder selector layout expected)
  | setInitial (recorder : Recorder) (selector : Selector) (layout : ImageLayout) :
      IsOperation (·.setInitial recorder selector layout)
  | setInitialFromView (recorder : Recorder) (layout : ImageLayout) (view : View) :
      IsOperation (·.setInitialFromView recorder layout view)
  | importFrom {source : Registry} : source.Reachable → IsOperation (·.importFrom source)

variable {infos : ImageId → ImageInfo} {image : ImageId} {registry source : Registry}

/-- The later registry is of the same image, addressed in the same way. -/
def SameShape (earlier later : Registry) : Prop :=
  later.image = earlier.image ∧ later.addressing = earlier.addressing

theorem fill_shape (registry : Registry) (template : LayoutEntry) (snapshot : Snapshot)
    (swept : Swept) :
    registry.SameShape (registry.fill template snapshot swept).registry := ⟨rfl, rfl⟩

theorem Answers.shape {template : LayoutEntry} {outcome : Outcome}
    (answers : registry.Answers template outcome) : registry.SameShape outcome.registry := by
  cases answers with
  | filled snapshot swept => exact registry.fill_shape template snapshot swept
  | setAside notice _ => exact ⟨rfl, rfl⟩

theorem importFrom_shape (registry source : Registry) :
    registry.SameShape (registry.importFrom source).registry := by
  unfold importFrom
  by_cases compatible : registry.key = source.key
  · rw [if_pos compatible]
    exact ⟨rfl, rfl⟩
  · rw [if_neg compatible]
    exact ⟨rfl, rfl⟩

theorem Tracks.of_shape (tracks : registry.Tracks infos image) {after : Registry}
    (reachable : after.Reachable)
    (shape : registry.SameShape after) :
    after.Tracks infos image :=
  ⟨reachable, shape.1.trans tracks.image, shape.2.trans tracks.addressing⟩

theorem IsOperation.tracks {operation : Registry → Outcome} (isOperation : IsOperation operation)
    (tracks : registry.Tracks infos image) (room : (operation registry).FoundRoom) :
    (operation registry).registry.Tracks infos image := by
  cases isOperation with
  | look => exact tracks
  | setLayout recorder selector layout expected =>
    exact tracks.of_shape (.setLayout _ _ _ _ tracks.reachable room)
      (fillSelector_answers _ _ _ _ _).shape
  | setInitial recorder selector layout =>
    exact tracks.of_shape (.setInitial _ _ _ tracks.reachable room)
      (fillSelector_answers _ _ _ _ _).shape
  | setInitialFromView recorder layout view =>
    exact tracks.of_shape (.setInitialFromView _ _ _ tracks.reachable room)
      (setInitialFromView_answers _ _ _ _).shape
  | importFrom sourceReachable =>
    exact tracks.of_shape (.importFrom tracks.reachable sourceReachable room)
      (registry.importFrom_shape _)

theorem Tracks.emptyLike (tracks : source.Tracks infos image) (store : StoreId) :
    (source.emptyLike store).Tracks infos image :=
  tracks.of_shape (.emptyLike store tracks.reachable) ⟨rfl, rfl⟩

theorem tracks_empty (image : Image) (isKnown : image.info = infos image.id) (threshold : Nat)
    (store : StoreId) : (Registry.empty image threshold store).Tracks infos image.id :=
  ⟨.empty image threshold store, rfl, congrArg ImageInfo.addressing isKnown⟩

theorem Tracks.key_eq (tracks : registry.Tracks infos image)
    (sourceTracks : source.Tracks infos image) : registry.key = source.key := by
  rw [key, key, tracks.image, sourceTracks.image, tracks.addressing, sourceTracks.addressing]

end Registry

namespace Recording

def Outcome.FoundRoom (outcome : Outcome) : Prop :=
  ∀ notice ∈ outcome.notices, notice.severity ≠ .error

variable {recording nested : Recording} {image : ImageId}

/-! ## Changing one registry -/

theorem registry?_put (recording : Recording) (image : ImageId) (registry : Registry)
    (other : ImageId) :
    Recording.registry? (recording.put image registry) other =
      if other = image then some registry else recording.registry? other := by
  unfold put registry?
  cases found : recording.registries.lookup image with
  | some held =>
    simp only [Option.isSome_some, ↓reduceIte]
    rw [lookup_map_replace, found, Option.map_some]
  | none =>
    simp only [Option.isSome_none, Bool.false_eq_true, ↓reduceIte]
    rw [List.lookup_append]
    by_cases same : other = image
    · subst same
      simp [found]
    · simp [List.lookup_cons, beq_false_of_ne same, same]

theorem exists_edit (recording : Recording) (id : ImageId) (make : StoreId → Registry)
    (operation : Registry → Registry.Outcome) (stores : Counter) :
    ∃ store,
      let outcome := operation ((recording.registry? id).getD (make store))
      (recording.edit id make operation stores).recording = recording.put id outcome.registry ∧
        (recording.edit id make operation stores).changed = outcome.changed ∧
        (recording.edit id make operation stores).notices = outcome.notices := by
  unfold edit obtain
  cases recording.registry? id with
  | some registry => exact ⟨⟨0⟩, rfl, rfl, rfl⟩
  | none => exact ⟨_, rfl, rfl, rfl⟩

/-! ## Importing registries one after the other -/

/-- The outcome of a run that goes on where an earlier one left off. -/
def Outcome.andThen (earlier later : Outcome) : Outcome :=
  { later with
    changed := earlier.changed || later.changed
    notices := earlier.notices ++ later.notices
    failure := earlier.failure <|> later.failure }

theorem Outcome.andThen_assoc (first second third : Outcome) :
    (first.andThen second).andThen third = first.andThen (second.andThen third) := by
  simp only [andThen, Bool.or_assoc, List.append_assoc]
  cases first.failure <;> rfl

theorem Outcome.FoundRoom.of_andThen {earlier later : Outcome}
    (room : (earlier.andThen later).FoundRoom) : earlier.FoundRoom ∧ later.FoundRoom :=
  ⟨fun notice member => room notice (List.mem_append_left _ member),
    fun notice member => room notice (List.mem_append_right _ member)⟩

/-- Imports one registry under its image. -/
def importOne (recording : Recording) (id : ImageId) (source : Registry) (stores : Counter) :
    Outcome :=
  recording.edit id source.emptyLike (·.importFrom source) stores

theorem foldl_importOne (sources : List (ImageId × Registry)) (outcome : Outcome) :
    sources.foldl
        (fun outcome (id, source) =>
          outcome.andThen (outcome.recording.importOne id source outcome.stores))
        outcome =
      outcome.andThen (outcome.recording.importAll sources outcome.stores) := by
  induction sources generalizing outcome with
  | nil => simp [importAll, Outcome.andThen]
  | cons entry rest ih =>
    obtain ⟨id, source⟩ := entry
    let first := outcome.recording.importOne id source outcome.stores
    have begun : outcome.recording.importAll ((id, source) :: rest) outcome.stores =
        first.andThen (first.recording.importAll rest first.stores) :=
      ih (Outcome.andThen ⟨outcome.recording, outcome.stores, false, [], none⟩ first)
    rw [List.foldl_cons, ih, begun, ← Outcome.andThen_assoc]
    rfl

theorem importAll_cons (recording : Recording) (id : ImageId) (source : Registry)
    (rest : List (ImageId × Registry)) (stores : Counter) :
    recording.importAll ((id, source) :: rest) stores =
      (recording.importOne id source stores).andThen
        ((recording.importOne id source stores).recording.importAll rest
          (recording.importOne id source stores).stores) :=
  foldl_importOne rest (recording.importOne id source stores)

/-! ## What an import leaves of an image -/

theorem registry?_importOne_of_ne {id image : ImageId} (differs : image ≠ id) (recording : Recording)
    (source : Registry) (stores : Counter) :
    (recording.importOne id source stores).recording.registry? image =
      recording.registry? image := by
  obtain ⟨store, imports, -, -⟩ :=
    recording.exists_edit id source.emptyLike (·.importFrom source) stores
  rw [importOne, imports, registry?_put, if_neg differs]

theorem registry?_importAll_of_absent {sources : List (ImageId × Registry)} {image : ImageId}
    (absent : sources.lookup image = none) (recording : Recording) (stores : Counter) :
    (recording.importAll sources stores).recording.registry? image =
      recording.registry? image := by
  induction sources generalizing recording stores with
  | nil => rfl
  | cons entry rest ih =>
    obtain ⟨id, source⟩ := entry
    have apart : image ∉ id :: rest.map (·.1) := lookup_eq_none_iff_not_mem.mp absent
    have differs : image ≠ id := fun same => apart (same ▸ List.mem_cons_self)
    have later : image ∉ rest.map (·.1) := fun within => apart (List.mem_cons_of_mem id within)
    rw [importAll_cons]
    exact (ih (lookup_eq_none_iff_not_mem.mpr later) _ _).trans
      (registry?_importOne_of_ne differs recording source stores)

/-- No image comes twice, so each registry is imported into what the recording had of the image from
the beginning. -/
theorem exists_registry?_importAll {sources : List (ImageId × Registry)}
    (distinct : (sources.map (·.1)).Nodup) {image : ImageId} {source : Registry}
    (isSource : sources.lookup image = some source) (recording : Recording) (stores : Counter) :
    ∃ store,
      let outcome := ((recording.registry? image).getD (source.emptyLike store)).importFrom source
      (recording.importAll sources stores).recording.registry? image = some outcome.registry ∧
        ∀ notice ∈ outcome.notices, notice ∈ (recording.importAll sources stores).notices := by
  induction sources generalizing recording stores with
  | nil => cases isSource
  | cons entry rest ih =>
    obtain ⟨id, held⟩ := entry
    obtain ⟨absent, distinctRest⟩ := List.nodup_cons.mp distinct
    rw [importAll_cons]
    by_cases same : image = id
    · subst same
      obtain rfl : held = source := Option.some.inj ((List.lookup_cons_self).symm.trans isSource)
      obtain ⟨store, imports, -, notices⟩ :=
        recording.exists_edit image held.emptyLike (·.importFrom held) stores
      refine ⟨store, ?_, ?_⟩
      · refine (registry?_importAll_of_absent (lookup_eq_none_iff_not_mem.mpr absent) _ _).trans ?_
        rw [importOne, imports, registry?_put, if_pos rfl]
      · intro notice member
        exact List.mem_append_left _ (notices ▸ member)
    · rw [List.lookup_cons, beq_false_of_ne same] at isSource
      obtain ⟨store, imports, told⟩ := ih distinctRest isSource
        (recording.importOne id held stores).recording (recording.importOne id held stores).stores
      rw [registry?_importOne_of_ne same] at imports told
      exact ⟨store, imports, fun notice member => List.mem_append_right _ (told notice member)⟩

/-! ## One registry for each image -/

/-- The recording has one registry at most for each image, and that is one of those of the image. -/
structure Each (recording : Recording) (Of : ImageId → Registry → Prop) : Prop where
  distinct : (recording.registries.map (·.1)).Nodup
  each : ∀ id registry, recording.registry? id = some registry → Of id registry

variable {Of : ImageId → Registry → Prop} {Mild : Notice → Prop}

theorem Each.put (isEach : recording.Each Of) {id : ImageId} {registry : Registry}
    (isOf : Of id registry) : (recording.put id registry).Each Of := by
  refine ⟨?_, ?_⟩
  · unfold Recording.put
    cases found : recording.registry? id with
    | some held =>
      have sameKeys : (recording.registries.map fun entry =>
          if entry.1 = id then (id, registry) else entry).map (·.1) =
            recording.registries.map (·.1) := by
        rw [List.map_map]
        refine List.map_congr_left fun entry _ => ?_
        by_cases same : entry.1 = id
        · simp [same]
        · simp [same]
      simp only [Option.isSome_some, ↓reduceIte, sameKeys]
      exact isEach.distinct
    | none =>
      simp only [Option.isSome_none, Bool.false_eq_true, ↓reduceIte, List.map_append]
      refine List.nodup_append.mpr ⟨isEach.distinct, List.nodup_singleton _, ?_⟩
      intro other member added isAdded same
      obtain rfl := List.mem_singleton.mp isAdded
      exact lookup_eq_none_iff_not_mem.mp found (same ▸ member)
  · intro other held found
    rw [registry?_put] at found
    by_cases same : other = id
    · rw [if_pos same] at found
      obtain rfl := Option.some.inj found
      exact same ▸ isOf
    · rw [if_neg same] at found
      exact isEach.each other held found

/-- The registry that an operation on an image begins with: the one there is, or a new one. -/
theorem Each.getD (isEach : recording.Each Of) (id : ImageId) {made : Registry} (isOf : Of id made) :
    Of id ((recording.registry? id).getD made) := by
  cases found : recording.registry? id with
  | none => exact isOf
  | some registry => exact isEach.each id registry found

/-- An operation on the registry of an image, or on a new one that is made for it. -/
theorem Each.edit (isEach : recording.Each Of) {id : ImageId} {make : StoreId → Registry}
    {operation : Registry → Registry.Outcome} {stores : Counter} (made : ∀ store, Of id (make store))
    (edited : ∀ registry, Of id registry → (∀ notice ∈ (operation registry).notices, Mild notice) →
      Of id (operation registry).registry)
    (mild : ∀ notice ∈ (recording.edit id make operation stores).notices, Mild notice) :
    (recording.edit id make operation stores).recording.Each Of := by
  obtain ⟨store, edits, -, notices⟩ := recording.exists_edit id make operation stores
  rw [notices] at mild
  rw [edits]
  exact isEach.put (edited _ (isEach.getD id (made store)) mild)

theorem Each.mem (isEach : nested.Each Of) {sources : List (ImageId × Registry)}
    (order : sources.Perm nested.registries) : ∀ entry ∈ sources, Of entry.1 entry.2 := by
  intro entry member
  refine isEach.each entry.1 entry.2 ?_
  exact (lookup_eq_some_iff_mem isEach.distinct).mpr (order.mem_iff.mp member)

theorem each_of_nil (blank : recording.registries = []) : recording.Each Of := by
  refine ⟨by simp [blank], ?_⟩
  intro id registry found
  unfold registry? at found
  rw [blank] at found
  cases found

/-- The registries of each image take in one another, as long as what that leaves is mild. -/
structure Imports (Of : ImageId → Registry → Prop) (Mild : Notice → Prop) : Prop where
  emptied : ∀ id source store, Of id source → Of id (source.emptyLike store)
  imported : ∀ id registry source, Of id registry → Of id source →
    (∀ notice ∈ (registry.importFrom source).notices, Mild notice) →
    Of id (registry.importFrom source).registry

theorem Each.importOne (isEach : recording.Each Of) (imports : Imports Of Mild) {id : ImageId}
    {source : Registry} (isOf : Of id source) {stores : Counter}
    (mild : ∀ notice ∈ (recording.importOne id source stores).notices, Mild notice) :
    (recording.importOne id source stores).recording.Each Of :=
  isEach.edit (fun store => imports.emptied id source store isOf)
    (fun registry held => imports.imported id registry source held isOf) mild

theorem Each.importAll (imports : Imports Of Mild) {sources : List (ImageId × Registry)}
    (isOf : ∀ entry ∈ sources, Of entry.1 entry.2) {recording : Recording} {stores : Counter}
    (isEach : recording.Each Of)
    (mild : ∀ notice ∈ (recording.importAll sources stores).notices, Mild notice) :
    (recording.importAll sources stores).recording.Each Of := by
  induction sources generalizing recording stores with
  | nil => exact isEach
  | cons entry rest ih =>
    obtain ⟨id, source⟩ := entry
    obtain ⟨now, later⟩ := List.forall_mem_cons.mp isOf
    rw [importAll_cons] at mild ⊢
    refine ih later (isEach.importOne imports now ?_) ?_
    · exact fun notice member => mild notice (List.mem_append_left _ member)
    · exact fun notice member => mild notice (List.mem_append_right _ member)

/-- The recordings that edits of some kind and executions of one another build up, as long as what is
reported on the way is mild. -/
inductive BuiltBy (Edits : Image → (Registry → Registry.Outcome) → Prop) (Mild : Notice → Prop) :
    Recording → Prop where
  | empty (recorder : Recorder) (threshold : Nat) : BuiltBy Edits Mild (.empty recorder threshold)
  | editImage {recording : Recording} {image : Image} {operation : Registry → Registry.Outcome}
      (stores : Counter) :
      BuiltBy Edits Mild recording → Edits image operation →
      (∀ notice ∈ (recording.editImage image operation stores).notices, Mild notice) →
      BuiltBy Edits Mild (recording.editImage image operation stores).recording
  | importAll {recording nested : Recording} {sources : List (ImageId × Registry)}
      (stores : Counter) :
      BuiltBy Edits Mild recording → BuiltBy Edits Mild nested → sources.Perm nested.registries →
      (∀ notice ∈ (recording.importAll sources stores).notices, Mild notice) →
      BuiltBy Edits Mild (recording.importAll sources stores).recording
  | reset {recording : Recording} :
      BuiltBy Edits Mild recording → BuiltBy Edits Mild recording.reset

theorem BuiltBy.isEach {Edits : Image → (Registry → Registry.Outcome) → Prop}
    (built : recording.BuiltBy Edits Mild) (imports : Imports Of Mild)
    (made : ∀ image operation, Edits image operation → ∀ threshold store,
      Of image.id (.empty image threshold store))
    (edited : ∀ image operation, Edits image operation → ∀ registry, Of image.id registry →
      (∀ notice ∈ (operation registry).notices, Mild notice) →
      Of image.id (operation registry).registry) : recording.Each Of := by
  induction built with
  | empty recorder threshold => exact each_of_nil rfl
  | editImage stores _ edits mild ih =>
    exact ih.edit (made _ _ edits _) (edited _ _ edits) mild
  | importAll stores _ _ order mild ih nestedIH =>
    exact ih.importAll imports (nestedIH.mem order) mild
  | reset _ _ => exact each_of_nil rfl

/-! ## Entries of a recording -/

/-- The entry at an index of an image, if the recording has touched it. -/
def known? (recording : Recording) (image : ImageId) (index : Nat) : Option LayoutEntry :=
  (recording.registry? image).bind (·.known? index)

theorem known?_eq_of_registry?_eq {left right : Recording} {image : ImageId}
    (same : left.registry? image = right.registry? image) (index : Nat) :
    left.known? image index = right.known? image index := by
  rw [known?, known?, same]

/-! ## Recordings of known images -/

/-- The recording has one registry at most for each image, and that is one of the image. -/
structure Sound (recording : Recording) (infos : ImageId → ImageInfo) : Prop where
  distinct : (recording.registries.map (·.1)).Nodup
  tracks : ∀ id registry, recording.registry? id = some registry → registry.Tracks infos id

/-- The recordings that operations build up of images told apart by their identities, each snapshot
finding room. -/
inductive Reachable (infos : ImageId → ImageInfo) : Recording → Prop where
  | empty (recorder : Recorder) (threshold : Nat) : Reachable infos (.empty recorder threshold)
  | editImage {recording : Recording} {image : Image} {operation : Registry → Registry.Outcome}
      (stores : Counter) :
      Reachable infos recording → image.info = infos image.id →
      Registry.IsOperation operation → (recording.editImage image operation stores).FoundRoom →
      Reachable infos (recording.editImage image operation stores).recording
  | importAll {recording nested : Recording} {sources : List (ImageId × Registry)}
      (stores : Counter) :
      Reachable infos recording → Reachable infos nested → sources.Perm nested.registries →
      (recording.importAll sources stores).FoundRoom →
      Reachable infos (recording.importAll sources stores).recording
  | reset {recording : Recording} : Reachable infos recording → Reachable infos recording.reset

variable {infos : ImageId → ImageInfo} {recording nested : Recording}

theorem Sound.isEach (sound : recording.Sound infos) :
    recording.Each fun id registry => registry.Tracks infos id := ⟨sound.distinct, sound.tracks⟩

theorem Each.sound (isEach : recording.Each fun id registry => registry.Tracks infos id) :
    recording.Sound infos := ⟨isEach.distinct, isEach.each⟩

theorem imports_tracked : Imports (fun id registry => registry.Tracks infos id)
    fun notice => notice.severity ≠ .error where
  emptied _ _ store tracks := tracks.emptyLike store
  imported _ _ _ tracks sourceTracks room :=
    (Registry.IsOperation.importFrom sourceTracks.reachable).tracks tracks room

theorem Sound.importOne (sound : recording.Sound infos) {id : ImageId} {source : Registry}
    (tracks : source.Tracks infos id) {stores : Counter}
    (room : (recording.importOne id source stores).FoundRoom) :
    (recording.importOne id source stores).recording.Sound infos :=
  (sound.isEach.importOne imports_tracked tracks room).sound

theorem Reachable.sound (reachable : recording.Reachable infos) : recording.Sound infos := by
  induction reachable with
  | empty recorder threshold => exact (each_of_nil rfl).sound
  | editImage stores _ isKnown isOperation room ih =>
    exact (ih.isEach.edit (Registry.tracks_empty _ isKnown _)
      (fun _ => isOperation.tracks) room).sound
  | importAll stores _ _ order room ih nestedIH =>
    exact (ih.isEach.importAll imports_tracked (nestedIH.isEach.mem order) room).sound
  | reset _ _ => exact (each_of_nil rfl).sound

theorem Sound.tracked (sound : nested.Sound infos) {sources : List (ImageId × Registry)}
    (order : sources.Perm nested.registries) :
    ∀ entry ∈ sources, entry.2.Tracks infos entry.1 := sound.isEach.mem order

end Recording

end LayoutTracking
