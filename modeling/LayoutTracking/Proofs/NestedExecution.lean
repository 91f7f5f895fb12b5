import LayoutTracking.Proofs.ImportUnion
import LayoutTracking.Proofs.Recordings

/-!
# Nested execution

What a recording knows of a subresource does not depend on the store that holds its snapshots, nor
on the spans that its entries are stored over. Seen so, an execution joins what two recordings know,
image by image and subresource by subresource, and it does not matter in which order a nesting of
recordings is executed.
-/

set_option autoImplicit false

namespace LayoutTracking

/-! ## Knowledge -/

/-- What is known of one subresource, with the snapshot itself in the place of its handle. -/
structure Standing where
  initial : Option ImageLayout
  current : Option ImageLayout
  snapshot : Option Snapshot
deriving DecidableEq

/-- What was settled first stays, and the last current layout that was recorded holds. -/
def Standing.join (base next : Standing) : Standing :=
  { base with current := next.current <|> base.current }

instance : Std.Associative Standing.join where
  assoc base next last := by
    simp only [Standing.join, Option.orElse_eq_orElse, Option.orElse_eq_or, Option.or_assoc]

/-- What is known of each subresource of an image. -/
def Knowledge : Type := Nat → Option Standing

def Knowledge.join (base next : Knowledge) : Knowledge :=
  fun index => (base index).merge Standing.join (next index)

instance : Std.Associative Knowledge.join where
  assoc base _ _ := funext fun index => Std.Associative.assoc (base index) _ _

namespace Registry

def standing (registry : Registry) (entry : LayoutEntry) : Standing :=
  ⟨entry.initial, entry.current, entry.snapshot.bind registry.snapshots.get?⟩

def knowledge (registry : Registry) : Knowledge :=
  fun index => (registry.known? index).map registry.standing

variable {registry source : Registry} {infos : ImageId → ImageInfo} {id : ImageId}

/-- A store that grows resolves the handles of the entries there are as before. -/
theorem Sound.standing_extend (sound : registry.Sound) {after : Registry}
    (kept : after.snapshots.Extends registry.snapshots) {index : Nat} {entry : LayoutEntry}
    (known : registry.known? index = some entry) :
    after.standing entry = registry.standing entry := by
  have resolved : entry.snapshot.bind after.snapshots.get? =
      entry.snapshot.bind registry.snapshots.get? := by
    cases named : entry.snapshot with
    | none => rfl
    | some handle =>
      obtain ⟨snapshot, found⟩ :=
        Option.isSome_iff_exists.mp (sound.resolves index entry known handle named)
      rw [Option.bind_some, Option.bind_some, found, kept.get? found]
  rw [standing, standing, resolved]

theorem knowledge_emptyLike (registry : Registry) (store : StoreId) :
    (registry.emptyLike store).knowledge = fun _ => none := by
  funext index
  rw [knowledge, known?_of_gap (AdaptiveMap.holds_emptied _) index]
  rfl

theorem Tracks.knowledge_importFrom (tracks : registry.Tracks infos id)
    (sourceTracks : source.Tracks infos id) (room : (registry.importFrom source).FoundRoom) :
    (registry.importFrom source).registry.knowledge =
      registry.knowledge.join source.knowledge := by
  have sound := tracks.reachable.sound
  have sourceSound := sourceTracks.reachable.sound
  obtain ⟨copyOf, imported⟩ :=
    sound.importFrom_imported sourceSound (tracks.key_eq sourceTracks) room
  have union := imported.union sound sourceSound
  funext index
  unfold Knowledge.join knowledge
  by_cases bound : index < registry.addressing.count
  · cases told : source.known? index with
    | none =>
      rw [union.untold index bound told]
      cases known : registry.known? index with
      | none => rfl
      | some existing => exact congrArg some (sound.standing_extend union.kept known)
    | some entry =>
      cases known : registry.known? index with
      | none =>
        obtain ⟨original, copy, snapshot, isOriginal, value, -, copied, resolved⟩ :=
          union.taken index bound entry told known
        rw [value]
        simp [standing, isOriginal, copied, resolved]
      | some existing =>
        rw [union.merged index bound entry existing told known]
        exact congrArg (fun standing => some { standing with
          current := entry.current <|> existing.current }) (sound.standing_extend union.kept known)
  · have beyond := Nat.le_of_not_lt bound
    have afterSound := sound.importFrom sourceSound room
    rw [sound.known?_eq_none beyond,
      sourceSound.known?_eq_none (sourceTracks.addressing ▸ tracks.addressing ▸ beyond),
      afterSound.known?_eq_none (imported.addressing.symm ▸ beyond)]
    rfl

end Registry

namespace Recording

/-- What the recording knows of an image, if it has touched the image at all. -/
def knowledge? (recording : Recording) (image : ImageId) : Option Knowledge :=
  (recording.registry? image).map Registry.knowledge

variable {infos : ImageId → ImageInfo} {recording nested : Recording}

theorem Sound.knowledge?_importOne (sound : recording.Sound infos) {id : ImageId}
    {source : Registry} (tracks : source.Tracks infos id) {stores : Counter}
    (room : (recording.importOne id source stores).FoundRoom) (image : ImageId) :
    (recording.importOne id source stores).recording.knowledge? image =
      if image = id then (recording.knowledge? id).merge Knowledge.join (some source.knowledge)
      else recording.knowledge? image := by
  unfold Recording.importOne at room ⊢
  obtain ⟨store, changed, -, notices⟩ :=
    recording.exists_edit id source.emptyLike (·.importFrom source) stores
  rw [Outcome.FoundRoom, notices] at room
  rw [changed, knowledge?, registry?_put]
  by_cases same : image = id
  · rw [if_pos same, if_pos same, Option.map_some, knowledge?]
    cases found : recording.registry? id with
    | some registry =>
      rw [found] at room
      exact congrArg some ((sound.tracks id registry found).knowledge_importFrom tracks room)
    | none =>
      rw [found] at room
      refine congrArg some (((tracks.emptyLike store).knowledge_importFrom tracks room).trans ?_)
      rw [Registry.knowledge_emptyLike]
      funext index
      exact Option.merge_none_left
  · rw [if_neg same, if_neg same, knowledge?]

/-- Each image is imported once, so the order in which that happens does not show. -/
theorem Sound.knowledge?_importAll {sources : List (ImageId × Registry)}
    (distinct : (sources.map (·.1)).Nodup)
    (tracked : ∀ entry ∈ sources, entry.2.Tracks infos entry.1) {recording : Recording}
    {stores : Counter} (sound : recording.Sound infos)
    (room : (recording.importAll sources stores).FoundRoom) (image : ImageId) :
    (recording.importAll sources stores).recording.knowledge? image =
      (recording.knowledge? image).merge Knowledge.join
        ((sources.lookup image).map Registry.knowledge) := by
  induction sources generalizing recording stores with
  | nil => exact Option.merge_none_right.symm
  | cons entry rest ih =>
    obtain ⟨id, source⟩ := entry
    obtain ⟨isTracked, restTracked⟩ := List.forall_mem_cons.mp tracked
    obtain ⟨absent, restDistinct⟩ := List.nodup_cons.mp distinct
    rw [importAll_cons] at room ⊢
    obtain ⟨roomFirst, roomRest⟩ := room.of_andThen
    change source.Tracks infos id at isTracked
    refine (ih restDistinct restTracked (sound.importOne isTracked roomFirst) roomRest).trans ?_
    rw [sound.knowledge?_importOne isTracked roomFirst]
    by_cases same : image = id
    · subst same
      rw [if_pos rfl, lookup_eq_none_iff_not_mem.mpr absent, List.lookup_cons_self]
      exact Option.merge_none_right
    · rw [if_neg same, List.lookup_cons, beq_false_of_ne same]

/-! ## Executions -/

/-- An outcome of executing a nested recording. In which order its registries come and which stores
are drawn is open, but every snapshot finds room. -/
def Executes (recording nested : Recording) (outcome : Outcome) : Prop :=
  ∃ order stores, order.Perm nested.registries ∧ outcome = recording.importAll order stores ∧
    outcome.FoundRoom

variable {outcome : Outcome}

theorem executes_execute {stores : Counter} (room : (recording.execute nested stores).FoundRoom) :
    recording.Executes nested (recording.execute nested stores) :=
  ⟨nested.registries, stores, .refl _, rfl, room⟩

theorem Executes.reachable (executes : recording.Executes nested outcome)
    (reachable : recording.Reachable infos) (nestedReachable : nested.Reachable infos) :
    outcome.recording.Reachable infos := by
  obtain ⟨order, stores, isOrder, rfl, room⟩ := executes
  exact .importAll stores reachable nestedReachable isOrder room

theorem Executes.knowledge? (executes : recording.Executes nested outcome)
    (reachable : recording.Reachable infos) (nestedReachable : nested.Reachable infos)
    (image : ImageId) :
    outcome.recording.knowledge? image =
      (recording.knowledge? image).merge Knowledge.join (nested.knowledge? image) := by
  obtain ⟨order, stores, isOrder, rfl, room⟩ := executes
  have nestedSound := nestedReachable.sound
  have distinct := (isOrder.map (·.1)).nodup_iff.mpr nestedSound.distinct
  have merged :=
    reachable.sound.knowledge?_importAll distinct (nestedSound.tracked isOrder) room image
  rw [lookup_eq_of_perm isOrder nestedSound.distinct] at merged
  exact merged

/-- It comes to the same whether a recording executes two others in turn, or one that has executed
the other: it has touched the same images, and knows the same of each of their subresources. -/
theorem execute_assoc {primary secondary tertiary : Recording}
    {first inTurn inner nested : Outcome} (primaryReachable : primary.Reachable infos)
    (secondaryReachable : secondary.Reachable infos)
    (tertiaryReachable : tertiary.Reachable infos)
    (firstExecutes : primary.Executes secondary first)
    (inTurnExecutes : first.recording.Executes tertiary inTurn)
    (innerExecutes : secondary.Executes tertiary inner)
    (nestedExecutes : primary.Executes inner.recording nested) (image : ImageId) :
    inTurn.recording.knowledge? image = nested.recording.knowledge? image := by
  have afterFirst := firstExecutes.reachable primaryReachable secondaryReachable
  have afterInner := innerExecutes.reachable secondaryReachable tertiaryReachable
  calc inTurn.recording.knowledge? image
      = (first.recording.knowledge? image).merge Knowledge.join (tertiary.knowledge? image) :=
        inTurnExecutes.knowledge? afterFirst tertiaryReachable image
    _ = ((primary.knowledge? image).merge Knowledge.join (secondary.knowledge? image)).merge
          Knowledge.join (tertiary.knowledge? image) := by
        rw [firstExecutes.knowledge? primaryReachable secondaryReachable image]
    _ = (primary.knowledge? image).merge Knowledge.join
          ((secondary.knowledge? image).merge Knowledge.join (tertiary.knowledge? image)) :=
        Std.Associative.assoc (primary.knowledge? image) _ _
    _ = (primary.knowledge? image).merge Knowledge.join (inner.recording.knowledge? image) := by
        rw [innerExecutes.knowledge? secondaryReachable tertiaryReachable image]
    _ = nested.recording.knowledge? image :=
        (nestedExecutes.knowledge? primaryReachable afterInner image).symm

/-- Two of three recordings share a layer of an image, and only the third has touched another image.
Each keeps its maps in its own way. -/
theorem execute_assoc_of_layers :
    let image : Image := ⟨⟨1⟩, ⟨⟨3⟩, 2, 3, .undefined, none⟩, 0, by decide⟩
    let other : Image := ⟨⟨2⟩, ⟨⟨1⟩, 1, 1, .undefined, none⟩, 0, by decide⟩
    let primary := (setLayout (.empty ⟨⟨1⟩, none⟩ 16) image ⟨⟨1⟩, 0, 1, 0, 2⟩ .general none
      ⟨1⟩).recording
    let secondary := (setLayout (.empty ⟨⟨2⟩, none⟩ 0) image ⟨⟨1⟩, 0, 2, 1, 1⟩ .presentSrc none
      ⟨2⟩).recording
    let tertiary := (setLayout (.empty ⟨⟨3⟩, none⟩ 1) other (.all ⟨1⟩) .general none ⟨3⟩).recording
    let first := primary.execute secondary ⟨4⟩
    let inTurn := first.recording.execute tertiary ⟨4⟩
    let inner := secondary.execute tertiary ⟨4⟩
    let nested := primary.execute inner.recording ⟨5⟩
    first.FoundRoom ∧ inTurn.FoundRoom ∧ inner.FoundRoom ∧ nested.FoundRoom ∧
      ∀ id, inTurn.recording.knowledge? id = nested.recording.knowledge? id := by
  intro image other primary secondary tertiary first inTurn inner nested
  let infos : ImageId → ImageInfo := fun id => if id = image.id then image.info else other.info
  have begun (recorder : Recorder) (threshold : Nat) (image : Image) (selector : Selector)
      (layout : ImageLayout) (stores : Counter) (isKnown : image.info = infos image.id) :
      Reachable infos
        (setLayout (.empty recorder threshold) image selector layout none stores).recording := by
    refine .editImage stores (.empty recorder threshold) isKnown (.setLayout recorder _ _ _) ?_
    exact ((Registry.sound_empty image threshold _).fillSelector_foundRoom recorder selector _
      .transition (show 0 < SnapshotStore.capacity by decide)).1
  have primaryFilled : primary = ⟨⟨⟨1⟩, none⟩, 16, [(image.id,
      ((Registry.empty image 16 ⟨1⟩).setLayout ⟨⟨1⟩, none⟩ ⟨⟨1⟩, 0, 1, 0, 2⟩ .general
        none).registry)]⟩ := rfl
  have secondaryFilled : secondary = ⟨⟨⟨2⟩, none⟩, 0, [(image.id,
      ((Registry.empty image 0 ⟨2⟩).setLayout ⟨⟨2⟩, none⟩ ⟨⟨1⟩, 0, 2, 1, 1⟩ .presentSrc
        none).registry)]⟩ := rfl
  have tertiaryFilled : tertiary = ⟨⟨⟨3⟩, none⟩, 1, [(other.id,
      ((Registry.empty other 1 ⟨3⟩).setLayout ⟨⟨3⟩, none⟩ (.all ⟨1⟩) .general
        none).registry)]⟩ := rfl
  rw [Registry.setLayout_eq_fill ⟨by decide, by decide, by decide, by decide⟩]
    at primaryFilled secondaryFilled tertiaryFilled
  have silent : first.notices = [] ∧ inTurn.notices = [] ∧ inner.notices = [] ∧
      nested.notices = [] := by
    simp only [first, inTurn, inner, nested, primaryFilled, secondaryFilled, tertiaryFilled]
    decide +kernel
  have room {outcome : Outcome} (silent : outcome.notices = []) : outcome.FoundRoom := by
    rw [Outcome.FoundRoom, silent]
    intro notice member
    cases member
  obtain ⟨firstSilent, inTurnSilent, innerSilent, nestedSilent⟩ := silent
  exact ⟨room firstSilent, room inTurnSilent, room innerSilent, room nestedSilent,
    execute_assoc (begun _ _ _ _ _ _ rfl) (begun _ _ _ _ _ _ rfl) (begun _ _ _ _ _ _ rfl)
      (executes_execute (room firstSilent)) (executes_execute (room inTurnSilent))
      (executes_execute (room innerSilent)) (executes_execute (room nestedSilent))⟩

end Recording

end LayoutTracking
