import LayoutTracking.Proofs.Origins
import LayoutTracking.Proofs.SetLayout

/-!
# What is written once

The first call that makes a subresource known to a recording settles its initial layout and its
snapshot. No run of calls afterwards takes either of them back, nor does it make the recording forget
the subresource or its current layout.
-/

set_option autoImplicit false

namespace LayoutTracking

namespace Recording

variable {recording nested before after : Recording}

/-! ## What a recording retains -/

/-- The snapshot that a handle resolves to in the registry of the image. -/
def snapshot? (recording : Recording) (image : ImageId) (handle : SnapshotId) : Option Snapshot :=
  (recording.registry? image).bind (·.snapshots.get? handle)

def origin? (recording : Recording) (image : ImageId) (index : Nat) : Option Origin :=
  (recording.registry? image).bind (·.origin? index)

def Retains (before after : Recording) : Prop :=
  ∀ image registry, before.registry? image = some registry →
    ∃ later, after.registry? image = some later ∧ registry.Retains later

theorem Retains.refl (recording : Recording) : recording.Retains recording :=
  fun _ registry found => ⟨registry, found, .refl registry⟩

theorem Retains.trans {middle : Recording} (earlier : before.Retains middle)
    (later : middle.Retains after) : before.Retains after := by
  intro image registry found
  obtain ⟨between, isBetween, retains⟩ := earlier image registry found
  obtain ⟨last, isLast, onward⟩ := later image between isBetween
  exact ⟨last, isLast, retains.trans onward⟩

theorem retains_edit {id : ImageId} {make : StoreId → Registry}
    {operation : Registry → Registry.Outcome} {stores : Counter}
    (retains : ∀ registry, recording.registry? id = some registry →
      (operation registry).FoundRoom → registry.Retains (operation registry).registry)
    (room : (recording.edit id make operation stores).FoundRoom) :
    recording.Retains (recording.edit id make operation stores).recording := by
  obtain ⟨store, edits, -, notices⟩ := recording.exists_edit id make operation stores
  rw [Outcome.FoundRoom, notices] at room
  rw [edits]
  intro image registry found
  rw [registry?_put]
  by_cases same : image = id
  · subst same
    rw [found] at room ⊢
    exact ⟨_, if_pos rfl, retains registry found room⟩
  · exact ⟨registry, (if_neg same).trans found, .refl registry⟩

theorem imports_reachable : Imports (fun _ registry => registry.Reachable)
    fun notice => notice.severity ≠ .error where
  emptied _ _ store reachable := .emptyLike store reachable
  imported _ _ _ reachable sourceReachable room := .importFrom reachable sourceReachable room

theorem Each.importAll_retains {sources : List (ImageId × Registry)}
    (reachable : ∀ entry ∈ sources, entry.2.Reachable) {recording : Recording} {stores : Counter}
    (isEach : recording.Each fun _ registry => registry.Reachable)
    (room : (recording.importAll sources stores).FoundRoom) :
    recording.Retains (recording.importAll sources stores).recording := by
  induction sources generalizing recording stores with
  | nil => exact .refl recording
  | cons entry rest ih =>
    obtain ⟨id, source⟩ := entry
    obtain ⟨isReachable, restReachable⟩ := List.forall_mem_cons.mp reachable
    rw [importAll_cons] at room ⊢
    obtain ⟨roomFirst, roomRest⟩ := room.of_andThen
    have now : recording.Retains (recording.importOne id source stores).recording := by
      refine retains_edit ?_ roomFirst
      intro registry found
      exact (isEach.each id registry found).sound.importFrom_retains isReachable.sound
    exact now.trans
      (ih restReachable (isEach.importOne imports_reachable isReachable roomFirst) roomRest)

/-! ## Runs -/

/-- The recordings that uses of their registries and executions of one another build up, each
snapshot finding room. No image need be the only one with its identity. -/
def Kept : Recording → Prop :=
  BuiltBy (fun _ operation => Registry.IsOperation operation) fun notice => notice.severity ≠ .error

theorem Kept.isEach (kept : recording.Kept) :
    recording.Each fun _ registry => registry.Reachable :=
  BuiltBy.isEach kept imports_reachable (fun image _ _ threshold store => .empty image threshold store)
    (fun _ _ isOperation _ reachable room => isOperation.reachable reachable room)

/-- What is called on a recording that is not reset. -/
inductive Call where
  /-- The registry of an image is lent out, and made before if there is none. -/
  | lend (image : Image) (use : Registry.Use)
  | setLayout (image : Image) (selector : Selector) (layout : ImageLayout)
      (expected : Option ImageLayout)
  | setInitial (image : Image) (selector : Selector) (layout : ImageLayout)
  | setInitialFromView (view : View) (layout : ImageLayout)
  /-- The registries of the nested recording come in some order. -/
  | execute (nested : Recording) (order : List (ImageId × Registry))

namespace Call

def perform (recording : Recording) (stores : Counter) : Call → Outcome
  | .lend image use => recording.editImage image use.apply stores
  | .setLayout image selector layout expected =>
    recording.setLayout image selector layout expected stores
  | .setInitial image selector layout => recording.setInitial image selector layout stores
  | .setInitialFromView view layout => recording.setInitialFromView view layout stores
  | .execute _ order => recording.importAll order stores

def Allowed : Call → Prop
  | .lend _ use => use.Allowed
  | .execute nested order => nested.Kept ∧ order.Perm nested.registries
  | _ => True

/-- Whatever the call makes known at the index of the image has the origin. -/
def Gives (recorder : Recorder) (id : ImageId) (index : Nat) (origin : Origin) : Call → Prop
  | .lend image use => image.id = id ∧ use.Gives index origin
  | .setLayout image _ layout expected =>
    image.id = id ∧ origin = ⟨some (expected.getD layout), some (.take recorder none)⟩
  | .setInitial image _ layout =>
    image.id = id ∧ origin = ⟨some layout, some (.take recorder none)⟩
  | .setInitialFromView view layout =>
    view.image.id = id ∧ origin = ⟨some layout, some (.take recorder (some view))⟩
  | .execute nested _ => nested.origin? id index = some origin

end Call

inductive Runs : Recording → List Call → Recording → Prop where
  | nil (recording : Recording) : Runs recording [] recording
  | cons {recording last : Recording} {call : Call} {calls : List Call} (stores : Counter) :
      call.Allowed → (call.perform recording stores).FoundRoom →
      Runs (call.perform recording stores).recording calls last →
      Runs recording (call :: calls) last

variable {call : Call} {stores : Counter}

/-! ## One call -/

/-- Every call but an execution is a use of one registry. -/
theorem Call.execute_or_lend (call : Call) (recorder : Recorder) :
    (∃ nested order, call = .execute nested order) ∨
      ∃ (image : Image) (use : Registry.Use), (call.Allowed → use.Allowed) ∧
        (∀ recording stores, recording.recorder = recorder →
          call.perform recording stores = recording.editImage image use.apply stores) ∧
        ∀ id index origin, image.id = id → use.Gives index origin →
          call.Gives recorder id index origin := by
  cases call with
  | lend image use =>
    exact .inr ⟨image, use, id, fun _ _ _ => rfl, fun _ _ _ => And.intro⟩
  | setLayout image selector layout expected =>
    refine .inr ⟨image, .setLayout recorder selector layout expected, id, ?_, fun _ _ _ => And.intro⟩
    rintro recording stores rfl
    rfl
  | setInitial image selector layout =>
    refine .inr ⟨image, .setInitial recorder selector layout, id, ?_, fun _ _ _ => And.intro⟩
    rintro recording stores rfl
    rfl
  | setInitialFromView view layout =>
    refine .inr ⟨view.image, .setInitialFromView recorder layout view, id, ?_,
      fun _ _ _ => And.intro⟩
    rintro recording stores rfl
    rfl
  | execute nested order => exact .inl ⟨nested, order, rfl⟩

/-- What a call does to a recording. -/
structure Call.Effect (call : Call) (before after : Recording) : Prop where
  kept : after.Kept
  recorder : after.recorder = before.recorder
  retains : before.Retains after
  gives : ∀ id index origin, before.known? id index = none →
    after.origin? id index = some origin → call.Gives before.recorder id index origin

theorem origin?_eq_none {image : ImageId} {index : Nat}
    (unknown : recording.known? image index = none) : recording.origin? image index = none := by
  rw [origin?]
  rw [known?] at unknown
  cases found : recording.registry? image with
  | none => rfl
  | some registry =>
    rw [found] at unknown
    exact Registry.origin?_eq_none unknown

theorem origin?_eq_of_registry?_eq {left right : Recording} {image : ImageId}
    (same : left.registry? image = right.registry? image) (index : Nat) :
    left.origin? image index = right.origin? image index := by
  rw [origin?, origin?, same]

/-- An index that is unknown to a recording is unknown to the registry that an operation on the image
begins with. -/
theorem known?_getD_eq_none {id : ImageId} {index : Nat} {made : Registry}
    (unknown : recording.known? id index = none) (madeUnknown : made.known? index = none) :
    ((recording.registry? id).getD made).known? index = none := by
  rw [known?] at unknown
  cases found : recording.registry? id with
  | none => exact madeUnknown
  | some registry =>
    rw [found] at unknown
    exact unknown

theorem Kept.editImage_gives (kept : recording.Kept) {image : Image} {use : Registry.Use}
    (allowed : use.Allowed) (room : (recording.editImage image use.apply stores).FoundRoom)
    {id : ImageId} {index : Nat} {origin : Origin} (unknown : recording.known? id index = none)
    (isOrigin : (recording.editImage image use.apply stores).recording.origin? id index =
      some origin) : image.id = id ∧ use.Gives index origin := by
  obtain ⟨store, edits, -, notices⟩ :=
    recording.exists_edit image.id (.empty image recording.threshold) use.apply stores
  rw [editImage, Outcome.FoundRoom, notices] at room
  rw [editImage, edits, origin?, registry?_put] at isOrigin
  by_cases same : id = image.id
  · subst same
    rw [if_pos rfl] at isOrigin
    have begun : (Registry.empty image recording.threshold store).known? index = none :=
      Registry.known?_of_gap (AdaptiveMap.holds_empty _ _) index
    have reachable := kept.isEach.getD image.id (.empty image recording.threshold store)
    exact ⟨rfl, Registry.Use.gives allowed reachable.sound room (known?_getD_eq_none unknown begun)
      isOrigin⟩
  · rw [if_neg same] at isOrigin
    cases (origin?_eq_none unknown).symm.trans isOrigin

theorem Kept.editImage_effect (kept : recording.Kept) {image : Image} {use : Registry.Use}
    (allowed : use.Allowed) (room : (recording.editImage image use.apply stores).FoundRoom) :
    (Call.lend image use).Effect recording (recording.editImage image use.apply stores).recording where
  kept := .editImage stores kept allowed.isOperation room
  recorder := by
    obtain ⟨store, edits, -⟩ :=
      recording.exists_edit image.id (.empty image recording.threshold) use.apply stores
    rw [editImage, edits]
    rfl
  retains := by
    refine retains_edit ?_ room
    intro registry found
    exact allowed.isOperation.retains (kept.isEach.each image.id registry found).sound
  gives id index origin unknown isOrigin := kept.editImage_gives allowed room unknown isOrigin

theorem recorder_importAll (recording : Recording) (sources : List (ImageId × Registry))
    (stores : Counter) :
    (recording.importAll sources stores).recording.recorder = recording.recorder := by
  induction sources generalizing recording stores with
  | nil => rfl
  | cons entry rest ih =>
    obtain ⟨id, source⟩ := entry
    obtain ⟨store, imports, -⟩ :=
      recording.exists_edit id source.emptyLike (·.importFrom source) stores
    rw [importAll_cons]
    refine (ih _ _).trans ?_
    rw [importOne, imports]
    rfl

theorem Kept.importAll_gives (kept : recording.Kept) (nestedKept : nested.Kept)
    {order : List (ImageId × Registry)} (isOrder : order.Perm nested.registries)
    (room : (recording.importAll order stores).FoundRoom) {id : ImageId} {index : Nat}
    {origin : Origin} (unknown : recording.known? id index = none)
    (isOrigin : (recording.importAll order stores).recording.origin? id index = some origin) :
    nested.origin? id index = some origin := by
  have nestedEach := nestedKept.isEach
  have distinct : (order.map (·.1)).Nodup :=
    (isOrder.map (·.1)).nodup_iff.mpr nestedEach.distinct
  have sameLookup := lookup_eq_of_perm isOrder nestedEach.distinct id
  cases told : order.lookup id with
  | none =>
    rw [origin?_eq_of_registry?_eq (registry?_importAll_of_absent told recording stores),
      origin?_eq_none unknown] at isOrigin
    cases isOrigin
  | some source =>
    have isSource : nested.registry? id = some source := sameLookup.symm.trans told
    have sourceReachable := nestedEach.each id source isSource
    obtain ⟨store, imports, notices⟩ := exists_registry?_importAll distinct told recording stores
    have begun : (source.emptyLike store).known? index = none :=
      Registry.known?_of_gap (AdaptiveMap.holds_emptied _) index
    have reachable := kept.isEach.getD id (.emptyLike store sourceReachable)
    rw [origin?, imports] at isOrigin
    rw [origin?, isSource]
    exact reachable.sound.importFrom_origin sourceReachable.sound
      (fun notice member => room notice (notices notice member))
      (known?_getD_eq_none unknown begun) isOrigin

theorem Kept.importAll_effect (kept : recording.Kept) (nestedKept : nested.Kept)
    {order : List (ImageId × Registry)} (isOrder : order.Perm nested.registries)
    (room : (recording.importAll order stores).FoundRoom) :
    (Call.execute nested order).Effect recording (recording.importAll order stores).recording where
  kept := .importAll stores kept nestedKept isOrder room
  recorder := recording.recorder_importAll order stores
  retains := kept.isEach.importAll_retains (nestedKept.isEach.mem isOrder) room
  gives _ _ _ unknown isOrigin := kept.importAll_gives nestedKept isOrder room unknown isOrigin

theorem Kept.effect (kept : recording.Kept) (allowed : call.Allowed)
    (room : (call.perform recording stores).FoundRoom) :
    call.Effect recording (call.perform recording stores).recording := by
  rcases call.execute_or_lend recording.recorder with
    ⟨nested, order, rfl⟩ | ⟨image, use, useAllowed, performs, gives⟩
  · exact kept.importAll_effect allowed.1 allowed.2 room
  · rw [performs recording stores rfl] at room ⊢
    have effect := kept.editImage_effect (useAllowed allowed) room
    refine ⟨effect.kept, effect.recorder, effect.retains, ?_⟩
    intro id index origin unknown isOrigin
    obtain ⟨same, given⟩ := effect.gives id index origin unknown isOrigin
    exact gives id index origin same given

/-! ## All calls of a run -/

section

variable {start middle last : Recording} {calls : List Call}

theorem Runs.kept (run : start.Runs calls last) (kept : start.Kept) : last.Kept := by
  induction run with
  | nil recording => exact kept
  | cons stores allowed room _ ih => exact ih (kept.effect allowed room).kept

theorem Runs.retains (run : start.Runs calls last) (kept : start.Kept) : start.Retains last := by
  induction run with
  | nil recording => exact .refl recording
  | cons stores allowed room _ ih =>
    have effect := kept.effect allowed room
    exact effect.retains.trans (ih effect.kept)

theorem Retains.exists_known (retains : before.Retains after) {image : ImageId} {index : Nat}
    {entry : LayoutEntry} (known : before.known? image index = some entry) :
    ∃ later, after.known? image index = some later ∧ entry.Persists later := by
  obtain ⟨registry, found, isKnown⟩ := Option.bind_eq_some_iff.mp known
  obtain ⟨later, isLater, retained⟩ := retains image registry found
  obtain ⟨onward, isOnward, persists⟩ := retained.entries index entry isKnown
  exact ⟨onward, Option.bind_eq_some_iff.mpr ⟨later, isLater, isOnward⟩, persists⟩

theorem Retains.snapshot? (retains : before.Retains after) {image : ImageId} {handle : SnapshotId}
    {snapshot : Snapshot} (resolves : before.snapshot? image handle = some snapshot) :
    after.snapshot? image handle = some snapshot := by
  obtain ⟨registry, found, inStore⟩ := Option.bind_eq_some_iff.mp resolves
  obtain ⟨later, isLater, retained⟩ := retains image registry found
  exact Option.bind_eq_some_iff.mpr ⟨later, isLater, retained.snapshots.get? inStore⟩

/-- An entry stays as it was settled: its initial layout, its handle and the snapshot behind it. -/
structure Lasts (before after : Recording) (image : ImageId) (index : Nat) (entry : LayoutEntry) :
    Prop where
  persists : ∃ later, after.known? image index = some later ∧ entry.Persists later
  resolves : ∃ handle snapshot, entry.snapshot = some handle ∧
    before.snapshot? image handle = some snapshot ∧ after.snapshot? image handle = some snapshot

theorem Kept.exists_snapshot (kept : recording.Kept) {image : ImageId} {index : Nat}
    {entry : LayoutEntry} (known : recording.known? image index = some entry) :
    ∃ handle snapshot, entry.snapshot = some handle ∧
      recording.snapshot? image handle = some snapshot := by
  obtain ⟨registry, found, isKnown⟩ := Option.bind_eq_some_iff.mp known
  have sound := (kept.isEach.each image registry found).sound
  obtain ⟨handle, isHandle⟩ := Option.isSome_iff_exists.mp (sound.settled index entry isKnown).2
  obtain ⟨snapshot, inStore⟩ :=
    Option.isSome_iff_exists.mp (sound.resolves index entry isKnown handle isHandle)
  exact ⟨handle, snapshot, isHandle, Option.bind_eq_some_iff.mpr ⟨registry, found, inStore⟩⟩

theorem Retains.lasts (retains : before.Retains after) (kept : before.Kept) {image : ImageId}
    {index : Nat} {entry : LayoutEntry} (known : before.known? image index = some entry) :
    before.Lasts after image index entry := by
  obtain ⟨handle, snapshot, isHandle, resolves⟩ := kept.exists_snapshot known
  exact ⟨retains.exists_known known, handle, snapshot, isHandle, resolves,
    retains.snapshot? resolves⟩

theorem origin?_of_known {image : ImageId} {index : Nat} {entry : LayoutEntry}
    (known : recording.known? image index = some entry) :
    recording.origin? image index =
      some ⟨entry.initial, entry.snapshot.bind (recording.snapshot? image)⟩ := by
  obtain ⟨registry, found, isKnown⟩ := Option.bind_eq_some_iff.mp known
  have resolves : recording.snapshot? image = registry.snapshots.get? := by
    funext handle
    rw [snapshot?, found]
    rfl
  rw [origin?, found, resolves]
  exact congrArg (Option.map _) isKnown

theorem Retains.origin? (retains : before.Retains after) (kept : before.Kept) {image : ImageId}
    {index : Nat} {entry : LayoutEntry} (known : before.known? image index = some entry) :
    after.origin? image index = before.origin? image index := by
  obtain ⟨⟨later, isLater, persists⟩, handle, snapshot, isHandle, inBefore, inAfter⟩ :=
    retains.lasts kept known
  rw [origin?_of_known known, origin?_of_known isLater, persists.initial, persists.snapshot,
    isHandle, Option.bind_some, Option.bind_some, inBefore, inAfter]

/-- The call makes the index known, after calls that did not, and what it gives is there in the
end. -/
structure Reveals (start : Recording) (earlier : List Call) (call : Call) (later : List Call)
    (last : Recording) (image : ImageId) (index : Nat) : Prop where
  first : ∃ before after, start.Runs earlier before ∧ before.Runs [call] after ∧
    after.Runs later last ∧ before.known? image index = none ∧
    (after.known? image index).isSome = true
  given : ∃ origin, call.Gives start.recorder image index origin ∧
    last.origin? image index = some origin

/-- What the first call to make an index known gives is retained by all the calls after it. -/
theorem Runs.exists_reveals (run : start.Runs calls last) (kept : start.Kept) {image : ImageId}
    {index : Nat} {entry : LayoutEntry} (unknown : start.known? image index = none)
    (known : last.known? image index = some entry) :
    ∃ earlier call later, calls = earlier ++ call :: later ∧
      start.Reveals earlier call later last image index := by
  induction run with
  | nil recording => cases unknown.symm.trans known
  | @cons recording last call calls stores allowed room rest ih =>
    have effect := kept.effect allowed room
    cases now : (call.perform recording stores).recording.known? image index with
    | some first =>
      have isOrigin := origin?_of_known now
      refine ⟨[], call, calls, rfl, ⟨_, _, .nil recording, .cons stores allowed room (.nil _), rest,
        unknown, ?_⟩, _, effect.gives image index _ unknown isOrigin, ?_⟩
      · rw [now]
        rfl
      · rw [← isOrigin]
        exact (rest.retains effect.kept).origin? effect.kept now
    | none =>
      obtain ⟨earlier, revealing, later, split, ⟨before, after, run, reveals⟩, origin, gives,
        isOrigin⟩ := ih effect.kept now known
      refine ⟨call :: earlier, revealing, later, congrArg (call :: ·) split,
        ⟨before, after, .cons stores allowed room run, reveals⟩, origin, ?_, isOrigin⟩
      rw [← effect.recorder]
      exact gives

/-- Once known, a subresource stays known as it was settled, and that was by the first call to make
it known. -/
theorem written_once {rest : List Call} (kept : start.Kept) (run : start.Runs calls middle)
    (onward : middle.Runs rest last) {image : ImageId} {index : Nat} {entry : LayoutEntry}
    (known : middle.known? image index = some entry) :
    middle.Lasts last image index entry ∧
      (start.known? image index = none → ∃ earlier call later, calls = earlier ++ call :: later ∧
        start.Reveals earlier call later middle image index) := by
  have middleKept := run.kept kept
  refine ⟨(onward.retains middleKept).lasts middleKept known, ?_⟩
  intro unknown
  exact run.exists_reveals kept unknown known

/-- A recording touches an image, executes another that knows two layers of it, and then moves all of
it. What it knows of the first layer is what the other settled. -/
theorem written_once_by_execution :
    let image : Image := ⟨⟨1⟩, ⟨⟨3⟩, 2, 3, .undefined, none⟩, 0, by decide⟩
    let nested := (Recording.setLayout (.empty ⟨⟨2⟩, none⟩ 0) image ⟨⟨1⟩, 0, 1, 0, 2⟩ .general
      none ⟨1⟩).recording
    let touched := (Recording.touch (.empty ⟨⟨1⟩, none⟩ 16) image ⟨2⟩).recording
    let executed := (touched.execute nested ⟨3⟩).recording
    let moved := (executed.setLayout image (.all ⟨3⟩) .presentSrc none ⟨3⟩).recording
    let entry : LayoutEntry := ⟨some .general, some .general, some ⟨⟨2⟩, 0⟩⟩
    executed.known? image.id 0 = some entry ∧ executed.Lasts moved image.id 0 entry ∧
      ∃ earlier call later,
        [.lend image .look, .execute nested nested.registries] = earlier ++ call :: later ∧
          Reveals (.empty ⟨⟨1⟩, none⟩ 16) earlier call later executed image.id 0 := by
  intro image nested touched executed moved entry
  have begun := Registry.Reachable.empty image 0 ⟨1⟩
  have nestedKept : nested.Kept := by
    refine .editImage ⟨1⟩ (.empty _ 0) (.setLayout _ _ .general none) ?_
    exact (begun.sound.fillSelector_foundRoom _ _ _ .transition (by decide)).1
  have nestedFilled : nested = ⟨⟨⟨2⟩, none⟩, 0, [(image.id,
      ((Registry.empty image 0 ⟨1⟩).setLayout ⟨⟨2⟩, none⟩ ⟨⟨1⟩, 0, 1, 0, 2⟩ .general
        none).registry)]⟩ := rfl
  rw [Registry.setLayout_eq_fill ⟨by decide, by decide, by decide, by decide⟩] at nestedFilled
  obtain ⟨silent, known, size⟩ : (touched.execute nested ⟨3⟩).notices = [] ∧
      executed.known? image.id 0 = some entry ∧
      (executed.registry? image.id).map (·.snapshots.snapshots.size) = some 1 := by
    simp only [executed, nestedFilled]
    decide +kernel
  have executedRoom : (touched.execute nested ⟨3⟩).FoundRoom := by
    rw [Outcome.FoundRoom, silent]
    nofun
  have run : Runs (.empty ⟨⟨1⟩, none⟩ 16)
      [.lend image .look, .execute nested nested.registries] executed :=
    .cons ⟨2⟩ trivial nofun (.cons ⟨3⟩ ⟨nestedKept, .refl _⟩ executedRoom (.nil _))
  have movedRoom : (executed.setLayout image (.all ⟨3⟩) .presentSrc none ⟨3⟩).FoundRoom := by
    obtain ⟨registry, found, -⟩ := Option.bind_eq_some_iff.mp known
    obtain ⟨store, -, -, notices⟩ := executed.exists_edit image.id (.empty image 16)
      (·.setLayout ⟨⟨1⟩, none⟩ (.all ⟨3⟩) .presentSrc none) ⟨3⟩
    have reachable := (run.kept (.empty _ 16)).isEach.each image.id registry found
    rw [found] at size notices
    have one : registry.snapshots.snapshots.size = 1 := Option.some.inj size
    have room : registry.snapshots.snapshots.size < SnapshotStore.capacity := by
      rw [one]
      decide
    have moves := (reachable.sound.fillSelector_foundRoom ⟨⟨1⟩, none⟩ (.all ⟨3⟩)
      ⟨some .presentSrc, some .presentSrc, none⟩ .transition room).1
    exact fun notice member => moves notice (notices ▸ member)
  have onward : executed.Runs [.setLayout image (.all ⟨3⟩) .presentSrc none] moved :=
    .cons ⟨3⟩ trivial movedRoom (.nil _)
  obtain ⟨lasts, reveals⟩ := written_once (.empty _ 16) run onward known
  exact ⟨known, lasts, reveals rfl⟩

end

end Recording

end LayoutTracking
