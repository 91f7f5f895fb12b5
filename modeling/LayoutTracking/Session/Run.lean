import LayoutTracking.Session.Command

/-!
# Sessions

A session is everything that commands have created so far. Running a command gives the reply, the
notices of the operations behind it, and the session after it.
-/

set_option autoImplicit false

namespace LayoutTracking

structure Session where
  device : Device
  views : List View
  recorders : List Recorder
  recordings : List Recording
  registries : List Registry
  stores : List SnapshotStore
  handles : List SnapshotId
  viewIds : Counter
  recorderIds : Counter
  storeIds : Counter
deriving Inhabited

namespace Session

def empty : Session where
  device := .empty
  views := []
  recorders := []
  recordings := []
  registries := []
  stores := []
  handles := []
  viewIds := .fresh
  recorderIds := .fresh
  storeIds := .fresh

structure Answer where
  reply : Reply
  notices : List Notice
  session : Session
deriving Inhabited

def find {α : Type} (things : List α) (number : Nat) : Except Failure α :=
  match things[number]? with
  | some thing => .ok thing
  | none => .error .noSuch

def registryOf? (session : Session) : Target → Except Failure (Option Registry)
  | .registry number => return some (← find session.registries number)
  | .recording number image => do
    let recording ← find session.recordings number
    let image ← find session.device.images image
    return recording.registry? image.id

def answer (session : Session) (reply : Reply) : Answer := ⟨reply, [], session⟩

/-- The answer of an operation, unless the operation failed. -/
def settle (failure : Option WordFailure) (answer : Answer) : Except Failure Answer :=
  match failure with
  | some failure => .error (.word failure)
  | none => .ok answer

/-- The answer from the registry of a target, or nothing where there is none. -/
def askRegistry (session : Session) (target : Target) (question : Registry → Reply) :
    Except Failure Answer := do
  return session.answer ((← session.registryOf? target).elim .nothing question)

/-- The report of an image's registry in a recording, as a reply. -/
def replyOf (recording : Recording) (image : Image) (reply : RegistryReport → Reply) : Reply :=
  (recording.registry? image.id).elim .nothing fun registry => reply registry.report

/-! ## Creating -/

/-- Adds a registry that stands alone, made for a new store identity. -/
def addRegistry (session : Session) (make : StoreId → Registry) : Except Failure Answer :=
  let (store, storeIds) := session.storeIds.draw
  let registry := make ⟨store⟩
  settle session.storeIds.spent? ⟨.registry registry.report, [],
    { session with registries := session.registries ++ [registry], storeIds }⟩

def addImage (session : Session) (image : Image) (device : Device) : Except Failure Answer :=
  settle session.device.imageIds.spent?
    ⟨.image (numberOf image.id.value) image.info.debugName image.addressing.count
      (session.device.images.map (Device.shares image)) (device.layoutMap image).report,
      [], { session with device }⟩

def create (session : Session) : Creation → Except Failure Answer
  | .image info threshold aliased => do
    let aliased ← aliased.mapM (find session.device.images)
    if fits : info.addressing.count < UInt64.size then
      let (image, device) := match aliased with
        | none => session.device.createImage info fits threshold
        | some aliased => session.device.createAlias info fits threshold aliased
      session.addImage image device
    else
      throw (.word .overflow)
  | .view image selector => do
    let image ← find session.device.images image
    let (id, viewIds) := session.viewIds.draw
    let view := View.ofSelector ⟨id⟩ image selector
    let (spans, _) ← (view.sweep.bind (·.take 64)).mapError .word
    settle session.viewIds.spent?
      ⟨.view (numberOf id) (numberOf image.id.value) view.selector spans.reduceOption, [],
        { session with views := session.views ++ [view], viewIds }⟩
  | .recorder label =>
    let (id, recorderIds) := session.recorderIds.draw
    settle session.recorderIds.spent? ⟨.number session.recorders.length, [],
      { session with recorders := session.recorders ++ [⟨⟨id⟩, label⟩], recorderIds }⟩
  | .recording recorder threshold => do
    let recording := Recording.empty (← find session.recorders recorder) threshold
    return ⟨.recording recording.report, [],
      { session with recordings := session.recordings ++ [recording] }⟩
  | .registry image threshold => do
    let image ← find session.device.images image
    session.addRegistry (.empty image threshold)
  | .emptyLike target => do
    match ← session.registryOf? target with
    | some registry => session.addRegistry registry.emptyLike
    | none => return session.answer .nothing
  | .store =>
    let (id, storeIds) := session.storeIds.draw
    settle session.storeIds.spent? ⟨.number session.stores.length, [],
      { session with stores := session.stores ++ [.empty ⟨id⟩], storeIds }⟩

/-! ## Recording -/

def editRegistry (session : Session) (number : Nat)
    (operation : Registry → Registry.Outcome) (reply : Bool → RegistryReport → Reply) :
    Except Failure Answer := do
  let outcome := operation (← find session.registries number)
  settle outcome.failure ⟨reply outcome.changed outcome.registry.report, outcome.notices,
    { session with registries := session.registries.set number outcome.registry }⟩

def editRecording (session : Session) (number : Nat)
    (operation : Recording → Counter → Recording.Outcome) (reply : Bool → Recording → Reply) :
    Except Failure Answer := do
  let outcome := operation (← find session.recordings number) session.storeIds
  settle outcome.failure ⟨reply outcome.changed outcome.recording, outcome.notices,
    { session with
      recordings := session.recordings.set number outcome.recording
      storeIds := outcome.stores }⟩

/-- Runs an operation of a recorder on a registry that stands alone, or else of a recording on its
registry of an image. -/
def editPlace (session : Session) (place : Place)
    (alone : Registry → Recorder → Registry.Outcome)
    (within : Recording → Image → Counter → Recording.Outcome)
    (reply : Bool → RegistryReport → Reply) : Except Failure Answer := do
  match place with
  | .registry number recorder =>
    let recorder ← find session.recorders recorder
    session.editRegistry number (alone · recorder) reply
  | .recording number image =>
    let image ← find session.device.images image
    session.editRecording number (within · image)
      fun changed recording => replyOf recording image (reply changed)

def edit (session : Session) : Edit → Except Failure Answer
  | .touch number image => do
    let image ← find session.device.images image
    session.editRecording number (·.touch image) fun _ recording =>
      replyOf recording image .registry
  | .setLayout place selector layout expected =>
    session.editPlace place (·.setLayout · selector layout expected)
      (·.setLayout · selector layout expected) .registryWritten
  | .setInitial place selector layout =>
    session.editPlace place (·.setInitial · selector layout) (·.setInitial · selector layout)
      fun _ => .registry
  | .setInitialFromView number recorder view layout => do
    let recorder ← find session.recorders recorder
    let view ← find session.views view
    session.editRegistry number (·.setInitialFromView recorder layout view) fun _ => .registry
  | .recordInitialFromView number view layout => do
    let view ← find session.views view
    session.editRecording number (·.setInitialFromView view layout) fun _ recording =>
      .recording recording.report
  | .importInto number source => do
    let registry ← find session.registries number
    match ← session.registryOf? source with
    | some source =>
      session.editRegistry number (·.importFrom source)
        (.imported (registry.key == source.key))
    | none => return session.answer .nothing
  | .execute number nested => do
    let nested ← find session.recordings nested
    session.editRecording number (·.execute nested) fun changed recording =>
      .recordingWritten changed recording.report
  | .reset number =>
    session.editRecording number (fun recording stores => ⟨recording.reset, stores, false, [], none⟩)
      fun _ recording => .recording recording.report

/-! ## Asking -/

/-- The answer to a search in the registry of a target, or nothing where there is none. -/
def askSearch (session : Session) (target : Target)
    (search : Registry → Except WordFailure (Search (Span × LayoutEntry))) :
    Except Failure Answer := do
  match ← session.registryOf? target with
  | none => return session.answer .nothing
  | some registry =>
    let result ← (search registry).mapError .word
    return session.answer (.search ⟨result.found, result.seen.map registry.reportEntry⟩)

def ask (session : Session) : Question → Except Failure Answer
  | .recording number => do
    return session.answer (.recording (← find session.recordings number).report)
  | .registry target => session.askRegistry target (.registry ·.report)
  | .search target scope probe => do
    let holds (entry : Span × LayoutEntry) : Bool :=
      probe.holds entry.1 entry.2.initial entry.2.current
    match scope with
    | .selector selector => session.askSearch target (·.searchSelector selector holds)
    | .view number =>
      let view ← find session.views number
      let sweep ← view.sweep.mapError .word
      session.askSearch target (·.searchSweep sweep holds)
  | .entryAt target subresource =>
    session.askRegistry target fun registry =>
      (registry.entryAt? subresource).elim .nothing fun entry =>
        .entry (registry.reportEntry entry)
          ((entry.2.snapshot.bind registry.snapshots.get?).map Snapshot.report)
  | .decode target index =>
    session.askRegistry target fun registry =>
      .decoded (registry.decode? index) (registry.addressing.decode? index)
  | .resolve target index other => do
    let other ← find session.registries other
    session.askRegistry target fun registry =>
      ((SpanMap.get? registry.layouts index).bind (·.2.snapshot)).elim .nothing fun handle =>
        .resolved (other.snapshots.owns handle)
          ((other.snapshots.get? handle).map Snapshot.report)

/-! ## Device-wide maps -/

def mapWritten (session : Session) (image : Image) (outcome : Device.Outcome) :
    Except Failure Answer :=
  settle outcome.failure
    ⟨.mapWritten outcome.changed (outcome.device.layoutMap image).report, outcome.notices,
      { session with device := outcome.device }⟩

def runMap (session : Session) (image : Image) : MapCommand → Except Failure Answer
  | .setLayout selector layout =>
    session.mapWritten image (session.device.setLayout image selector layout)
  | .setSpan span layout =>
    session.mapWritten image (session.device.setSpans image [span] layout)
  | .setViewSpans view layout => do
    let view ← find session.views view
    session.mapWritten image (session.device.setSwept image view.swept layout)
  | .abandonWrite span layout =>
    let map := session.device.layoutMap image
    let map := (SpanMap.overwrite? map span layout).getD map
    return ⟨.abandoned map.report, [], { session with device := session.device.putMap image map }⟩
  | .layoutOf subresource =>
    return session.answer ((session.device.layoutOf? image subresource).elim .nothing .layout)
  | .layoutAt index =>
    return session.answer (.layoutAt (session.device.layoutAt? image index)
      (SpanMap.limit (session.device.layoutMap image)))
  | .show => return session.answer (.map (session.device.layoutMap image).report)
  | .search scope probe => do
    let holds (entry : Span × ImageLayout) : Bool := probe.holds entry.1 none (some entry.2)
    let result ← match scope with
      | .span span => pure (session.device.searchSpan image span holds)
      | .selector selector =>
        (session.device.searchSelector image selector holds).mapError .word
    return session.answer (.mapSearch result)

/-! ## Snapshot stores -/

def runStore (session : Session) (number : Nat) (store : SnapshotStore) :
    StoreCommand → Except Failure Answer
  | .push recorder view => do
    let recorder ← find session.recorders recorder
    let view ← view.mapM (find session.views)
    match store.push (.take recorder view) with
    | .error .exhausted => throw .storeExhausted
    | .ok (handle, store) =>
      return ⟨.pushed session.handles.length handle.index.toNat store.report, [],
        { session with
          stores := session.stores.set number store
          handles := session.handles ++ [handle] }⟩
  | .get handle => do
    let handle ← find session.handles handle
    return session.answer (.snapshot (store.owns handle)
      ((store.get? handle).map Snapshot.report) (session.handles.idxOf handle))

def step (session : Session) : Command → Except Failure Answer
  | .create creation => session.create creation
  | .edit edit => session.edit edit
  | .ask question => session.ask question
  | .map image command => do session.runMap (← find session.device.images image) command
  | .store number command => do session.runStore number (← find session.stores number) command

/-- Runs commands until one fails; what was answered before it stands. -/
def run (session : Session) : List Command → List (Except Failure (Reply × List Notice))
  | [] => []
  | command :: rest =>
    match session.step command with
    | .ok answer => .ok (answer.reply, answer.notices) :: answer.session.run rest
    | .error failure => [.error failure]

end Session

end LayoutTracking
