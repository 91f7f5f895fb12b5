import LayoutTracking.Proofs.Twins
import LayoutTracking.Session.Run

/-!
# Thresholds do not show

Two sessions that are given the same commands, up to the thresholds of what these create, give the
same replies, up to the kinds of the maps. What they have created in the end can be told apart by no
search and no other question.
-/

set_option autoImplicit false

namespace LayoutTracking

/-! ## Reports without the kinds of maps -/

theorem map_eq_of_rel {α β γ : Type} {Same : α → β → Prop} {lefts : List α} {rights : List β}
    {image : α → γ} {counterpart : β → γ} (same : List.Forall₂ Same lefts rights)
    (each : ∀ left right, Same left right → image left = counterpart right) :
    lefts.map image = rights.map counterpart := by
  induction same with
  | nil => rfl
  | cons first _ ih => exact congrArg₂ List.cons (each _ _ first) ih

def RegistryReport.withoutKind (report : RegistryReport) : RegistryReport :=
  { report with isFlat := false }

def RecordingReport.withoutKinds (report : RecordingReport) : RecordingReport :=
  { report with registries := report.registries.map RegistryReport.withoutKind }

def MapReport.withoutKind (report : MapReport) : MapReport := { report with isFlat := false }

theorem Registry.Twins.report {left right : Registry} (twins : left.Twins right) :
    left.report.withoutKind = right.report.withoutKind := by
  have same := twins.layouts.indistinguishable
  simp only [Registry.report, RegistryReport.withoutKind, twins.image, same.limit, same.size,
    same.revision, same.entries, twins.reportEntry, twins.snapshots]

/-- The order of reports looks at the images alone. -/
theorem RegistryReport.map_mergeSort (reports : List RegistryReport) :
    (reports.mergeSort fun left right => left.image ≤ right.image).map withoutKind =
      (reports.map withoutKind).mergeSort fun left right => left.image ≤ right.image :=
  List.map_mergeSort fun _ _ _ _ => rfl

theorem Recording.Twins.report {left right : Recording} (twins : left.Twins right) :
    left.report.withoutKinds = right.report.withoutKinds := by
  have same : (left.registries.map (·.2.report)).map RegistryReport.withoutKind =
      (right.registries.map (·.2.report)).map RegistryReport.withoutKind := by
    rw [List.map_map, List.map_map]
    exact map_eq_of_rel twins.registries fun _ _ both => both.2.report
  have isEmpty : left.registries.isEmpty = right.registries.isEmpty := by
    rw [Bool.eq_iff_iff, List.isEmpty_iff_length_eq_zero, List.isEmpty_iff_length_eq_zero,
      twins.registries.length_eq]
  simp only [Recording.report, RecordingReport.withoutKinds, RegistryReport.map_mergeSort, same,
    isEmpty, twins.recorder, twins.registries.length_eq]

theorem AdaptiveMap.report_twins {left right : AdaptiveMap ImageLayout}
    (twins : SpanMap.Twins left right) : left.report.withoutKind = right.report.withoutKind := by
  have same := twins.indistinguishable
  simp only [AdaptiveMap.report, MapReport.withoutKind, same.limit, same.revision, same.entries]

namespace Session

def Reply.withoutKinds : Reply → Reply
  | .image id name count shares report => .image id name count shares report.withoutKind
  | .recording report => .recording report.withoutKinds
  | .registry report => .registry report.withoutKind
  | .recordingWritten changed report => .recordingWritten changed report.withoutKinds
  | .registryWritten changed report => .registryWritten changed report.withoutKind
  | .imported compatible changed report => .imported compatible changed report.withoutKind
  | .mapWritten changed report => .mapWritten changed report.withoutKind
  | .map report => .map report.withoutKind
  | .abandoned report => .abandoned report.withoutKind
  | reply => reply

/-! ## Commands that differ by thresholds -/

inductive Creation.Matches : Creation → Creation → Prop where
  | image (info : ImageInfo) (threshold other : Nat) (aliased : Option Nat) :
      Matches (.image info threshold aliased) (.image info other aliased)
  | view (image : Nat) (selector : Selector) : Matches (.view image selector) (.view image selector)
  | recorder (label : Option String) : Matches (.recorder label) (.recorder label)
  | recording (recorder threshold other : Nat) :
      Matches (.recording recorder threshold) (.recording recorder other)
  | registry (image threshold other : Nat) :
      Matches (.registry image threshold) (.registry image other)
  | emptyLike (target : Target) : Matches (.emptyLike target) (.emptyLike target)
  | store : Matches .store .store

/-- The same command, but for the threshold of what it creates. -/
inductive Command.Matches : Command → Command → Prop where
  | create {creation other : Creation} :
      creation.Matches other → Matches (.create creation) (.create other)
  | edit (edit : Edit) : Matches (.edit edit) (.edit edit)
  | ask (question : Question) : Matches (.ask question) (.ask question)
  | map (image : Nat) (command : MapCommand) : Matches (.map image command) (.map image command)
  | store (number : Nat) (command : StoreCommand) :
      Matches (.store number command) (.store number command)

/-! ## Sessions side by side -/

/-- Both fail, for the same reason, or what they come to corresponds. -/
inductive Agree {α β : Type} (Same : α → β → Prop) : Except Failure α → Except Failure β → Prop where
  | ok {left : α} {right : β} : Same left right → Agree Same (.ok left) (.ok right)
  | error (failure : Failure) : Agree Same (.error failure) (.error failure)

section

variable {α β γ δ : Type} {Same : α → β → Prop} {Other : γ → δ → Prop}

theorem Agree.bind {left : Except Failure α} {right : Except Failure β} (agree : Agree Same left right)
    {next : α → Except Failure γ} {counterpart : β → Except Failure δ}
    (onward : ∀ first second, Same first second → Agree Other (next first) (counterpart second)) :
    Agree Other (left >>= next) (right >>= counterpart) := by
  cases agree with
  | ok same => exact onward _ _ same
  | error failure => exact .error failure

theorem Agree.bind_same (result : Except Failure α) {next : α → Except Failure γ}
    {counterpart : α → Except Failure δ}
    (onward : ∀ value, Agree Other (next value) (counterpart value)) :
    Agree Other (result >>= next) (result >>= counterpart) := by
  cases result with
  | ok value => exact onward value
  | error failure => exact .error failure

theorem Agree.imp {Weaker : α → β → Prop} {left : Except Failure α} {right : Except Failure β}
    (agree : Agree Same left right) (imp : ∀ {first second}, Same first second → Weaker first second) :
    Agree Weaker left right := by
  cases agree with
  | ok same => exact .ok (imp same)
  | error failure => exact .error failure

theorem find_agree {lefts : List α} {rights : List β} (same : List.Forall₂ Same lefts rights)
    (number : Nat) : Agree Same (find lefts number) (find rights number) := by
  have found := getElem?_rel same number
  unfold find
  generalize lefts[number]? = left at found ⊢
  generalize rights[number]? = right at found ⊢
  cases found with
  | none => exact .error .noSuch
  | some both => exact .ok both

end

structure Twins (left right : Session) : Prop where
  device : left.device.Twins right.device
  views : left.views = right.views
  recorders : left.recorders = right.recorders
  recordings : List.Forall₂ Recording.Twins left.recordings right.recordings
  registries : List.Forall₂ Registry.Twins left.registries right.registries
  stores : left.stores = right.stores
  handles : left.handles = right.handles
  viewIds : left.viewIds = right.viewIds
  recorderIds : left.recorderIds = right.recorderIds
  storeIds : left.storeIds = right.storeIds

structure Answer.Twins (left right : Answer) : Prop where
  reply : left.reply.withoutKinds = right.reply.withoutKinds
  notices : left.notices = right.notices
  session : left.session.Twins right.session

variable {left right : Session}

theorem twins_empty : Session.empty.Twins .empty :=
  ⟨Device.twins_empty, rfl, rfl, .nil, .nil, rfl, rfl, rfl, rfl, rfl⟩

theorem Twins.answer (twins : left.Twins right) {reply other : Reply}
    (replies : reply.withoutKinds = other.withoutKinds) :
    (left.answer reply).Twins (right.answer other) := ⟨replies, rfl, twins⟩

theorem Answer.Twins.settle {answer other : Answer} (answers : answer.Twins other)
    {failure counterpart : Option WordFailure} (same : failure = counterpart) :
    Agree Answer.Twins (Session.settle failure answer) (Session.settle counterpart other) := by
  subst same
  cases failure with
  | none => exact .ok answers
  | some failure => exact .error (.word failure)

theorem Twins.registryOf? (twins : left.Twins right) (target : Target) :
    Agree (Option.Rel Registry.Twins) (left.registryOf? target) (right.registryOf? target) := by
  cases target with
  | registry number =>
    exact (find_agree twins.registries number).bind fun _ _ registries => .ok (.some registries)
  | recording number image =>
    refine (find_agree twins.recordings number).bind fun _ _ recordings => ?_
    rw [← twins.device.images]
    exact .bind_same _ fun image => .ok (recordings.registry? image.id)

theorem Twins.askRegistry (twins : left.Twins right) (target : Target)
    {question counterpart : Registry → Reply}
    (replies : ∀ registry other, registry.Twins other →
      (question registry).withoutKinds = (counterpart other).withoutKinds) :
    Agree Answer.Twins (left.askRegistry target question) (right.askRegistry target counterpart) := by
  refine (twins.registryOf? target).bind fun _ _ registries => .ok (twins.answer ?_)
  cases registries with
  | none => rfl
  | some registries => exact replies _ _ registries

/-- Without kinds, the reply says no more than the report does without its kind. -/
def Forgets (reply : RegistryReport → Reply) : Prop :=
  ∀ {report other : RegistryReport}, report.withoutKind = other.withoutKind →
    (reply report).withoutKinds = (reply other).withoutKinds

theorem replyOf_twins {recording other : Recording} (twins : recording.Twins other) (image : Image)
    {reply : RegistryReport → Reply} (forgets : Forgets reply) :
    (replyOf recording image reply).withoutKinds = (replyOf other image reply).withoutKinds := by
  have found := twins.registry? image.id
  unfold replyOf
  generalize recording.registry? image.id = registry at found ⊢
  generalize other.registry? image.id = counterpart at found ⊢
  cases found with
  | none => rfl
  | some registries => exact forgets registries.report

/-! ## Creating -/

theorem Twins.addRegistry (twins : left.Twins right) {make counterpart : StoreId → Registry}
    (made : ∀ store, (make store).Twins (counterpart store)) :
    Agree Answer.Twins (left.addRegistry make) (right.addRegistry counterpart) := by
  unfold Session.addRegistry
  rw [twins.storeIds]
  have registries := made ⟨right.storeIds.draw.1⟩
  refine Answer.Twins.settle ?_ rfl
  exact ⟨congrArg Reply.registry registries.report, rfl,
    { twins with registries := append_rel twins.registries registries, storeIds := rfl }⟩

theorem Twins.addImage (twins : left.Twins right) (image : Image) {device other : Device}
    (devices : device.Twins other) :
    Agree Answer.Twins (left.addImage image device) (right.addImage image other) := by
  refine Answer.Twins.settle ?_ (congrArg Counter.spent? twins.device.imageIds)
  refine ⟨?_, rfl, { twins with device := devices }⟩
  simp only [Reply.withoutKinds, twins.device.images,
    AdaptiveMap.report_twins (devices.layoutMap image)]

theorem Twins.create (twins : left.Twins right) {creation other : Creation}
    (same : creation.Matches other) :
    Agree Answer.Twins (left.create creation) (right.create other) := by
  cases same with
  | image info threshold other aliased =>
    simp only [Session.create, ← twins.device.images]
    refine .bind_same _ fun aliased => ?_
    by_cases fits : info.addressing.count < UInt64.size
    · rw [dif_pos fits, dif_pos fits]
      cases aliased with
      | none =>
        have devices := twins.device.createImage info fits threshold other
        dsimp only
        rw [← twins.device.createImage_eq info fits threshold other]
        exact twins.addImage _ devices
      | some aliased =>
        obtain ⟨same, devices⟩ := twins.device.createAlias info fits threshold other aliased
        dsimp only
        rw [← same]
        exact twins.addImage _ devices
    · rw [dif_neg fits, dif_neg fits]
      exact .error _
  | view image selector =>
    unfold Session.create
    rw [← twins.device.images, ← twins.viewIds, ← twins.views]
    refine .bind_same _ fun image => .bind_same _ fun spans => ?_
    refine Answer.Twins.settle ?_ rfl
    exact ⟨rfl, rfl, { twins with views := rfl, viewIds := rfl }⟩
  | recorder label =>
    unfold Session.create
    rw [← twins.recorderIds, ← twins.recorders]
    refine Answer.Twins.settle ?_ rfl
    exact ⟨rfl, rfl, { twins with recorders := rfl, recorderIds := rfl }⟩
  | recording recorder threshold other =>
    unfold Session.create
    rw [← twins.recorders]
    refine .bind_same _ fun recorder => .ok ?_
    have recordings := Recording.twins_empty recorder threshold other
    exact ⟨congrArg Reply.recording recordings.report, rfl,
      { twins with recorders := rfl, recordings := append_rel twins.recordings recordings }⟩
  | registry image threshold other =>
    unfold Session.create
    rw [← twins.device.images]
    exact .bind_same _ fun image =>
      twins.addRegistry (Registry.twins_empty image threshold other)
  | emptyLike target =>
    refine (twins.registryOf? target).bind fun _ _ registries => ?_
    cases registries with
    | none => exact .ok (twins.answer rfl)
    | some registries => exact twins.addRegistry registries.emptyLike
  | store =>
    unfold Session.create
    rw [← twins.storeIds, ← twins.stores]
    refine Answer.Twins.settle ?_ rfl
    exact ⟨rfl, rfl, { twins with stores := rfl, storeIds := rfl }⟩

/-! ## Recording -/

theorem Twins.editRegistry (twins : left.Twins right) (number : Nat)
    {operation counterpart : Registry → Registry.Outcome}
    (operated : ∀ {registry other : Registry}, registry.Twins other →
      (operation registry).Twins (counterpart other))
    {reply : Bool → RegistryReport → Reply} (forgets : ∀ changed, Forgets (reply changed)) :
    Agree Answer.Twins (left.editRegistry number operation reply)
      (right.editRegistry number counterpart reply) := by
  refine (find_agree twins.registries number).bind fun _ _ registries => ?_
  have outcomes := operated registries
  refine Answer.Twins.settle ⟨?_, outcomes.notices,
    { twins with registries := set_rel twins.registries number outcomes.registry }⟩ outcomes.failure
  rw [outcomes.changed]
  exact forgets _ outcomes.registry.report

theorem Twins.editRecording (twins : left.Twins right) (number : Nat)
    {operation counterpart : Recording → Counter → Recording.Outcome}
    (operated : ∀ {recording other : Recording} (stores : Counter), recording.Twins other →
      (operation recording stores).Twins (counterpart other stores))
    {reply : Bool → Recording → Reply}
    (forgets : ∀ changed {recording other : Recording}, recording.Twins other →
      (reply changed recording).withoutKinds = (reply changed other).withoutKinds) :
    Agree Answer.Twins (left.editRecording number operation reply)
      (right.editRecording number counterpart reply) := by
  unfold Session.editRecording
  rw [← twins.storeIds]
  refine (find_agree twins.recordings number).bind fun _ _ recordings => ?_
  have outcomes := operated left.storeIds recordings
  refine Answer.Twins.settle ⟨?_, outcomes.notices,
    { twins with
      recordings := set_rel twins.recordings number outcomes.recording
      storeIds := outcomes.stores }⟩ outcomes.failure
  rw [outcomes.changed]
  exact forgets _ outcomes.recording

theorem Twins.editPlace (twins : left.Twins right) (place : Place)
    {alone : Registry → Recorder → Registry.Outcome}
    (operated : ∀ {registry other : Registry} (recorder : Recorder), registry.Twins other →
      (alone registry recorder).Twins (alone other recorder))
    {within : Recording → Image → Counter → Recording.Outcome}
    (recorded : ∀ {recording other : Recording} (image : Image) (stores : Counter),
      recording.Twins other → (within recording image stores).Twins (within other image stores))
    {reply : Bool → RegistryReport → Reply} (forgets : ∀ changed, Forgets (reply changed)) :
    Agree Answer.Twins (left.editPlace place alone within reply)
      (right.editPlace place alone within reply) := by
  cases place with
  | registry number recorder =>
    simp only [Session.editPlace, ← twins.recorders]
    exact .bind_same _ fun recorder => twins.editRegistry number (operated recorder) forgets
  | recording number image =>
    simp only [Session.editPlace, ← twins.device.images]
    refine .bind_same _ fun image => twins.editRecording number (recorded image) ?_
    exact fun changed _ _ recordings => replyOf_twins recordings image (forgets changed)

theorem Twins.edit (twins : left.Twins right) (edit : Edit) :
    Agree Answer.Twins (left.edit edit) (right.edit edit) := by
  cases edit with
  | touch number image =>
    simp only [Session.edit, ← twins.device.images]
    refine .bind_same _ fun image =>
      twins.editRecording number (fun stores recordings => recordings.touch image stores) ?_
    exact fun _ _ _ recordings => replyOf_twins recordings image (congrArg Reply.registry)
  | setLayout place selector layout expected =>
    refine twins.editPlace place ?_ ?_ fun changed => congrArg (Reply.registryWritten changed)
    · exact fun _ registries => registries.setLayout _ _ _ _
    · exact fun _ _ recordings => recordings.setLayout _ _ _ _ _
  | setInitial place selector layout =>
    refine twins.editPlace place ?_ ?_ fun _ => congrArg Reply.registry
    · exact fun _ registries => registries.setInitial _ _ _
    · exact fun _ _ recordings => recordings.setInitial _ _ _ _
  | setInitialFromView number recorder view layout =>
    simp only [Session.edit, ← twins.recorders, ← twins.views]
    refine .bind_same _ fun recorder => .bind_same _ fun view => ?_
    exact twins.editRegistry number (fun registries => registries.setInitialFromView _ _ _)
      fun _ => congrArg Reply.registry
  | recordInitialFromView number view layout =>
    simp only [Session.edit, ← twins.views]
    refine .bind_same _ fun view => twins.editRecording number ?_ ?_
    · exact fun stores recordings => recordings.setInitialFromView view layout stores
    · exact fun _ _ _ recordings => congrArg Reply.recording recordings.report
  | importInto number source =>
    refine (find_agree twins.registries number).bind fun _ _ registries => ?_
    refine (twins.registryOf? source).bind fun _ _ sources => ?_
    cases sources with
    | none => exact .ok (twins.answer rfl)
    | some sources =>
      simp only [registries.key_eq, sources.key_eq]
      exact twins.editRegistry number (fun targets => targets.importFrom sources)
        fun changed => congrArg (Reply.imported _ changed)
  | execute number nested =>
    refine (find_agree twins.recordings nested).bind fun _ _ nestedTwins => ?_
    exact twins.editRecording number (fun stores recordings => recordings.execute nestedTwins stores)
      fun changed _ _ recordings => congrArg (Reply.recordingWritten changed) recordings.report
  | reset number =>
    simp only [Session.edit]
    refine twins.editRecording number ?_ ?_
    · exact fun _ recordings => ⟨recordings.reset, rfl, rfl, rfl, rfl⟩
    · exact fun _ _ _ recordings => congrArg Reply.recording recordings.report

/-! ## Asking -/

theorem Twins.askSearch (twins : left.Twins right) (target : Target)
    {search : Registry → Except WordFailure (Search (Span × LayoutEntry))}
    (same : ∀ registry other : Registry, registry.Twins other → search registry = search other) :
    Agree Answer.Twins (left.askSearch target search) (right.askSearch target search) := by
  refine (twins.registryOf? target).bind fun _ _ registries => ?_
  cases registries with
  | none => exact .ok (twins.answer rfl)
  | @some registry other registries =>
    simp only [same registry other registries, registries.reportEntry]
    exact .bind_same _ fun result => .ok (twins.answer rfl)

theorem Twins.ask (twins : left.Twins right) (question : Question) :
    Agree Answer.Twins (left.ask question) (right.ask question) := by
  cases question with
  | recording number =>
    refine (find_agree twins.recordings number).bind fun _ _ recordings => .ok (twins.answer ?_)
    exact congrArg Reply.recording recordings.report
  | registry target =>
    exact twins.askRegistry target fun _ _ registries => congrArg Reply.registry registries.report
  | search target scope probe =>
    cases scope with
    | selector selector =>
      exact twins.askSearch target fun registry other registries =>
        registries.searchSelector selector _
    | view number =>
      simp only [Session.ask, ← twins.views]
      refine .bind_same _ fun view => .bind_same _ fun sweep => ?_
      exact twins.askSearch target fun registry other registries => registries.searchSweep sweep _
  | entryAt target subresource =>
    refine twins.askRegistry target fun registry other registries => ?_
    rw [registries.entryAt?, registries.reportEntry, registries.snapshots]
  | decode target index =>
    refine twins.askRegistry target fun registry other registries => ?_
    simp only [Registry.decode?, registries.addressing]
  | resolve target index number =>
    refine (find_agree twins.registries number).bind fun _ _ owners => ?_
    refine twins.askRegistry target fun registry other registries => ?_
    rw [registries.layouts.indistinguishable.get?, owners.snapshots]

/-! ## Device-wide maps -/

theorem Twins.mapWritten (twins : left.Twins right) (image : Image)
    {outcome other : Device.Outcome} (outcomes : outcome.Twins other) :
    Agree Answer.Twins (left.mapWritten image outcome) (right.mapWritten image other) := by
  refine Answer.Twins.settle ⟨?_, outcomes.notices, { twins with device := outcomes.device }⟩
    outcomes.failure
  simp only [Reply.withoutKinds, outcomes.changed,
    AdaptiveMap.report_twins (outcomes.device.layoutMap image)]

theorem Twins.runMap (twins : left.Twins right) (image : Image) (command : MapCommand) :
    Agree Answer.Twins (left.runMap image command) (right.runMap image command) := by
  have maps := twins.device.layoutMap image
  cases command with
  | setLayout selector layout =>
    exact twins.mapWritten image (twins.device.setLayout image selector layout)
  | setSpan span layout =>
    exact twins.mapWritten image (twins.device.setSpans image [span] layout)
  | setViewSpans view layout =>
    simp only [Session.runMap, ← twins.views]
    exact .bind_same _ fun view =>
      twins.mapWritten image (twins.device.setSwept image view.swept layout)
  | abandonWrite span layout =>
    have written := maps.overwrite? span layout
    exact .ok ⟨congrArg Reply.abandoned (AdaptiveMap.report_twins written), rfl,
      { twins with device := twins.device.putMap image written }⟩
  | layoutOf subresource =>
    refine .ok (twins.answer ?_)
    rw [twins.device.layoutOf?]
  | layoutAt index =>
    refine .ok (twins.answer ?_)
    rw [twins.device.layoutAt?, maps.limit]
  | «show» => exact .ok (twins.answer (congrArg Reply.map (AdaptiveMap.report_twins maps)))
  | search scope probe =>
    cases scope with
    | span span =>
      simp only [Session.runMap, twins.device.searchSpan]
      exact .ok (twins.answer rfl)
    | selector selector =>
      simp only [Session.runMap, twins.device.searchSelector]
      exact .bind_same _ fun result => .ok (twins.answer rfl)

/-! ## Commands -/

theorem Twins.runStore (twins : left.Twins right) (number : Nat) (store : SnapshotStore)
    (command : StoreCommand) :
    Agree Answer.Twins (left.runStore number store command)
      (right.runStore number store command) := by
  cases command with
  | push recorder view =>
    simp only [Session.runStore, ← twins.recorders, ← twins.views, ← twins.stores, ← twins.handles]
    refine .bind_same _ fun recorder => .bind_same _ fun view => ?_
    cases store.push (.take recorder view) with
    | error error => exact .error .storeExhausted
    | ok pushed =>
      exact .ok ⟨rfl, rfl,
        { twins with views := rfl, recorders := rfl, stores := rfl, handles := rfl }⟩
  | get handle =>
    simp only [Session.runStore, ← twins.handles]
    exact .bind_same _ fun handle => .ok (twins.answer rfl)

theorem Twins.step (twins : left.Twins right) {command other : Command}
    (same : command.Matches other) : Agree Answer.Twins (left.step command) (right.step other) := by
  cases same with
  | create creations => exact twins.create creations
  | edit edit => exact twins.edit edit
  | ask question => exact twins.ask question
  | map image command =>
    simp only [Session.step, ← twins.device.images]
    exact .bind_same _ fun image => twins.runMap image command
  | store number command =>
    simp only [Session.step, ← twins.stores]
    exact .bind_same _ fun store => twins.runStore number store command

/-! ## Runs -/

/-- The session after all of the commands, if none fails. -/
def after (session : Session) : List Command → Except Failure Session
  | [] => .ok session
  | command :: rest => do (← session.step command).session.after rest

def withoutKinds : Except Failure (Reply × List Notice) → Except Failure (Reply × List Notice)
  | .ok (reply, notices) => .ok (reply.withoutKinds, notices)
  | .error failure => .error failure

variable {commands others : List Command}

theorem Twins.run (twins : left.Twins right) (same : List.Forall₂ Command.Matches commands others) :
    (left.run commands).map withoutKinds = (right.run others).map withoutKinds := by
  induction same generalizing left right with
  | nil => rfl
  | @cons command other rest others first _ ih =>
    have steps := twins.step first
    unfold Session.run
    generalize left.step command = answer at steps ⊢
    generalize right.step other = counterpart at steps ⊢
    cases steps with
    | error failure => rfl
    | ok answers =>
      simp only [List.map_cons, withoutKinds, answers.reply, answers.notices]
      exact congrArg _ (ih answers.session)

theorem Twins.after (twins : left.Twins right)
    (same : List.Forall₂ Command.Matches commands others) :
    Agree Twins (left.after commands) (right.after others) := by
  induction same generalizing left right with
  | nil => exact .ok twins
  | cons first _ ih => exact (twins.step first).bind fun _ _ answers => ih answers.session

end Session

/-! ## What cannot be told apart -/

/-- No search and no other question tells the registries apart. -/
structure Registry.Indistinguishable (left right : Registry) : Prop where
  image : left.image = right.image
  addressing : left.addressing = right.addressing
  snapshots : left.snapshots = right.snapshots
  layouts : SpanMap.Indistinguishable left.layouts right.layouts
  /-- The predicate is asked about the same entries, in the same order. -/
  searchSweep : ∀ sweep holds, left.searchSweep sweep holds = right.searchSweep sweep holds
  searchSelector : ∀ selector holds,
    left.searchSelector selector holds = right.searchSelector selector holds

/-- The same of the maps of all images. -/
structure Device.Indistinguishable (left right : Device) : Prop where
  images : left.images = right.images
  layoutMap : ∀ image, SpanMap.Indistinguishable (left.layoutMap image) (right.layoutMap image)
  searchSpan : ∀ image query holds,
    left.searchSpan image query holds = right.searchSpan image query holds
  searchSweep : ∀ image sweep holds,
    left.searchSweep image sweep holds = right.searchSweep image sweep holds

theorem Registry.Twins.indistinguishable {left right : Registry} (twins : left.Twins right) :
    left.Indistinguishable right :=
  ⟨twins.image, twins.addressing, twins.snapshots, twins.layouts.indistinguishable,
    twins.searchSweep, twins.searchSelector⟩

theorem Device.Twins.indistinguishable {left right : Device} (twins : left.Twins right) :
    left.Indistinguishable right :=
  ⟨twins.images, fun image => (twins.layoutMap image).indistinguishable, twins.searchSpan,
    twins.searchSweep⟩

namespace Session

variable {left right : Session} {commands others : List Command}

structure Indistinguishable (left right : Session) : Prop where
  device : left.device.Indistinguishable right.device
  registryOf? : ∀ target, Agree (Option.Rel Registry.Indistinguishable) (left.registryOf? target)
    (right.registryOf? target)
  stores : left.stores = right.stores

theorem Twins.indistinguishable (twins : left.Twins right) : left.Indistinguishable right := by
  refine ⟨twins.device.indistinguishable, fun target => ?_, twins.stores⟩
  refine (twins.registryOf? target).imp fun found => ?_
  cases found with
  | none => exact .none
  | some registries => exact .some registries.indistinguishable

/-- However the thresholds are chosen each time something is created: all replies are the same but for
the kinds of maps in them, and what there is in the end cannot be told apart. -/
theorem thresholds_unobservable (same : List.Forall₂ Command.Matches commands others) :
    (Session.empty.run commands).map withoutKinds = (Session.empty.run others).map withoutKinds ∧
      Agree Indistinguishable (Session.empty.after commands) (Session.empty.after others) :=
  ⟨twins_empty.run same, (twins_empty.after same).imp Twins.indistinguishable⟩

/-- A recording executes another, and a registry that stands alone imports what it knows then: once
all maps are flat, and once kinds meet in every import. -/
theorem thresholds_unobservable_of_mixed_kinds :
    let commands (image recording nested registry : Nat) : List Command :=
      [.create (.image ⟨⟨3⟩, 2, 3, .undefined, none⟩ image none), .create (.recorder none),
        .create (.recording 0 recording), .create (.recording 0 nested),
        .create (.registry 0 registry),
        .edit (.setLayout (.recording 0 0) ⟨⟨1⟩, 0, 1, 0, 2⟩ .general none),
        .edit (.setLayout (.recording 1 0) ⟨⟨1⟩, 0, 2, 1, 1⟩ .presentSrc none),
        .edit (.execute 0 1), .edit (.importInto 0 (.recording 0 0)),
        .create (.emptyLike (.registry 0)), .map 0 (.setLayout (.all ⟨2⟩) .general),
        .ask (.search (.registry 0) (.selector (.all ⟨3⟩)) .always)]
    (Session.empty.run (commands 16 16 16 16)).map withoutKinds =
        (Session.empty.run (commands 0 16 4 0)).map withoutKinds ∧
      (∃ session, Session.empty.after (commands 16 16 16 16) = .ok session) ∧
      Agree Indistinguishable (Session.empty.after (commands 16 16 16 16))
        (Session.empty.after (commands 0 16 4 0)) := by
  intro commands
  have same : List.Forall₂ Command.Matches (commands 16 16 16 16) (commands 0 16 4 0) :=
    .cons (.create (.image _ _ _ _)) <| .cons (.create (.recorder _)) <|
    .cons (.create (.recording _ _ _)) <| .cons (.create (.recording _ _ _)) <|
    .cons (.create (.registry _ _ _)) <| .cons (.edit _) <| .cons (.edit _) <| .cons (.edit _) <|
    .cons (.edit _) <| .cons (.create (.emptyLike _)) <| .cons (.map 0 _) <|
    .cons (.ask _) .nil
  have succeeds : (Session.empty.after (commands 16 16 16 16)).isOk = true := by decide +kernel
  obtain ⟨replies, sessions⟩ := thresholds_unobservable same
  refine ⟨replies, ?_, sessions⟩
  cases ended : Session.empty.after (commands 16 16 16 16) with
  | ok session => exact ⟨session, rfl⟩
  | error failure =>
    rw [ended] at succeeds
    cases succeeds

end Session

end LayoutTracking
