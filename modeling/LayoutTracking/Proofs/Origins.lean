import LayoutTracking.Proofs.Importing
import LayoutTracking.Proofs.Recordings

/-!
# Origins

An entry is settled when its subresource becomes known: from then on its initial layout and its
snapshot stay, and so does that there is a current layout. What they are was said by the request that
met the gap, or by the entry that an import copied into it.
-/

set_option autoImplicit false

namespace LayoutTracking

/-- How a subresource became known, with the snapshot itself in the place of its handle. -/
structure Origin where
  initial : Option ImageLayout
  snapshot : Option Snapshot
deriving DecidableEq

/-- The later entry has been settled as the earlier one was, and has a current layout if that had
one. -/
structure LayoutEntry.Persists (earlier later : LayoutEntry) : Prop where
  initial : later.initial = earlier.initial
  snapshot : later.snapshot = earlier.snapshot
  current : earlier.current.isSome = true → later.current.isSome = true

theorem LayoutEntry.Persists.refl (entry : LayoutEntry) : entry.Persists entry := ⟨rfl, rfl, id⟩

theorem LayoutEntry.Persists.trans {first second third : LayoutEntry}
    (earlier : first.Persists second) (later : second.Persists third) : first.Persists third :=
  ⟨later.initial.trans earlier.initial, later.snapshot.trans earlier.snapshot,
    later.current ∘ earlier.current⟩

theorem LayoutEntry.persists_current (entry : LayoutEntry) (layout : Option ImageLayout) :
    entry.Persists { entry with current := layout <|> entry.current } := by
  refine ⟨rfl, rfl, ?_⟩
  intro isSome
  cases layout with
  | none => exact isSome
  | some layout => rfl

namespace Registry

def origin? (registry : Registry) (index : Nat) : Option Origin :=
  (registry.known? index).map fun entry =>
    ⟨entry.initial, entry.snapshot.bind registry.snapshots.get?⟩

variable {before after registry source : Registry}

theorem origin?_eq_none {index : Nat} (unknown : registry.known? index = none) :
    registry.origin? index = none := by
  rw [origin?, unknown]
  rfl

/-! ## What a registry retains -/

/-- The later registry knows what the earlier one knew, and resolves the handles that it did. -/
structure Retains (before after : Registry) : Prop where
  snapshots : after.snapshots.Extends before.snapshots
  entries : ∀ index entry, before.known? index = some entry →
    ∃ later, after.known? index = some later ∧ entry.Persists later

theorem Retains.refl (registry : Registry) : registry.Retains registry :=
  ⟨.refl _, fun _ entry known => ⟨entry, known, .refl entry⟩⟩

theorem Retains.trans {middle : Registry} (earlier : before.Retains middle)
    (later : middle.Retains after) : before.Retains after := by
  refine ⟨later.snapshots.trans earlier.snapshots, ?_⟩
  intro index entry known
  obtain ⟨between, isBetween, persists⟩ := earlier.entries index entry known
  obtain ⟨last, isLast, onward⟩ := later.entries index between isBetween
  exact ⟨last, isLast, persists.trans onward⟩

theorem Retains.of_revised (sound : before.Sound)
    (snapshots : after.snapshots.Extends before.snapshots)
    {change : Nat → Option LayoutEntry → Option LayoutEntry}
    (revised : SpanMap.Revised before.layouts after.layouts LayoutEntry.IsSettled change)
    (persists : ∀ index entry, ∃ later, change index (some entry) = some later ∧
      entry.Persists later) : before.Retains after := by
  refine ⟨snapshots, ?_⟩
  intro index entry known
  obtain ⟨tiles, holds⟩ := sound.holds
  obtain ⟨later, isLater, persists⟩ := persists index entry
  refine ⟨later, ?_, persists⟩
  have value := revised.value index (SpanMap.lt_limit_of_value? holds known)
  exact value.trans ((congrArg (change index) known).trans isLater)

theorem Filled.retains {template : LayoutEntry} {snapshot : Snapshot} {spans : List Span}
    {handle : Option SnapshotId} (filled : Filled before after template snapshot spans handle)
    (sound : before.Sound) : before.Retains after := by
  refine .of_revised sound filled.snapshots filled.revised ?_
  intro index entry
  by_cases covered : ∃ span ∈ spans, index ∈ span
  · rw [if_pos covered]
    exact ⟨_, rfl, entry.persists_current template.current⟩
  · rw [if_neg covered]
    exact ⟨entry, rfl, .refl entry⟩

theorem Imported.retains {copyOf : SnapshotId → Option SnapshotId}
    (imported : Imported before after source.snapshots (SpanMap.entries source.layouts) copyOf)
    (sound : before.Sound) (sourceSound : source.Sound) : before.Retains after := by
  refine .of_revised sound imported.snapshots imported.revised ?_
  intro index entry
  rw [sourceSound.foldl_imported]
  cases source.known? index with
  | none => exact ⟨entry, rfl, .refl entry⟩
  | some other => exact ⟨_, rfl, entry.persists_current other.current⟩

theorem Sound.answers_retains (sound : registry.Sound) {template : LayoutEntry} {outcome : Outcome}
    (initial : template.initial.isSome = true) (answers : registry.Answers template outcome)
    (room : outcome.FoundRoom) : registry.Retains outcome.registry := by
  cases answers with
  | filled snapshot swept =>
    obtain ⟨handle, filled⟩ := sound.fill_filled initial room
    exact filled.retains sound
  | setAside notice _ => exact .refl registry

theorem Sound.importFrom_retains (sound : registry.Sound) (sourceSound : source.Sound)
    (room : (registry.importFrom source).FoundRoom) :
    registry.Retains (registry.importFrom source).registry := by
  by_cases compatible : registry.key = source.key
  · obtain ⟨copyOf, imported⟩ := sound.importFrom_imported sourceSound compatible room
    exact imported.retains sound sourceSound
  · rw [importFrom_of_ne compatible]
    exact .refl registry

theorem IsOperation.retains {operation : Registry → Outcome} (isOperation : IsOperation operation)
    (sound : registry.Sound) (room : (operation registry).FoundRoom) :
    registry.Retains (operation registry).registry := by
  cases isOperation with
  | look => exact .refl registry
  | setLayout => exact sound.answers_retains rfl (fillSelector_answers _ _ _ _ _) room
  | setInitial => exact sound.answers_retains rfl (fillSelector_answers _ _ _ _ _) room
  | setInitialFromView => exact sound.answers_retains rfl (setInitialFromView_answers _ _ _ _) room
  | importFrom sourceReachable => exact sound.importFrom_retains sourceReachable.sound room

theorem IsOperation.reachable {operation : Registry → Outcome} (isOperation : IsOperation operation)
    (reachable : registry.Reachable) (room : (operation registry).FoundRoom) :
    (operation registry).registry.Reachable := by
  cases isOperation with
  | look => exact reachable
  | setLayout => exact .setLayout _ _ _ _ reachable room
  | setInitial => exact .setInitial _ _ _ reachable room
  | setInitialFromView => exact .setInitialFromView _ _ _ reachable room
  | importFrom sourceReachable => exact .importFrom reachable sourceReachable room

/-! ## Where origins come from -/

/-- What can be done with a registry while it is lent out. -/
inductive Use where
  | look
  | setLayout (recorder : Recorder) (selector : Selector) (layout : ImageLayout)
      (expected : Option ImageLayout)
  | setInitial (recorder : Recorder) (selector : Selector) (layout : ImageLayout)
  | setInitialFromView (recorder : Recorder) (layout : ImageLayout) (view : View)
  | importFrom (source : Registry)

namespace Use

def apply : Use → Registry → Outcome
  | .look => fun registry => ⟨registry, false, [], none⟩
  | .setLayout recorder selector layout expected => (·.setLayout recorder selector layout expected)
  | .setInitial recorder selector layout => (·.setInitial recorder selector layout)
  | .setInitialFromView recorder layout view => (·.setInitialFromView recorder layout view)
  | .importFrom source => (·.importFrom source)

def Allowed : Use → Prop
  | .importFrom source => source.Reachable
  | _ => True

/-- Whatever the use makes known at the index has the origin. -/
def Gives (index : Nat) (origin : Origin) : Use → Prop
  | .look => False
  | .setLayout recorder _ layout expected =>
    origin = ⟨some (expected.getD layout), some (.take recorder none)⟩
  | .setInitial recorder _ layout => origin = ⟨some layout, some (.take recorder none)⟩
  | .setInitialFromView recorder layout view =>
    origin = ⟨some layout, some (.take recorder (some view))⟩
  | .importFrom source => source.origin? index = some origin

theorem Allowed.isOperation {use : Use} (allowed : use.Allowed) : IsOperation use.apply := by
  cases use with
  | look => exact .look
  | setLayout recorder selector layout expected => exact .setLayout recorder selector layout expected
  | setInitial recorder selector layout => exact .setInitial recorder selector layout
  | setInitialFromView recorder layout view => exact .setInitialFromView recorder layout view
  | importFrom source => exact .importFrom allowed

end Use

variable {index : Nat} {origin : Origin}

theorem Filled.origin_eq {template : LayoutEntry} {snapshot : Snapshot} {spans : List Span}
    {handle : Option SnapshotId} (filled : Filled before after template snapshot spans handle)
    (unknown : before.known? index = none) (isOrigin : after.origin? index = some origin) :
    origin = ⟨template.initial, some snapshot⟩ := by
  obtain ⟨entry, known, rfl⟩ := Option.map_eq_some_iff.mp isOrigin
  have change := filled.revised.change_eq known
  rw [show SpanMap.value? before.layouts index = none from unknown] at change
  split at change
  · obtain rfl := Option.some.inj change
    obtain ⟨issued, isIssued⟩ :=
      Option.isSome_iff_exists.mp (filled.revised.good index _ known).2
    obtain rfl : handle = some issued := isIssued
    exact congrArg (Origin.mk template.initial) (filled.issued issued rfl).2
  · cases change

theorem Sound.fill_origin_eq (sound : registry.Sound) {template : LayoutEntry}
    {snapshot : Snapshot} {swept : Swept} (initial : template.initial.isSome = true)
    (room : (registry.fill template snapshot swept).FoundRoom)
    (unknown : registry.known? index = none)
    (isOrigin : (registry.fill template snapshot swept).registry.origin? index = some origin) :
    origin = ⟨template.initial, some snapshot⟩ := by
  obtain ⟨handle, filled⟩ := sound.fill_filled initial room
  exact filled.origin_eq unknown isOrigin

theorem Sound.fillSelector_origin_eq (sound : registry.Sound) {recorder : Recorder}
    {selector : Selector} {template : LayoutEntry} {request : Request}
    (initial : template.initial.isSome = true)
    (room : (registry.fillSelector recorder selector template request).FoundRoom)
    (unknown : registry.known? index = none)
    (isOrigin : (registry.fillSelector recorder selector template request).registry.origin? index =
      some origin) : origin = ⟨template.initial, some (.take recorder none)⟩ := by
  by_cases admitted : registry.addressing.admits (registry.addressing.normalize selector) = true
  · simp only [fillSelector, if_pos admitted] at room isOrigin
    exact sound.fill_origin_eq initial room unknown isOrigin
  · simp only [fillSelector, if_neg admitted, setAside] at isOrigin
    rw [origin?_eq_none unknown] at isOrigin
    cases isOrigin

theorem Sound.setInitialFromView_origin_eq (sound : registry.Sound) {recorder : Recorder}
    {layout : ImageLayout} {view : View}
    (room : (registry.setInitialFromView recorder layout view).FoundRoom)
    (unknown : registry.known? index = none)
    (isOrigin : (registry.setInitialFromView recorder layout view).registry.origin? index =
      some origin) : origin = ⟨some layout, some (.take recorder (some view))⟩ := by
  by_cases shown : view.image.id = registry.image
  · simp only [setInitialFromView, if_pos shown] at room isOrigin
    exact sound.fill_origin_eq rfl room unknown isOrigin
  · simp only [setInitialFromView, if_neg shown, setAside] at isOrigin
    rw [origin?_eq_none unknown] at isOrigin
    cases isOrigin

/-- A copy of a snapshot says the same as the snapshot itself. -/
theorem Sound.importFrom_origin (sound : registry.Sound) (sourceSound : source.Sound)
    (room : (registry.importFrom source).FoundRoom) (unknown : registry.known? index = none)
    (isOrigin : (registry.importFrom source).registry.origin? index = some origin) :
    source.origin? index = some origin := by
  by_cases compatible : registry.key = source.key
  · obtain ⟨copyOf, imported⟩ := sound.importFrom_imported sourceSound compatible room
    obtain ⟨entry, known, rfl⟩ := Option.map_eq_some_iff.mp isOrigin
    have change := imported.revised.change_eq known
    rw [sourceSound.foldl_imported, show SpanMap.value? registry.layouts index = none from unknown]
      at change
    cases told : source.known? index with
    | none =>
      rw [told] at change
      cases change
    | some other =>
      rw [told] at change
      obtain rfl := Option.some.inj change
      obtain ⟨copy, isCopy⟩ := Option.isSome_iff_exists.mp (imported.revised.good index _ known).2
      obtain ⟨original, isOriginal, copied⟩ := Option.bind_eq_some_iff.mp isCopy
      obtain ⟨snapshot, inSource, inStore⟩ := imported.resolves original copy copied
      simp [origin?, told, Registry.imported, isOriginal, copied, inSource, inStore]
  · rw [importFrom_of_ne compatible, setAside, origin?_eq_none unknown] at isOrigin
    cases isOrigin

theorem Use.gives {use : Use} (allowed : use.Allowed) (sound : registry.Sound)
    (room : (use.apply registry).FoundRoom) (unknown : registry.known? index = none)
    (isOrigin : (use.apply registry).registry.origin? index = some origin) :
    use.Gives index origin := by
  cases use with
  | look =>
    simp only [Use.apply, origin?_eq_none unknown] at isOrigin
    cases isOrigin
  | setLayout => exact sound.fillSelector_origin_eq rfl room unknown isOrigin
  | setInitial => exact sound.fillSelector_origin_eq rfl room unknown isOrigin
  | setInitialFromView => exact sound.setInitialFromView_origin_eq room unknown isOrigin
  | importFrom source => exact sound.importFrom_origin allowed.sound room unknown isOrigin

end Registry

end LayoutTracking
