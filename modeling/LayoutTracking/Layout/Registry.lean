import LayoutTracking.Layout.Entry
import LayoutTracking.Layout.Notice
import LayoutTracking.SpanMap.Adaptive
import LayoutTracking.SpanMap.Update
import LayoutTracking.Subresource.SweepSearch

/-!
# Registries

A registry holds what one recording knows of one image: a layout entry for every subresource that
the recording has touched, and the snapshots that these entries refer to.
-/

set_option autoImplicit false

namespace LayoutTracking

structure Registry where
  image : ImageId
  addressing : Addressing
  layouts : AdaptiveMap LayoutEntry
  snapshots : SnapshotStore
  fits : addressing.count < UInt64.size

namespace Registry

/-- What became of an operation. If the sweep behind it failed, what was done before stands. -/
structure Outcome where
  registry : Registry
  /-- Whether an entry moved, or a subresource became known. -/
  changed : Bool
  notices : List Notice
  failure : Option WordFailure

def empty (image : Image) (threshold : Nat) (store : StoreId) : Registry where
  image := image.id
  addressing := image.addressing
  layouts := .empty image.addressing.count threshold
  snapshots := .empty store
  fits := image.fits

instance : Inhabited Registry := ⟨.empty default 0 default⟩

instance : Inhabited Outcome := ⟨⟨default, false, [], none⟩⟩

/-- A registry of the same image and the same kind of map that knows nothing. -/
def emptyLike (registry : Registry) (store : StoreId) : Registry :=
  { registry with layouts := registry.layouts.emptied, snapshots := .empty store }

def key (registry : Registry) : CompatibilityKey := ⟨registry.image, registry.addressing.mask⟩

def setAside (registry : Registry) (notice : Notice) : Outcome :=
  ⟨registry, false, [notice], none⟩

/-! ## Recording layouts -/

/-- What one request carries from offer to offer: the store, and the handle of the request's own
snapshot once it was asked for (which may have failed). -/
structure Filling where
  store : SnapshotStore
  handle : Option (Option SnapshotId)
  notices : List Notice
deriving Inhabited

def Filling.ask (filling : Filling) (snapshot : Snapshot) : Filling :=
  match filling.handle with
  | some _ => filling
  | none =>
    match filling.store.push snapshot with
    | .ok (handle, store) => { filling with store, handle := some (some handle) }
    | .error error =>
      { filling with handle := some none, notices := filling.notices ++ [.notRecorded error] }

/-- The request's entry, with the handle of its snapshot if there is one. -/
def Filling.entry (filling : Filling) (template : LayoutEntry) : LayoutEntry :=
  { template with snapshot := filling.handle.join }

/-- Fills gaps with the request's entry, and moves the current layout of what is known. Only a gap
takes a snapshot, and all gaps of a request take the same. -/
def filler (template : LayoutEntry) (snapshot : Snapshot) : Updater LayoutEntry Filling where
  insert _ filling :=
    let filling := filling.ask snapshot
    (some (filling.entry template), filling)
  update existing filling :=
    if existing.movesTo template.current then
      (some (existing.merge (filling.entry template)), filling)
    else
      (none, filling)

def fill (registry : Registry) (template : LayoutEntry) (snapshot : Snapshot) (swept : Swept) :
    Outcome :=
  let walk := (filler template snapshot).runAll swept.spans
    (.start registry.layouts .fresh ⟨registry.snapshots, none, []⟩)
  { registry := { registry with layouts := walk.map, snapshots := walk.state.store }
    changed := walk.changed
    notices := walk.state.notices
    failure := swept.failure }

/-- Runs a request over what a selector covers, unless it does not fit the image. -/
def fillSelector (registry : Registry) (recorder : Recorder) (selector : Selector)
    (template : LayoutEntry) (request : Request) : Outcome :=
  let selector := registry.addressing.normalize selector
  if registry.addressing.admits selector then
    registry.fill template (.take recorder none) (.ofSelector registry.addressing selector)
  else
    registry.setAside (.outOfRange request registry.image selector)

/-- Records a transition into `layout`. What the recording sees here for the first time must have
been in the expected layout when it started, or already in `layout` if none is expected. -/
def setLayout (registry : Registry) (recorder : Recorder) (selector : Selector)
    (layout : ImageLayout) (expected : Option ImageLayout) : Outcome :=
  registry.fillSelector recorder selector ⟨some (expected.getD layout), some layout, none⟩
    .transition

/-- Records the layout that subresources must be in when the recording starts. What is known
already stays as it is. -/
def setInitial (registry : Registry) (recorder : Recorder) (selector : Selector)
    (layout : ImageLayout) : Outcome :=
  registry.fillSelector recorder selector ⟨some layout, none, none⟩ .initialLayout

/-- Records the initial layout of what a view shows, and the view with it. A view of another image
is ignored. -/
def setInitialFromView (registry : Registry) (recorder : Recorder) (layout : ImageLayout)
    (view : View) : Outcome :=
  if view.image.id = registry.image then
    registry.fill ⟨some layout, none, none⟩ (.take recorder (some view)) view.swept
  else
    registry.setAside (.foreignView view.id view.image.id registry.image)

/-! ## Importing -/

/-- What an import carries along: the store that takes the copies, and for each handle of the
source that was met what became of it. -/
structure Importing where
  store : SnapshotStore
  copies : List (SnapshotId × Option SnapshotId)
  notices : List Notice
deriving Inhabited

/-- The handle of the copy of a source snapshot, which is made where there is none yet. -/
def Importing.copy (importing : Importing) (source : SnapshotStore) (handle : SnapshotId) :
    Option SnapshotId × Importing :=
  match importing.copies.lookup handle with
  | some copied => (copied, importing)
  | none =>
    let settled (copied : Option SnapshotId) := (handle, copied) :: importing.copies
    match source.get? handle with
    | none => (none, { importing with copies := settled none })
    | some snapshot =>
      match importing.store.push snapshot with
      | .ok (copied, store) =>
        (some copied, { importing with store, copies := settled (some copied) })
      | .error error =>
        (none, { importing with
          copies := settled none, notices := importing.notices ++ [.notCopied error] })

/-- The handle of the copy, if the source entry has a snapshot at all. -/
def Importing.copy? (importing : Importing) (source : SnapshotStore)
    (handle : Option SnapshotId) : Option SnapshotId × Importing :=
  match handle with
  | none => (none, importing)
  | some handle => importing.copy source handle

/-- Merges one source entry. Its snapshot is copied for a gap, and for an entry without one. -/
def importer (source : SnapshotStore) (entry : LayoutEntry) : Updater LayoutEntry Importing where
  insert _ importing :=
    let (snapshot, importing) := importing.copy? source entry.snapshot
    (some { entry with snapshot }, importing)
  update existing importing :=
    let (snapshot, importing) :=
      if existing.snapshot.isSome then (none, importing)
      else importing.copy? source entry.snapshot
    let merged := existing.merge { entry with snapshot }
    (if merged = existing then none else some merged, importing)

/-- Merges everything that `source` knows, if its key is the same. -/
def importFrom (registry source : Registry) : Outcome :=
  if registry.key = source.key then
    let walk := splice source.layouts
      (fun entry importing => (importer source.snapshots entry, importing))
      (.start registry.layouts .fresh (⟨registry.snapshots, [], []⟩ : Importing))
    { registry := { registry with layouts := walk.map, snapshots := walk.state.store }
      changed := walk.changed
      notices := walk.state.notices
      failure := none }
  else
    registry.setAside (.incompatible source.key registry.key)

/-! ## Questions -/

def searchSweep (registry : Registry) (sweep : Sweep)
    (holds : Span × LayoutEntry → Bool) : Except WordFailure (Search (Span × LayoutEntry)) :=
  sweep.search fun span => SpanMap.search registry.layouts span holds

/-- Looks through what is known of the subresources that a selector covers. -/
def searchSelector (registry : Registry) (selector : Selector)
    (holds : Span × LayoutEntry → Bool) : Except WordFailure (Search (Span × LayoutEntry)) := do
  let sweep ← Sweep.ofSelector registry.addressing (registry.addressing.normalize selector)
  registry.searchSweep sweep holds

def decode? (registry : Registry) (index : Nat) : Option Subresource :=
  registry.addressing.decode? index

def entryAt? (registry : Registry) (subresource : Subresource) : Option (Span × LayoutEntry) :=
  if registry.addressing.admitsSubresource subresource then
    SpanMap.get? registry.layouts (registry.addressing.encode subresource)
  else
    none

end Registry

end LayoutTracking
