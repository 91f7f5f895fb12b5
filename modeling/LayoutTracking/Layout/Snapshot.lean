import LayoutTracking.Layout.Image

/-!
# Snapshots

A snapshot says who first settled the layout that some subresources must be in when a recording
starts. Snapshots are kept in a store that only grows. A handle names the store that issued it and
a place there, and resolves in no store of another identity.
-/

set_option autoImplicit false

namespace LayoutTracking

structure Snapshot where
  recorder : RecorderId
  /-- The label that was active on the recorder. -/
  label : Option String
  /-- The view through which the layout came, if any. -/
  view : Option ViewId
  /-- The aspects of that view; none without one. -/
  aspects : Aspects
deriving DecidableEq, Inhabited

def Snapshot.take (recorder : Recorder) (view : Option View) : Snapshot where
  recorder := recorder.id
  label := recorder.label
  view := view.map (·.id)
  aspects := view.elim .empty (·.selector.aspects)

structure SnapshotId where
  store : StoreId
  index : UInt32
deriving DecidableEq, Repr, Inhabited

inductive SnapshotError where
  /-- Every place that a handle can name is taken. -/
  | exhausted
deriving DecidableEq, Repr, Inhabited

def SnapshotError.message : SnapshotError → String
  | .exhausted => "snapshot storage has no handles left"

structure SnapshotStore where
  id : StoreId
  snapshots : Array Snapshot
deriving Inhabited

namespace SnapshotStore

def empty (id : StoreId) : SnapshotStore := ⟨id, #[]⟩

/-- The largest place is never handed out, so a store holds one snapshot less than there are
numbers of 32 bits. -/
def capacity : Nat := UInt32.size - 1

def push (store : SnapshotStore) (snapshot : Snapshot) :
    Except SnapshotError (SnapshotId × SnapshotStore) :=
  if store.snapshots.size < capacity then
    .ok (⟨store.id, UInt32.ofNat store.snapshots.size⟩,
      { store with snapshots := store.snapshots.push snapshot })
  else
    .error .exhausted

def owns (store : SnapshotStore) (handle : SnapshotId) : Bool := handle.store == store.id

def get? (store : SnapshotStore) (handle : SnapshotId) : Option Snapshot :=
  if store.owns handle then store.snapshots[handle.index.toNat]? else none

end SnapshotStore

end LayoutTracking
