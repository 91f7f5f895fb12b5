import LayoutTracking.Layout.Device
import LayoutTracking.Layout.Recording

/-!
# Reports

What can be seen of registries, recordings and device-wide maps: plain data, in a fixed order.
Identities are reported as numbers from zero, in the order in which they were drawn.
-/

set_option autoImplicit false

namespace LayoutTracking

def numberOf (identity : UInt32) : Nat := identity.toNat - 1

structure SnapshotReport where
  recorder : Nat
  label : Option String
  view : Option Nat
  aspects : Aspects
deriving DecidableEq, Inhabited

/-- How the handle of an entry looks from the entry's own registry. -/
inductive HandleReport where
  | absent
  | place (index : Nat)
  /-- The handle does not resolve here. -/
  | foreign
deriving DecidableEq, Repr, Inhabited

structure EntryReport where
  span : Span
  initial : Option ImageLayout
  current : Option ImageLayout
  handle : HandleReport
deriving DecidableEq, Inhabited

structure RegistryReport where
  image : Nat
  isFlat : Bool
  limit : Nat
  size : Nat
  revision : Nat
  entries : List EntryReport
  snapshots : List SnapshotReport
deriving DecidableEq, Inhabited

structure RecordingReport where
  recorder : Nat
  label : Option String
  size : Nat
  isEmpty : Bool
  /-- In ascending order of the images. -/
  registries : List RegistryReport
deriving DecidableEq, Inhabited

structure MapReport where
  isFlat : Bool
  limit : Nat
  revision : Nat
  entries : List (Span × ImageLayout)
deriving DecidableEq, Inhabited

structure StoreReport where
  size : Nat
  isEmpty : Bool
  snapshots : List SnapshotReport
deriving DecidableEq, Inhabited

def Snapshot.report (snapshot : Snapshot) : SnapshotReport where
  recorder := numberOf snapshot.recorder.value
  label := snapshot.label
  view := snapshot.view.map (numberOf ·.value)
  aspects := snapshot.aspects

def SnapshotStore.report (store : SnapshotStore) : StoreReport where
  size := store.snapshots.size
  isEmpty := store.snapshots.isEmpty
  snapshots := store.snapshots.toList.map Snapshot.report

def SnapshotStore.reportHandle (store : SnapshotStore) :
    Option SnapshotId → HandleReport
  | none => .absent
  | some handle => if (store.get? handle).isSome then .place handle.index.toNat else .foreign

def Registry.reportEntry (registry : Registry) (entry : Span × LayoutEntry) : EntryReport where
  span := entry.1
  initial := entry.2.initial
  current := entry.2.current
  handle := registry.snapshots.reportHandle entry.2.snapshot

def Registry.report (registry : Registry) : RegistryReport where
  image := numberOf registry.image.value
  isFlat := registry.layouts.isFlat
  limit := SpanMap.limit registry.layouts
  size := SpanMap.size registry.layouts
  revision := SpanMap.revision registry.layouts
  entries := (SpanMap.entries registry.layouts).map registry.reportEntry
  snapshots := registry.snapshots.report.snapshots

def Recording.report (recording : Recording) : RecordingReport where
  recorder := numberOf recording.recorder.id.value
  label := recording.recorder.label
  size := recording.registries.length
  isEmpty := recording.registries.isEmpty
  registries :=
    (recording.registries.map (·.2.report)).mergeSort fun left right => left.image ≤ right.image

def AdaptiveMap.report (map : AdaptiveMap ImageLayout) : MapReport where
  isFlat := map.isFlat
  limit := SpanMap.limit map
  revision := SpanMap.revision map
  entries := SpanMap.entries map

end LayoutTracking
