import LayoutTracking.Session.Report

/-!
# Session commands

What a session can be asked, and what it answers. Everything that a session creates has a number
within its kind, from zero in the order of creation, and commands name things by these numbers.
-/

set_option autoImplicit false

namespace LayoutTracking.Session

/-- The registry that a command is about: one that stands alone, or that of an image in a
recording. -/
inductive Target where
  | registry (number : Nat)
  | recording (number image : Nat)
deriving DecidableEq, Repr, Inhabited

/-- Where layouts are recorded: by a recorder into a registry that stands alone, or by a recording
for an image. -/
inductive Place where
  | registry (number recorder : Nat)
  | recording (number image : Nat)
deriving DecidableEq, Repr, Inhabited

inductive Scope where
  | selector (selector : Selector)
  | view (number : Nat)
deriving DecidableEq, Repr, Inhabited

/-- The subresources that a search in a device-wide map goes through. -/
inductive MapScope where
  | span (span : Span)
  | selector (selector : Selector)
deriving DecidableEq, Repr, Inhabited

inductive Probe where
  | always
  | never
  | current (layout : Option ImageLayout)
  | currentNot (layout : Option ImageLayout)
  | initial (layout : Option ImageLayout)
  | startAtLeast (index : Nat)
deriving DecidableEq, Repr, Inhabited

/-- Whether the condition holds of a span with an initial and a current layout. -/
def Probe.holds (probe : Probe) (span : Span) (initial current : Option ImageLayout) : Bool :=
  match probe with
  | .always => true
  | .never => false
  | .current layout => current == layout
  | .currentNot layout => current != layout
  | .initial layout => initial == layout
  | .startAtLeast index => index ≤ span.start

inductive Creation where
  | image (info : ImageInfo) (threshold : Nat) (aliased : Option Nat)
  | view (image : Nat) (selector : Selector)
  | recorder (label : Option String)
  | recording (recorder threshold : Nat)
  | registry (image threshold : Nat)
  /-- A registry that stands alone, for the same image as the target. -/
  | emptyLike (target : Target)
  | store
deriving Inhabited

inductive Edit where
  | touch (recording image : Nat)
  | setLayout (place : Place) (selector : Selector) (layout : ImageLayout)
      (expected : Option ImageLayout)
  | setInitial (place : Place) (selector : Selector) (layout : ImageLayout)
  | setInitialFromView (registry recorder view : Nat) (layout : ImageLayout)
  /-- The same in a recording, for the image that the view shows. -/
  | recordInitialFromView (recording view : Nat) (layout : ImageLayout)
  | importInto (registry : Nat) (source : Target)
  | execute (recording nested : Nat)
  | reset (recording : Nat)
deriving Inhabited

inductive Question where
  | recording (number : Nat)
  | registry (target : Target)
  | search (target : Target) (scope : Scope) (probe : Probe)
  | entryAt (target : Target) (subresource : Subresource)
  | decode (target : Target) (index : Nat)
  /-- What another registry says of the handle that the target keeps at an index. -/
  | resolve (target : Target) (index other : Nat)
deriving Inhabited

inductive MapCommand where
  | setLayout (selector : Selector) (layout : ImageLayout)
  | setSpan (span : Span) (layout : ImageLayout)
  /-- Writes what a view covers, though the view may be of another image. -/
  | setViewSpans (view : Nat) (layout : ImageLayout)
  /-- A writer overwrites a span and is cut short before it can let go of the map, at the latest by a
  span that reaches past the limit. -/
  | abandonWrite (span : Span) (layout : ImageLayout)
  | layoutOf (subresource : Subresource)
  | layoutAt (index : Nat)
  | show
  | search (scope : MapScope) (probe : Probe)
deriving Inhabited

inductive StoreCommand where
  | push (recorder : Nat) (view : Option Nat)
  | get (handle : Nat)
deriving Inhabited

inductive Command where
  | create (creation : Creation)
  | edit (edit : Edit)
  | ask (question : Question)
  | map (image : Nat) (command : MapCommand)
  | store (number : Nat) (command : StoreCommand)
deriving Inhabited

inductive Reply where
  /-- There is no such registry, entry or layout. -/
  | nothing
  | number (number : Nat)
  | image (id : Nat) (name : Option String) (count : Nat) (shares : List Bool) (map : MapReport)
  | view (id image : Nat) (selector : Selector) (spans : List Span)
  | recording (report : RecordingReport)
  | registry (report : RegistryReport)
  | recordingWritten (changed : Bool) (report : RecordingReport)
  | registryWritten (changed : Bool) (report : RegistryReport)
  | imported (compatible changed : Bool) (report : RegistryReport)
  | search (result : Search EntryReport)
  | entry (entry : EntryReport) (snapshot : Option SnapshotReport)
  /-- The same index decoded by the registry and by its addressing. -/
  | decoded (byRegistry byAddressing : Option Subresource)
  | resolved (owned : Bool) (snapshot : Option SnapshotReport)
  | mapWritten (changed : Bool) (report : MapReport)
  | layout (layout : ImageLayout)
  | layoutAt (layout : Option ImageLayout) (limit : Nat)
  | map (report : MapReport)
  | mapSearch (result : Search (Span × ImageLayout))
  | abandoned (report : MapReport)
  | pushed (handle index : Nat) (report : StoreReport)
  /-- Whether the store issued the handle, what it resolves to there, and the number of the first
  handle that is equal to it. -/
  | snapshot (owned : Bool) (snapshot : Option SnapshotReport) (same : Nat)
deriving Inhabited

inductive Failure where
  /-- Nothing of the kind has the number. -/
  | noSuch
  | storeExhausted
  | word (failure : WordFailure)
deriving DecidableEq, Repr, Inhabited

end LayoutTracking.Session
