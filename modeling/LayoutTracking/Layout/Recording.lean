import LayoutTracking.Layout.Registry

/-!
# Recordings

A recording keeps one registry for each image that it touches, in the order of the first touch.
Where a registry has to be made for it, a store identity is drawn.
-/

set_option autoImplicit false

namespace LayoutTracking

structure Recording where
  recorder : Recorder
  /-- Images of at most this many subresources get a flat map. -/
  threshold : Nat
  registries : List (ImageId × Registry)
deriving Inhabited

namespace Recording

/-- What became of an operation. If it failed, what the recording has after it is of no account. -/
structure Outcome where
  recording : Recording
  /-- The source of store identities after the operation. -/
  stores : Counter
  changed : Bool
  notices : List Notice
  failure : Option WordFailure
deriving Inhabited

def empty (recorder : Recorder) (threshold : Nat) : Recording := ⟨recorder, threshold, []⟩

def registry? (recording : Recording) (image : ImageId) : Option Registry :=
  recording.registries.lookup image

def put (recording : Recording) (image : ImageId) (registry : Registry) : Recording :=
  { recording with
    registries :=
      if (recording.registry? image).isSome then
        recording.registries.map fun entry => if entry.1 = image then (image, registry) else entry
      else
        recording.registries ++ [(image, registry)] }

/-- The registry of an image, or else a new one made for a store identity. Also the failure of the
draw of that identity, if any. -/
def obtain (recording : Recording) (image : ImageId) (make : StoreId → Registry)
    (stores : Counter) : Registry × Counter × Option WordFailure :=
  match recording.registry? image with
  | some registry => (registry, stores, none)
  | none =>
    let (store, later) := stores.draw
    (make ⟨store⟩, later, stores.spent?)

/-- Runs an operation on the registry of an image, which is made if there is none. -/
def edit (recording : Recording) (image : ImageId) (make : StoreId → Registry)
    (operation : Registry → Registry.Outcome) (stores : Counter) : Outcome :=
  let (registry, stores, spent) := recording.obtain image make stores
  let outcome := operation registry
  { recording := recording.put image outcome.registry
    stores
    changed := outcome.changed
    notices := outcome.notices
    failure := spent <|> outcome.failure }

/-- Runs an operation on the registry of an image that the recording may touch here first. -/
def editImage (recording : Recording) (image : Image)
    (operation : Registry → Registry.Outcome) (stores : Counter) : Outcome :=
  recording.edit image.id (.empty image recording.threshold) operation stores

def touch (recording : Recording) (image : Image) (stores : Counter) : Outcome :=
  recording.editImage image (fun registry => ⟨registry, false, [], none⟩) stores

def setLayout (recording : Recording) (image : Image) (selector : Selector)
    (layout : ImageLayout) (expected : Option ImageLayout) (stores : Counter) : Outcome :=
  recording.editImage image
    (fun registry => registry.setLayout recording.recorder selector layout expected) stores

def setInitial (recording : Recording) (image : Image) (selector : Selector)
    (layout : ImageLayout) (stores : Counter) : Outcome :=
  recording.editImage image
    (fun registry => registry.setInitial recording.recorder selector layout) stores

def setInitialFromView (recording : Recording) (view : View) (layout : ImageLayout)
    (stores : Counter) : Outcome :=
  recording.editImage view.image
    (fun registry => registry.setInitialFromView recording.recorder layout view) stores

/-- Imports registries one after the other, each under its image. An image that the recording has
not touched gets a registry of the same kind as the one imported. -/
def importAll (recording : Recording) (sources : List (ImageId × Registry)) (stores : Counter) :
    Outcome :=
  sources.foldl
    (fun outcome (image, source) =>
      let next := outcome.recording.edit image source.emptyLike (·.importFrom source)
        outcome.stores
      { next with
        changed := outcome.changed || next.changed
        notices := outcome.notices ++ next.notices
        failure := outcome.failure <|> next.failure })
    ⟨recording, stores, false, [], none⟩

/-- Merges everything that a nested recording knows, as happens when this one executes it. -/
def execute (recording nested : Recording) (stores : Counter) : Outcome :=
  recording.importAll nested.registries stores

def reset (recording : Recording) : Recording := { recording with registries := [] }

end Recording

end LayoutTracking
