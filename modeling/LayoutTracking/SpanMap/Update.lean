import LayoutTracking.SpanMap.Cursor

/-!
# Updates

An updater says what becomes of a gap and of a stored value; applying it over a span offers it,
slot by slot and in ascending order, everything that lies there. The walk is written once against
the operations of a span map, and so is merging one map into another. An updater may keep a state
from offer to offer.
-/

set_option autoImplicit false

namespace LayoutTracking

/-- The decisions of an update over values `V`, with a state `σ` that the offers pass along. -/
structure Updater (V σ : Type) where
  /-- The value to store over a gap, or nothing to leave it a gap. -/
  insert : Span → σ → Option V × σ
  /-- The value to store instead of an existing one, or nothing to leave it alone. -/
  update : V → σ → Option V × σ

structure Walk (M σ : Type) where
  map : M
  cursor : Cursor
  state : σ
  /-- Whether anything was written since the walk began. -/
  changed : Bool
deriving Inhabited

namespace Walk

variable {M V σ : Type} [SpanMap M V]

def start (map : M) (cursor : Cursor) (state : σ) : Walk M σ := ⟨map, cursor, state, false⟩

/-- Stores a value and leaves the cursor at the span that now holds it. -/
def write (walk : Walk M σ) (span : Span) (value : V) : Walk M σ :=
  let map := SpanMap.overwrite walk.map span value
  { walk with map, cursor := walk.cursor.settle map (.known span), changed := true }

end Walk

namespace Updater

variable {M V σ : Type} [SpanMap M V]

/-- Offers the slot at `index` and stores the answer, clipped to `span`. Also says where the slot
stops. A gap is offered from `index` on, as far as the span goes; of a stored span exactly the
part inside `span` takes the new value. -/
def offer (updater : Updater V σ) (span : Span) (index : Nat) (walk : Walk M σ) :
    Nat × Walk M σ :=
  let (slot, cursor) := walk.cursor.seek walk.map index
  let walk := { walk with cursor }
  match slot with
  | .gap gap =>
    let fill : Span := ⟨index, min gap.stop span.stop⟩
    match updater.insert fill walk.state with
    | (some value, state) => (fill.stop, { walk with state }.write fill value)
    | (none, state) => (fill.stop, { walk with state })
  | .known known =>
    match SpanMap.get? walk.map index with
    | none => (known.stop, walk)
    | some (_, existing) =>
      match updater.update existing walk.state with
      | (some value, state) =>
        let inside := known.intersect span
        (inside.stop, { walk with state }.write inside value)
      | (none, state) => (known.stop, { walk with state })

def offerFrom (updater : Updater V σ) (span : Span) (index : Nat) (walk : Walk M σ) :
    Walk M σ :=
  if index < span.stop then
    let (stop, walk) := updater.offer span index walk
    updater.offerFrom span (SpanMap.advance index stop) walk
  else
    walk
termination_by span.stop - index
decreasing_by
  have later := SpanMap.lt_advance index stop
  omega

/-- Applies the updater over the part of `span` that the map has indices for. -/
def run (updater : Updater V σ) (span : Span) (walk : Walk M σ) : Walk M σ :=
  let inside := span.intersect ⟨0, SpanMap.limit walk.map⟩
  updater.offerFrom inside inside.start walk

/-- Applies the updater over one span after the other, with one cursor for all. -/
def runAll (updater : Updater V σ) (spans : List Span) (walk : Walk M σ) : Walk M σ :=
  spans.foldl (fun walk span => updater.run span walk) walk

def apply (updater : Updater V σ) (map : M) (cursor : Cursor) (span : Span) (state : σ) :
    Walk M σ :=
  updater.run span (.start map cursor state)

/-- Stores `value` everywhere: gaps take it, and so do the spans that hold another value. -/
def prefer [DecidableEq V] (value : V) : Updater V σ where
  insert _ state := (some value, state)
  update existing state := (if existing = value then none else some value, state)

end Updater

/-- Merges every stored span of `source` into the walk's map. Each source value brings an updater
of its own, which is made when its turn comes and may take part in the state; the cursor and the
state are carried through. -/
def splice {M N V W σ : Type} [SpanMap M V] [SpanMap N W] (source : N)
    (make : W → σ → Updater V σ × σ) (walk : Walk M σ) : Walk M σ :=
  (SpanMap.entries source).foldl
    (fun walk entry =>
      let (updater, state) := make entry.2 walk.state
      updater.run entry.1 { walk with state })
    walk

inductive Offer (V : Type) where
  | insert (gap : Span)
  | update (existing : V)
deriving DecidableEq, Repr, Inhabited

/-- The same decisions, with every offer put on record in the order of asking. -/
def Updater.recorded {V σ : Type} (updater : Updater V σ) : Updater V (σ × List (Offer V)) where
  insert gap state :=
    let (answer, inner) := updater.insert gap state.1
    (answer, inner, state.2 ++ [.insert gap])
  update existing state :=
    let (answer, inner) := updater.update existing state.1
    (answer, inner, state.2 ++ [.update existing])

end LayoutTracking
