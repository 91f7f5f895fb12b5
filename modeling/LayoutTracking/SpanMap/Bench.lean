import LayoutTracking.SpanMap.Adaptive
import LayoutTracking.SpanMap.Rule

/-!
# Bench

A bench holds numbered integer maps of every kind and a few numbered cursors, and runs commands
on them one at a time. It is the library's maps as an interactive program sees them: every
operation is a command, every answer a reply.
-/

set_option autoImplicit false

namespace LayoutTracking

inductive Backing where
  | flat
  | sparse
  /-- Flat or sparse, by comparing the limit with the threshold. -/
  | adaptive (threshold : Nat)
deriving DecidableEq, Repr, Inhabited

def Backing.emptyMap (backing : Backing) (limit : Nat) : AdaptiveMap Int64 :=
  match backing with
  | .flat => .flat (.empty limit)
  | .sparse => .sparse (.empty limit)
  | .adaptive threshold => .empty limit threshold

namespace Bench

structure Item where
  backing : Backing
  map : AdaptiveMap Int64
deriving Inhabited

/-- What can be asked of one map. Steps that take a cursor use a fresh one when none is named. -/
inductive Command where
  | describe
  | locate (index : Nat)
  | get (index : Nat)
  | entriesIn (query : Span)
  | overwrite (span : Span) (value : Int64)
  | clear
  | apply (span : Span) (rule : Rule) (cursor : Option Nat)
  /-- Merges the map of the given number, under a rule that takes each source value in turn. -/
  | splice (source : Nat) (rule : Rule)
  | seek (index : Nat) (cursor : Option Nat)
  | settle (slot : Slot) (cursor : Option Nat)
  | invalidate (cursor : Option Nat)
  /-- Puts a copy of the map at the end of the bench. -/
  | duplicate
deriving Inhabited

structure Contents where
  size : Nat
  isEmpty : Bool
  revision : Nat
  entries : List (Span × Int64)
deriving Inhabited

inductive Reply where
  /-- The limit, whether a map that chose its kind is flat, and the contents. -/
  | description (limit : Nat) (flat : Option Bool) (contents : Contents)
  | slot (slot : Slot)
  | entry (entry : Option (Span × Int64))
  | entries (entries : List (Span × Int64))
  | contents (contents : Contents)
  | merged (changed : Bool) (offers : List (Offer Int64)) (contents : Contents)
  | number (index : Nat)
  | done
deriving Inhabited

inductive Failure where
  /-- The span to be written reaches past the limit of the map. -/
  | pastLimit
  | noSuchMap
deriving DecidableEq, Repr, Inhabited

end Bench

structure Bench where
  items : List Bench.Item
  cursors : List Cursor
deriving Inhabited

namespace Bench

def ofBackings (backings : List (Backing × Nat)) (cursorCount : Nat) : Bench where
  items := backings.map fun (backing, limit) => ⟨backing, backing.emptyMap limit⟩
  cursors := List.replicate cursorCount .fresh

def Contents.ofMap (map : AdaptiveMap Int64) : Contents where
  size := SpanMap.size map
  isEmpty := SpanMap.isEmpty map
  revision := SpanMap.revision map
  entries := SpanMap.entries map

def cursor (bench : Bench) (number : Option Nat) : Cursor :=
  (number.bind (bench.cursors[·]?)).getD .fresh

def putCursor (bench : Bench) (number : Option Nat) (cursor : Cursor) : Bench :=
  match number with
  | some number => { bench with cursors := bench.cursors.set number cursor }
  | none => bench

def putMap (bench : Bench) (number : Nat) (item : Item) (map : AdaptiveMap Int64) : Bench :=
  { bench with items := bench.items.set number { item with map } }

/-- The state of a walk on the bench: nothing but the record of the offers. -/
abbrev BenchWalk := Walk (AdaptiveMap Int64) (Unit × List (Offer Int64))

def merged (walk : BenchWalk) : Reply :=
  .merged walk.changed walk.state.2 (.ofMap walk.map)

def step (bench : Bench) (number : Nat) (command : Command) : Except Failure (Reply × Bench) := do
  let some item := bench.items[number]? | throw .noSuchMap
  let map := item.map
  match command with
  | .describe =>
    let flat := match item.backing with
      | .adaptive _ => some map.isFlat
      | _ => none
    return (.description (SpanMap.limit map) flat (.ofMap map), bench)
  | .locate index => return (.slot (SpanMap.locate map index), bench)
  | .get index => return (.entry (SpanMap.get? map index), bench)
  | .entriesIn query => return (.entries (SpanMap.entriesIn map query), bench)
  | .overwrite span value =>
    let some written := SpanMap.overwrite? map span value | throw .pastLimit
    return (.contents (.ofMap written), bench.putMap number item written)
  | .clear =>
    let cleared := SpanMap.clear map
    return (.contents (.ofMap cleared), bench.putMap number item cleared)
  | .apply span rule cursor =>
    let walk := rule.updater.recorded.apply map (bench.cursor cursor) span ((), [])
    return (merged walk, (bench.putMap number item walk.map).putCursor cursor walk.cursor)
  | .splice source rule =>
    let some sourceItem := bench.items[source]? | throw .noSuchMap
    let walk := splice sourceItem.map
      (fun value state => ({ rule with value }.updater.recorded, state))
      (.start map .fresh ((), []))
    return (merged walk, bench.putMap number item walk.map)
  | .seek index cursor =>
    let (slot, moved) := (bench.cursor cursor).seek map index
    return (.slot slot, bench.putCursor cursor moved)
  | .settle slot cursor =>
    return (.done, bench.putCursor cursor ((bench.cursor cursor).settle map slot))
  | .invalidate cursor =>
    return (.done, bench.putCursor cursor (bench.cursor cursor).invalidate)
  | .duplicate =>
    return (.number bench.items.length, { bench with items := bench.items ++ [item] })

/-- Runs commands until one fails; what was answered before it stands. -/
def run (bench : Bench) : List (Nat × Command) → List (Except Failure Reply)
  | [] => []
  | (number, command) :: rest =>
    match bench.step number command with
    | .ok (reply, next) => .ok reply :: next.run rest
    | .error failure => [.error failure]

end Bench

end LayoutTracking
