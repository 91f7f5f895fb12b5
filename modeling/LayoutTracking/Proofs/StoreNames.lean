import LayoutTracking.Proofs.Importing
import LayoutTracking.Proofs.Moves
import Mathlib.Data.List.Forall2

/-!
# Stores by other names

The identity of a store shows in the handles that it issues and in nothing else. What an import
makes of an empty registry is the same whichever store it was made for, once its handles are read as
those of that store.
-/

set_option autoImplicit false

namespace LayoutTracking

/-! ## Updates side by side -/

theorem length_toList_of_rel {V W : Type} {Same : V → W → Prop} {answer : Option V}
    {other : Option W} (answers : Option.Rel Same answer other) :
    answer.toList.length = other.toList.length := by
  cases answers with
  | none => rfl
  | some _ => rfl

/-- The same span, with contents that correspond. -/
structure Tile.Mirrors {V W : Type} (Same : V → W → Prop) (left : Tile V) (right : Tile W) :
    Prop where
  span : left.span = right.span
  content : Option.Rel Same left.content right.content

theorem Tile.Mirrors.trim {V W : Type} {Same : V → W → Prop} {left : Tile V} {right : Tile W}
    (mirrors : left.Mirrors Same right) (cut : Span → Span) :
    List.Forall₂ (Tile.Mirrors Same) (left.trim cut).toList (right.trim cut).toList := by
  by_cases kept : (cut left.span).start < (cut left.span).stop
  · rw [trim_of_lt kept, trim_of_lt (mirrors.span ▸ kept)]
    exact .cons ⟨congrArg cut mirrors.span, mirrors.content⟩ .nil
  · have gone := Nat.le_of_not_lt kept
    rw [trim_of_le gone, trim_of_le (mirrors.span ▸ gone)]
    exact .nil

theorem Tile.Mirrors.replace {V W : Type} {Same : V → W → Prop} {left : Tile V} {right : Tile W}
    (mirrors : left.Mirrors Same right) (range : Span) {answer : Option V} {other : Option W}
    (answers : Option.Rel Same answer other) :
    List.Forall₂ (Tile.Mirrors Same) (left.replace range answer) (right.replace range other) := by
  cases answers with
  | none => exact .cons mirrors .nil
  | some same =>
    exact List.rel_append (mirrors.trim (·.before range))
      (.cons ⟨congrArg (·.intersect range) mirrors.span, .some same⟩
        (mirrors.trim (·.after range)))

namespace Updater

variable {V W σ τ : Type} {left : Updater V σ} {right : Updater W τ} {Same : V → W → Prop}
  {Alike : σ → τ → Prop}

def Replies (Same : V → W → Prop) (Alike : σ → τ → Prop) (reply : Option V × σ)
    (other : Option W × τ) : Prop :=
  Option.Rel Same reply.1 other.1 ∧ Alike reply.2 other.2

/-- Asked about the same things in like states, the updaters answer with the same things and go on
in like states. -/
structure Mirrors (left : Updater V σ) (right : Updater W τ) (Same : V → W → Prop)
    (Alike : σ → τ → Prop) : Prop where
  insert : ∀ gap state other, Alike state other →
    Replies Same Alike (left.insert gap state) (right.insert gap other)
  update : ∀ existing counterpart state other, Same existing counterpart → Alike state other →
    Replies Same Alike (left.update existing state) (right.update counterpart other)

theorem Mirrors.answer (mirrors : left.Mirrors right Same Alike) (range : Span) {tile : Tile V}
    {counterpart : Tile W} (tiles : tile.Mirrors Same counterpart) {state : σ} {other : τ}
    (alike : Alike state other) :
    Replies Same Alike (left.answer state (tile.offer range))
      (right.answer other (counterpart.offer range)) := by
  obtain ⟨span, content⟩ := tile
  obtain ⟨_, _⟩ := counterpart
  obtain ⟨rfl, contents⟩ := tiles
  cases contents with
  | none => exact mirrors.insert _ _ _ alike
  | some same => exact mirrors.update _ _ _ _ same alike

end Updater

/-- The same tiles after as many writes, in like states. -/
structure Rewriting.Mirrors {V W σ τ : Type} (Same : V → W → Prop) (Alike : σ → τ → Prop)
    (left : Rewriting V σ) (right : Rewriting W τ) : Prop where
  tiles : List.Forall₂ (Tile.Mirrors Same) left.tiles right.tiles
  state : Alike left.state right.state
  writes : left.writes = right.writes

theorem Updater.Mirrors.rewrite {V W σ τ : Type} {left : Updater V σ} {right : Updater W τ}
    {Same : V → W → Prop} {Alike : σ → τ → Prop} (mirrors : left.Mirrors right Same Alike)
    (range : Span) {tiles : List (Tile V)} {counterparts : List (Tile W)}
    (same : List.Forall₂ (Tile.Mirrors Same) tiles counterparts) {state : σ} {other : τ}
    (alike : Alike state other) :
    (left.rewrite range tiles state).Mirrors Same Alike
      (right.rewrite range counterparts other) := by
  induction same generalizing state other with
  | nil => exact ⟨.nil, alike, rfl⟩
  | @cons tile counterpart rest others first later ih =>
    by_cases meets : tile.span.overlaps range = true
    · have replies := mirrors.answer range first alike
      rw [Updater.rewrite, Updater.rewrite, if_pos meets, if_pos (first.span ▸ meets)]
      obtain ⟨moved, finished, count⟩ := ih replies.2
      exact ⟨List.rel_append (first.replace range replies.1) moved, finished,
        congrArg₂ (· + ·) (length_toList_of_rel replies.1) count⟩
    · rw [Updater.rewrite, Updater.rewrite, if_neg meets, if_neg (first.span ▸ meets)]
      obtain ⟨moved, finished, count⟩ := ih alike
      exact ⟨.cons first moved, finished, count⟩

theorem Rewriting.Mirrors.splice {U V W σ τ : Type} {lefts : U → Updater V σ}
    {rights : U → Updater W τ} {Same : V → W → Prop} {Alike : σ → τ → Prop} {limit : Nat}
    {sources : List (Span × U)}
    (each : ∀ source ∈ sources, (lefts source.2).Mirrors (rights source.2) Same Alike)
    {sofar : Rewriting V σ} {other : Rewriting W τ} (mirrors : sofar.Mirrors Same Alike other) :
    (sofar.splice limit (Updater.family lefts) sources).Mirrors Same Alike
      (other.splice limit (Updater.family rights) sources) := by
  induction sources generalizing sofar other with
  | nil => exact mirrors
  | cons source rest ih =>
    obtain ⟨now, later⟩ := List.forall_mem_cons.mp each
    rw [splice_cons, splice_cons]
    obtain ⟨moved, finished, count⟩ :=
      now.rewrite (source.1.intersect ⟨0, limit⟩) mirrors.tiles mirrors.state
    exact ih later ⟨moved, finished, congrArg₂ (· + ·) mirrors.writes count⟩

theorem Tile.stored_of_mirrors {V W : Type} {Same : V → W → Prop} {image : V → W}
    (same : ∀ value counterpart, Same value counterpart → counterpart = image value)
    {tiles : List (Tile V)} {others : List (Tile W)}
    (mirrors : List.Forall₂ (Tile.Mirrors Same) tiles others) :
    others.filterMap Tile.stored? =
      (tiles.filterMap Tile.stored?).map fun entry => (entry.1, image entry.2) := by
  induction mirrors with
  | nil => rfl
  | @cons tile other rest others first _ ih =>
    obtain ⟨span, content⟩ := tile
    obtain ⟨_, _⟩ := other
    obtain ⟨rfl, contents⟩ := first
    cases contents with
    | none => exact ih
    | some both =>
      obtain rfl := same _ _ both
      exact congrArg (_ :: ·) ih

theorem Tile.mirrors_flip {V W : Type} {Same : V → W → Prop} {tiles : List (Tile V)}
    {others : List (Tile W)} (mirrors : List.Forall₂ (Tile.Mirrors Same) tiles others) :
    List.Forall₂ (Tile.Mirrors fun value counterpart => Same counterpart value) others tiles := by
  induction mirrors with
  | nil => exact .nil
  | @cons tile other rest others first _ ih =>
    obtain ⟨_, _⟩ := tile
    obtain ⟨_, _⟩ := other
    obtain ⟨rfl, contents⟩ := first
    cases contents with
    | none => exact .cons ⟨rfl, .none⟩ ih
    | some both => exact .cons ⟨rfl, .some both⟩ ih

/-! ## Handles of another store -/

/-- The same place in another store. -/
def SnapshotId.inStore (store : StoreId) (handle : SnapshotId) : SnapshotId := { handle with store }

/-- The same handle, where that of the first store is read as one of the second. -/
def SameHandle (first second : StoreId) (handle other : Option SnapshotId) : Prop :=
  other = handle.map (·.inStore second) ∧ handle = other.map (·.inStore first)

namespace LayoutEntry

def inStore (store : StoreId) (entry : LayoutEntry) : LayoutEntry :=
  { entry with snapshot := entry.snapshot.map (·.inStore store) }

def SameEntry (first second : StoreId) (entry other : LayoutEntry) : Prop :=
  other = entry.inStore second ∧ entry = other.inStore first

variable {first second : StoreId} {entry other : LayoutEntry}

theorem inStore_merge (store : StoreId) (entry other : LayoutEntry) :
    (entry.merge other).inStore store = (entry.inStore store).merge (other.inStore store) := by
  obtain ⟨initial, current, snapshot⟩ := entry
  cases snapshot with
  | none => rfl
  | some handle => rfl

theorem SameEntry.merge {next counterpart : LayoutEntry}
    (same : SameEntry first second entry other) (sameNext : SameEntry first second next counterpart) :
    SameEntry first second (entry.merge next) (other.merge counterpart) := by
  refine ⟨?_, ?_⟩
  · rw [inStore_merge, ← same.1, ← sameNext.1]
  · rw [inStore_merge, ← same.2, ← sameNext.2]

theorem SameEntry.eq_iff {moved counterpart : LayoutEntry}
    (same : SameEntry first second entry other)
    (sameMoved : SameEntry first second moved counterpart) :
    moved = entry ↔ counterpart = other := by
  constructor
  · rintro rfl
    exact sameMoved.1.trans same.1.symm
  · rintro rfl
    exact sameMoved.2.trans same.2.symm

theorem SameEntry.isSome_iff (same : SameEntry first second entry other) :
    other.snapshot.isSome = entry.snapshot.isSome := by
  rw [same.1, inStore, Option.isSome_map]

theorem sameEntry_of_handle (entry : LayoutEntry) {handle copy : Option SnapshotId}
    (same : SameHandle first second handle copy) :
    SameEntry first second { entry with snapshot := handle } { entry with snapshot := copy } := by
  obtain ⟨forth, back⟩ := same
  refine ⟨?_, ?_⟩
  · rw [inStore, forth]
  · rw [inStore, ← back]

theorem SameEntry.replies {σ τ : Type} {Alike : σ → τ → Prop} {state : σ} {counterpart : τ}
    (same : SameEntry first second entry other) (next : LayoutEntry)
    {handle copy : Option SnapshotId} (sameHandle : SameHandle first second handle copy)
    (alike : Alike state counterpart) :
    Updater.Replies (SameEntry first second) Alike
      (if entry.merge { next with snapshot := handle } = entry then none
        else some (entry.merge { next with snapshot := handle }), state)
      (if other.merge { next with snapshot := copy } = other then none
        else some (other.merge { next with snapshot := copy }), counterpart) := by
  have sameMerged := same.merge (sameEntry_of_handle next sameHandle)
  refine ⟨?_, alike⟩
  by_cases unmoved : entry.merge { next with snapshot := handle } = entry
  · rw [if_pos unmoved, if_pos ((same.eq_iff sameMerged).mp unmoved)]
    exact .none
  · rw [if_neg unmoved, if_neg (mt (same.eq_iff sameMerged).mpr unmoved)]
    exact .some sameMerged

end LayoutEntry

namespace Registry

/-! ## Imports into two stores -/

/-- Two imports that differ by the store that they are made into. -/
structure Importing.Alike (first second : StoreId) (left right : Importing) : Prop where
  leftStore : left.store.id = first
  rightStore : right.store.id = second
  snapshots : right.store.snapshots = left.store.snapshots
  copies : ∀ handle,
    Option.Rel (SameHandle first second) (left.copies.lookup handle) (right.copies.lookup handle)
  notices : right.notices = left.notices

variable {first second : StoreId} {left right : Importing}

theorem Importing.Alike.lookup_cons (alike : Importing.Alike first second left right)
    (handle : SnapshotId) {copied other : Option SnapshotId}
    (same : SameHandle first second copied other) (asked : SnapshotId) :
    Option.Rel (SameHandle first second) (((handle, copied) :: left.copies).lookup asked)
      (((handle, other) :: right.copies).lookup asked) := by
  by_cases settled : asked = handle
  · subst settled
    rw [lookup_cons_self, lookup_cons_self]
    exact .some same
  · rw [lookup_cons_of_ne settled, lookup_cons_of_ne settled]
    exact alike.copies asked

theorem Importing.Alike.copy (alike : Importing.Alike first second left right)
    (source : SnapshotStore) (handle : SnapshotId) :
    SameHandle first second (left.copy source handle).1 (right.copy source handle).1 ∧
      Importing.Alike first second (left.copy source handle).2 (right.copy source handle).2 := by
  have found := alike.copies handle
  unfold Importing.copy
  generalize left.copies.lookup handle = copied at found ⊢
  generalize right.copies.lookup handle = other at found ⊢
  cases found with
  | some same => exact ⟨same, alike⟩
  | none =>
    cases source.get? handle with
    | none =>
      exact ⟨⟨rfl, rfl⟩, alike.leftStore, alike.rightStore, alike.snapshots,
        alike.lookup_cons handle ⟨rfl, rfl⟩, alike.notices⟩
    | some snapshot =>
      simp only [SnapshotStore.push, alike.snapshots]
      by_cases room : left.store.snapshots.size < SnapshotStore.capacity
      · simp only [room, ↓reduceIte]
        have same : SameHandle first second
            (some ⟨left.store.id, UInt32.ofNat left.store.snapshots.size⟩)
            (some ⟨right.store.id, UInt32.ofNat left.store.snapshots.size⟩) := by
          rw [alike.leftStore, alike.rightStore]
          exact ⟨rfl, rfl⟩
        exact ⟨same, alike.leftStore, alike.rightStore, rfl, alike.lookup_cons handle same,
          alike.notices⟩
      · simp only [room, ↓reduceIte]
        exact ⟨⟨rfl, rfl⟩, alike.leftStore, alike.rightStore, alike.snapshots,
          alike.lookup_cons handle ⟨rfl, rfl⟩, congrArg (· ++ _) alike.notices⟩

theorem Importing.Alike.copy? (alike : Importing.Alike first second left right)
    (source : SnapshotStore) (handle : Option SnapshotId) :
    SameHandle first second (left.copy? source handle).1 (right.copy? source handle).1 ∧
      Importing.Alike first second (left.copy? source handle).2 (right.copy? source handle).2 := by
  cases handle with
  | none => exact ⟨⟨rfl, rfl⟩, alike⟩
  | some handle => exact alike.copy source handle

/-- Whether a snapshot is copied depends on the entry, and is the same on both sides. -/
theorem importer_mirrors (source : SnapshotStore) (entry : LayoutEntry) :
    (importer source entry).Mirrors (importer source entry) (LayoutEntry.SameEntry first second)
      (Importing.Alike first second) where
  insert gap left right alike := by
    obtain ⟨same, next⟩ := alike.copy? source entry.snapshot
    exact ⟨.some (LayoutEntry.sameEntry_of_handle entry same), next⟩
  update existing counterpart left right same alike := by
    simp only [importer, same.isSome_iff]
    cases existing.snapshot.isSome with
    | true => exact same.replies entry ⟨rfl, rfl⟩ alike
    | false =>
      obtain ⟨copied, next⟩ := alike.copy? source entry.snapshot
      exact same.replies entry copied next

/-! ## The same registry in another store -/

/-- The registries differ by the identity of the store at most, and by the handles that name it. -/
structure SameButStore (left right : Registry) : Prop where
  image : right.image = left.image
  addressing : right.addressing = left.addressing
  isFlat : right.layouts.isFlat = left.layouts.isFlat
  limit : SpanMap.limit right.layouts = SpanMap.limit left.layouts
  revision : SpanMap.revision right.layouts = SpanMap.revision left.layouts
  entries : SpanMap.entries right.layouts = (SpanMap.entries left.layouts).map
    fun entry => (entry.1, entry.2.inStore right.snapshots.id)
  entriesBack : SpanMap.entries left.layouts = (SpanMap.entries right.layouts).map
    fun entry => (entry.1, entry.2.inStore left.snapshots.id)
  snapshots : right.snapshots.snapshots = left.snapshots.snapshots

theorem merged_mirrors (limit : Nat) (source : SnapshotStore) (entries : List (Span × LayoutEntry))
    (first second : StoreId) (domain : Nat) :
    (merged limit source entries (Tile.gap ⟨0, domain⟩) (.empty first)).Mirrors
      (LayoutEntry.SameEntry first second) (Importing.Alike first second)
      (merged limit source entries (Tile.gap ⟨0, domain⟩) (.empty second)) := by
  refine Rewriting.Mirrors.splice (fun entry _ => importer_mirrors source entry.2) ⟨?_, ?_, rfl⟩
  · rw [Tile.gap]
    split
    · exact .nil
    · exact .cons ⟨rfl, .none⟩ .nil
  · exact ⟨rfl, rfl, rfl, fun _ => .none, rfl⟩

theorem importEntries_isFlat (registry : Registry) (source : SnapshotStore)
    (entries : List (Span × LayoutEntry)) :
    (registry.importEntries source entries).registry.layouts.isFlat = registry.layouts.isFlat := by
  refine List.foldlRecOn
    (motive := fun walk : Walk (AdaptiveMap LayoutEntry) Importing =>
      walk.map.isFlat = registry.layouts.isFlat) entries _ rfl ?_
  intro walk same entry _
  refine Updater.run_keeps_map (AdaptiveMap.isFlat · = registry.layouts.isFlat) ?_ entry.1 _ same
  intro map span value kept
  rw [← kept]
  cases map with
  | flat _ => rfl
  | sparse _ => rfl

theorem importFrom_emptyLike (source : Registry) (store : StoreId) :
    (source.emptyLike store).importFrom source =
      (source.emptyLike store).importEntries source.snapshots (SpanMap.entries source.layouts) :=
  importFrom_eq rfl

theorem importFrom_emptyLike_isFlat (source : Registry) (store : StoreId) :
    ((source.emptyLike store).importFrom source).registry.layouts.isFlat =
      source.layouts.isFlat := by
  rw [importFrom_emptyLike, importEntries_isFlat]
  rw [emptyLike]
  cases source.layouts with
  | flat _ => rfl
  | sparse _ => rfl

/-- It does not show for which store a registry was made. -/
theorem importFrom_emptyLike_sameButStore (source : Registry) (first second : StoreId) :
    SameButStore ((source.emptyLike first).importFrom source).registry
      ((source.emptyLike second).importFrom source).registry := by
  rw [importFrom_emptyLike, importFrom_emptyLike]
  have left := importEntries_becomes
    (show LawfulSpanMap.Holds (source.emptyLike first).layouts _ from
      AdaptiveMap.holds_emptied source.layouts)
    source.snapshots (SpanMap.entries source.layouts)
  have right := importEntries_becomes
    (show LawfulSpanMap.Holds (source.emptyLike second).layouts _ from
      AdaptiveMap.holds_emptied source.layouts)
    source.snapshots (SpanMap.entries source.layouts)
  obtain ⟨tiles, state, writes⟩ :=
    merged_mirrors (SpanMap.limit (source.emptyLike first).layouts) source.snapshots
      (SpanMap.entries source.layouts) first second (SpanMap.limit source.layouts)
  have state : Importing.Alike first second _ _ := right.state ▸ left.state ▸ state
  refine ⟨rfl, rfl, ?_, right.limit.trans left.limit.symm, ?_, ?_, ?_, state.snapshots⟩
  · rw [importEntries_isFlat, importEntries_isFlat]
    rfl
  · exact right.revision.trans ((congrArg _ writes.symm).trans left.revision.symm)
  · refine (SpanMap.entries_eq right.holds).trans ?_
    refine (Tile.stored_of_mirrors (fun _ _ same => same.1) tiles).trans ?_
    refine (congrArg _ (SpanMap.entries_eq left.holds).symm).trans ?_
    exact congrArg (fun store => (SpanMap.entries _).map fun entry : Span × LayoutEntry =>
      (entry.1, entry.2.inStore store)) state.rightStore.symm
  · refine (SpanMap.entries_eq left.holds).trans ?_
    refine (Tile.stored_of_mirrors (fun _ _ same => same.2) (Tile.mirrors_flip tiles)).trans ?_
    refine (congrArg _ (SpanMap.entries_eq right.holds).symm).trans ?_
    exact congrArg (fun store => (SpanMap.entries _).map fun entry : Span × LayoutEntry =>
      (entry.1, entry.2.inStore store)) state.leftStore.symm

/-- What is known differs by the handles alone. -/
theorem SameButStore.known? {left right : Registry} (same : left.SameButStore right)
    {tiles others : List (Tile LayoutEntry)} (holds : LawfulSpanMap.Holds left.layouts tiles)
    (otherHolds : LawfulSpanMap.Holds right.layouts others) (index : Nat) :
    SpanMap.value? right.layouts index =
      (SpanMap.value? left.layouts index).map (·.inStore right.snapshots.id) := by
  have stored := SpanMap.entries_filter otherHolds index
  rw [same.entries, List.filter_map, Function.comp_def,
    SpanMap.entries_filter holds index] at stored
  unfold SpanMap.value?
  cases found : SpanMap.get? left.layouts index with
  | none =>
    cases other : SpanMap.get? right.layouts index with
    | none => rfl
    | some _ => simp [found, other] at stored
  | some entry =>
    cases other : SpanMap.get? right.layouts index with
    | none => simp [found, other] at stored
    | some _ =>
      simp only [found, other, Option.toList_some, List.map_cons, List.cons.injEq] at stored
      simp [← stored.1]

end Registry

end LayoutTracking
