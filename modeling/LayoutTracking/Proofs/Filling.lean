import LayoutTracking.Layout.Registry
import LayoutTracking.Proofs.Backends
import LayoutTracking.Proofs.Pointwise

/-!
# Requests and the snapshots they take

A store only grows, and a handle resolves to what it was issued for from then on. A request asks
for one snapshot at most, when it meets the first gap, and every gap after that takes the same.
-/

set_option autoImplicit false

namespace LayoutTracking

namespace SnapshotStore

/-- The later store has every snapshot of the earlier one, in its place. -/
structure Extends (later earlier : SnapshotStore) : Prop where
  id : later.id = earlier.id
  kept : ∀ (place : Nat) (snapshot : Snapshot), earlier.snapshots[place]? = some snapshot →
    later.snapshots[place]? = some snapshot

variable {first second third : SnapshotStore} {handle : SnapshotId} {snapshot : Snapshot}

theorem Extends.refl (store : SnapshotStore) : store.Extends store := ⟨rfl, fun _ _ kept => kept⟩

theorem Extends.trans (later : third.Extends second) (earlier : second.Extends first) :
    third.Extends first := by
  refine ⟨later.id.trans earlier.id, ?_⟩
  intro place snapshot kept
  exact later.kept place snapshot (earlier.kept place snapshot kept)

theorem get?_eq_some : first.get? handle = some snapshot ↔
    handle.store = first.id ∧ first.snapshots[handle.index.toNat]? = some snapshot := by
  simp [get?, owns]

theorem Extends.get? (extended : second.Extends first) (resolves : first.get? handle = some snapshot) :
    second.get? handle = some snapshot := by
  obtain ⟨owned, found⟩ := get?_eq_some.mp resolves
  exact get?_eq_some.mpr ⟨owned.trans extended.id.symm, extended.kept _ _ found⟩

theorem push_eq_ok (pushed : first.push snapshot = .ok (handle, second)) :
    handle.store = first.id ∧ handle.index.toNat = first.snapshots.size ∧
      second = { first with snapshots := first.snapshots.push snapshot } := by
  unfold push at pushed
  split at pushed
  · next room =>
    obtain ⟨rfl, rfl⟩ := Prod.mk.inj (Except.ok.inj pushed)
    refine ⟨rfl, UInt32.toNat_ofNat_of_lt' ?_, rfl⟩
    exact Nat.lt_of_lt_of_le room (Nat.sub_le _ _)
  · cases pushed

theorem extends_of_push (pushed : first.push snapshot = .ok (handle, second)) :
    second.Extends first := by
  obtain ⟨-, -, rfl⟩ := push_eq_ok pushed
  refine ⟨rfl, ?_⟩
  intro place other kept
  obtain ⟨bound, -⟩ := Array.getElem?_eq_some_iff.mp kept
  rw [Array.getElem?_push, if_neg (Nat.ne_of_lt bound)]
  exact kept

theorem get?_of_push (pushed : first.push snapshot = .ok (handle, second)) :
    second.get? handle = some snapshot := by
  obtain ⟨owned, place, rfl⟩ := push_eq_ok pushed
  rw [get?_eq_some, place]
  exact ⟨owned, Array.getElem?_push_size⟩

theorem get?_eq_none_of_push (pushed : first.push snapshot = .ok (handle, second)) :
    first.get? handle = none := by
  obtain ⟨-, place, -⟩ := push_eq_ok pushed
  simp [get?, place]

end SnapshotStore

namespace LayoutEntry

def IsSettled (entry : LayoutEntry) : Prop :=
  entry.initial.isSome = true ∧ entry.snapshot.isSome = true

theorem IsSettled.merge {entry : LayoutEntry} (settled : entry.IsSettled) (other : LayoutEntry) :
    entry.merge other = { entry with current := other.current <|> entry.current } := by
  obtain ⟨initial, current, snapshot⟩ := entry
  obtain ⟨initialLayout, rfl⟩ := Option.isSome_iff_exists.mp settled.1
  obtain ⟨handle, rfl⟩ := Option.isSome_iff_exists.mp settled.2
  rfl

/-- An entry without a snapshot is another one once it has taken one over. -/
theorem merge_ne_of_snapshot {entry other : LayoutEntry} {handle : SnapshotId}
    (without : entry.snapshot = none) (isHandle : other.snapshot = some handle) :
    entry.merge other ≠ entry := by
  intro same
  have lost : (entry.snapshot <|> other.snapshot) = entry.snapshot :=
    congrArg LayoutEntry.snapshot same
  rw [without, isHandle] at lost
  cases lost

theorem movesTo_eq_true {entry : LayoutEntry} {layout : Option ImageLayout} :
    entry.movesTo layout = true ↔ layout.isSome = true ∧ entry.current ≠ layout := by
  simp [movesTo]

end LayoutEntry

namespace Registry

def Outcome.FoundRoom (outcome : Outcome) : Prop :=
  ∀ notice ∈ outcome.notices, notice.severity ≠ .error

/-! ## The snapshot of a request -/

namespace Filling

/-- What a request comes to that began with the store: it has not asked for its snapshot yet, or
it has it, or there was no room. -/
inductive Since (store : SnapshotStore) (snapshot : Snapshot) : Filling → Prop where
  | unasked : Since store snapshot ⟨store, none, []⟩
  | issued {handle : SnapshotId} {later : SnapshotStore} :
      store.push snapshot = .ok (handle, later) →
      Since store snapshot ⟨later, some (some handle), []⟩
  | refused {error : SnapshotError} :
      store.push snapshot = .error error →
      Since store snapshot ⟨store, some none, [.notRecorded error]⟩

variable {store : SnapshotStore} {snapshot : Snapshot} {filling : Filling}

theorem Since.ask (since : filling.Since store snapshot) :
    (filling.ask snapshot).Since store snapshot := by
  cases since with
  | unasked =>
    unfold Filling.ask
    cases pushed : store.push snapshot with
    | ok issued => exact .issued pushed
    | error error => exact .refused pushed
  | issued pushed => exact .issued pushed
  | refused full => exact .refused full

theorem exists_handle_ask (filling : Filling) (snapshot : Snapshot) :
    ∃ asked, (filling.ask snapshot).handle = some asked := by
  unfold Filling.ask
  split
  · next asked known => exact ⟨asked, known⟩
  · split
    · exact ⟨_, rfl⟩
    · exact ⟨_, rfl⟩

theorem ask_of_asked {asked : Option SnapshotId} (known : filling.handle = some asked) :
    filling.ask snapshot = filling := by
  rw [Filling.ask, known]

/-- A handle once asked for is the one the request ends with. -/
def Toward (final filling : Filling) : Prop :=
  ∀ asked, filling.handle = some asked → final.handle = some asked

end Filling

theorem filler_keeps {store : SnapshotStore} {snapshot : Snapshot} (template : LayoutEntry)
    (filling : Filling) (offer : Offer LayoutEntry) (since : filling.Since store snapshot) :
    ((filler template snapshot).answer filling offer).2.Since store snapshot := by
  cases offer with
  | insert gap => exact since.ask
  | update existing =>
    simp only [Updater.answer, filler]
    split
    · exact since
    · exact since

/-- No answer of a request takes a handle back. -/
theorem filler_back (template : LayoutEntry) (snapshot : Snapshot) {final : Filling}
    (filling : Filling) (offer : Offer LayoutEntry)
    (onTheWay : final.Toward ((filler template snapshot).answer filling offer).2) :
    final.Toward filling := by
  cases offer with
  | insert gap =>
    intro asked known
    refine onTheWay asked ?_
    rw [Updater.answer, filler]
    exact (congrArg Filling.handle (Filling.ask_of_asked known)).trans known
  | update existing =>
    simp only [Updater.answer, filler] at onTheWay
    split at onTheWay
    · exact onTheWay
    · exact onTheWay

/-- What a request answers to a gap, and to an entry. -/
def verdict (template : LayoutEntry) (handle : Option SnapshotId) :
    Option LayoutEntry → Option LayoutEntry
  | none => some { template with snapshot := handle }
  | some existing =>
    if existing.movesTo template.current then some { existing with current := template.current }
    else none

/-- A gap is told of the snapshot that the request ends with. A known entry moves only to a layout
that is specified, and has no need of one. -/
theorem filler_settles {template : LayoutEntry} (snapshot : Snapshot)
    (initial : template.initial.isSome = true) {final : Filling}
    (room : final.handle ≠ some none) :
    (filler template snapshot).Settles final.Toward LayoutEntry.IsSettled
      (verdict template final.handle.join) where
  back := filler_back template snapshot
  insert gap filling onTheWay := by
    obtain ⟨asked, known⟩ := filling.exists_handle_ask snapshot
    have same : final.handle = some asked := onTheWay asked known
    refine ⟨?_, ?_⟩
    · simp only [filler, verdict, Filling.entry, known, same]
    · rintro entry ⟨⟩
      refine ⟨initial, ?_⟩
      cases asked with
      | none => exact absurd same room
      | some handle => simp [same]
  update existing filling settled _ := by
    simp only [filler, verdict]
    by_cases moves : existing.movesTo template.current = true
    · have specified := Option.isSome_iff_exists.mp (LayoutEntry.movesTo_eq_true.mp moves).1
      obtain ⟨layout, current⟩ := specified
      rw [if_pos moves, if_pos moves, settled.merge]
      refine ⟨?_, ?_⟩
      · simp [Filling.entry, current]
      · rintro entry ⟨⟩
        exact settled
    · rw [if_neg moves, if_neg moves]
      exact ⟨rfl, fun entry none => by cases none⟩

/-! ## What a request leaves behind -/

/-- The entry that a request leaves where it found a gap, or another entry. -/
def filled (template : LayoutEntry) (handle : Option SnapshotId) :
    Option LayoutEntry → LayoutEntry
  | none => { template with snapshot := handle }
  | some existing => { existing with current := template.current <|> existing.current }

theorem verdict_orElse (template : LayoutEntry) (handle : Option SnapshotId)
    (content : Option LayoutEntry) :
    (verdict template handle content <|> content) = some (filled template handle content) := by
  cases content with
  | none => rfl
  | some existing =>
    obtain ⟨_, layout, _⟩ := template
    obtain ⟨initial, current, snapshot⟩ := existing
    cases layout with
    | none => rfl
    | some layout =>
      by_cases same : current = some layout
      · simp [verdict, filled, LayoutEntry.movesTo, same]
      · simp [verdict, filled, LayoutEntry.movesTo, same]

/-- A request leaves what it has been over already as it is. -/
theorem filled_filled (template : LayoutEntry) (handle : Option SnapshotId)
    (content : Option LayoutEntry) :
    filled template handle (some (filled template handle content)) =
      filled template handle content := by
  cases content with
  | none => cases current : template.current <;> simp [filled, current]
  | some existing => cases current : template.current <;> simp [filled, current]

/-- What becomes of a registry when a request runs over some spans. -/
structure Filled (before after : Registry) (template : LayoutEntry) (snapshot : Snapshot)
    (spans : List Span) (handle : Option SnapshotId) : Prop where
  image : after.image = before.image
  addressing : after.addressing = before.addressing
  snapshots : after.snapshots.Extends before.snapshots
  issued : ∀ issued ∈ handle,
    before.snapshots.get? issued = none ∧ after.snapshots.get? issued = some snapshot
  revised : SpanMap.Revised before.layouts after.layouts LayoutEntry.IsSettled fun index content =>
    if ∃ span ∈ spans, index ∈ span then some (filled template handle content) else content

theorem Filling.Since.issued_of_room {store : SnapshotStore} {snapshot : Snapshot}
    {filling : Filling} (since : filling.Since store snapshot)
    (room : ∀ notice ∈ filling.notices, notice.severity ≠ .error) :
    filling.handle ≠ some none ∧ filling.store.Extends store ∧
      ∀ issued ∈ filling.handle.join,
        store.get? issued = none ∧ filling.store.get? issued = some snapshot := by
  cases since with
  | unasked => exact ⟨nofun, .refl store, nofun⟩
  | issued pushed =>
    refine ⟨nofun, SnapshotStore.extends_of_push pushed, ?_⟩
    rintro issued ⟨⟩
    exact ⟨SnapshotStore.get?_eq_none_of_push pushed, SnapshotStore.get?_of_push pushed⟩
  | refused _ => exact absurd rfl (room _ List.mem_cons_self)

def requested (limit : Nat) (template : LayoutEntry) (snapshot : Snapshot) (spans : List Span)
    (tiles : List (Tile LayoutEntry)) (store : SnapshotStore) : Rewriting LayoutEntry Filling :=
  Rewriting.splice limit (Updater.family fun _ : Unit => filler template snapshot)
    (spans.map (·, ())) ⟨tiles, ⟨store, none, []⟩, 0⟩

theorem requested_since (limit : Nat) (template : LayoutEntry) (snapshot : Snapshot)
    (spans : List Span) (tiles : List (Tile LayoutEntry)) (store : SnapshotStore) :
    (requested limit template snapshot spans tiles store).state.Since store snapshot :=
  Rewriting.splice_keeps (Filling.Since store snapshot) (fun _ _ => filler_keeps template)
    Filling.Since.unasked

theorem requested_settles {limit : Nat} {template : LayoutEntry} {snapshot : Snapshot}
    {spans : List Span} {tiles : List (Tile LayoutEntry)} {store : SnapshotStore}
    (settled : Tile.AllStored LayoutEntry.IsSettled tiles)
    (initial : template.initial.isSome = true)
    (room : (requested limit template snapshot spans tiles store).state.handle ≠ some none) :
    let done := requested limit template snapshot spans tiles store
    Tile.AllStored LayoutEntry.IsSettled done.tiles ∧
      ∀ index < limit, Tile.contentAt? done.tiles index =
        (Tile.contentAt? tiles index).map fun content =>
          if ∃ span ∈ spans, index ∈ span then
            some (filled template done.state.handle.join content)
          else content := by
  intro done
  have onTheWay : done.state.Toward done.state := fun _ known => known
  have steady : ∀ content,
      (verdict template done.state.handle.join
          (verdict template done.state.handle.join content <|> content) <|>
        (verdict template done.state.handle.join content <|> content)) =
      (verdict template done.state.handle.join content <|> content) := by
    intro content
    rw [verdict_orElse, verdict_orElse, filled_filled]
  obtain ⟨settledLater, pointwise⟩ := Rewriting.splice_spans_settles limit spans
    (filler_settles snapshot initial room) steady settled onTheWay
  refine ⟨settledLater, ?_⟩
  intro index bound
  refine (pointwise index bound).trans ?_
  simp only [verdict_orElse]
  rfl

section

variable {registry : Registry} {template : LayoutEntry} {snapshot : Snapshot} {swept : Swept}
  {tiles : List (Tile LayoutEntry)}

theorem fill_becomes (template : LayoutEntry) (snapshot : Snapshot) (swept : Swept)
    (holds : LawfulSpanMap.Holds registry.layouts tiles) :
    (Walk.start registry.layouts .fresh (⟨registry.snapshots, none, []⟩ : Filling)).Becomes
      ((filler template snapshot).runAll swept.spans
        (.start registry.layouts .fresh (⟨registry.snapshots, none, []⟩ : Filling))) []
      (requested (SpanMap.limit registry.layouts) template snapshot swept.spans tiles
        registry.snapshots) :=
  (filler template snapshot).runAll_becomes holds swept.spans ⟨registry.snapshots, none, []⟩

theorem fill_holds (template : LayoutEntry) (snapshot : Snapshot) (swept : Swept)
    (holds : LawfulSpanMap.Holds registry.layouts tiles) :
    ∃ tiles, LawfulSpanMap.Holds
      (registry.fill template snapshot swept).registry.layouts tiles :=
  ⟨_, (fill_becomes template snapshot swept holds).holds⟩

theorem fill_limit (template : LayoutEntry) (snapshot : Snapshot) (swept : Swept)
    (holds : LawfulSpanMap.Holds registry.layouts tiles) :
    SpanMap.limit (registry.fill template snapshot swept).registry.layouts =
      SpanMap.limit registry.layouts :=
  (fill_becomes template snapshot swept holds).limit

theorem fill_since (template : LayoutEntry) (snapshot : Snapshot) (swept : Swept)
    (holds : LawfulSpanMap.Holds registry.layouts tiles) :
    ∃ filling : Filling, filling.Since registry.snapshots snapshot ∧
      (registry.fill template snapshot swept).registry.snapshots = filling.store ∧
      (registry.fill template snapshot swept).notices = filling.notices := by
  have becomes := fill_becomes template snapshot swept holds
  refine ⟨_, ?_, rfl, rfl⟩
  rw [becomes.state]
  exact requested_since _ _ _ _ _ _

theorem fill_filled (holds : LawfulSpanMap.Holds registry.layouts tiles)
    (settled : Tile.AllStored LayoutEntry.IsSettled tiles)
    (initial : template.initial.isSome = true)
    (room : (registry.fill template snapshot swept).FoundRoom) :
    ∃ handle, Filled registry (registry.fill template snapshot swept).registry template
      snapshot swept.spans handle := by
  have becomes := fill_becomes template snapshot swept holds
  have since := requested_since (SpanMap.limit registry.layouts) template snapshot swept.spans tiles
    registry.snapshots
  rw [← becomes.state] at since
  obtain ⟨served, extended, issued⟩ := since.issued_of_room room
  rw [becomes.state] at served
  obtain ⟨settledLater, pointwise⟩ := requested_settles settled initial served
  rw [← becomes.state] at pointwise
  exact ⟨_, rfl, rfl, extended, issued, becomes.revised holds settledLater pointwise⟩

theorem fill_foundRoom (template : LayoutEntry) (snapshot : Snapshot) (swept : Swept)
    (holds : LawfulSpanMap.Holds registry.layouts tiles)
    (room : registry.snapshots.snapshots.size < SnapshotStore.capacity) :
    (registry.fill template snapshot swept).FoundRoom ∧
      (registry.fill template snapshot swept).registry.snapshots.snapshots.size ≤
        registry.snapshots.snapshots.size + 1 := by
  obtain ⟨filling, since, store, notices⟩ := fill_since template snapshot swept holds
  rw [Outcome.FoundRoom, notices, store]
  cases since with
  | unasked => exact ⟨nofun, Nat.le_succ _⟩
  | issued pushed =>
    obtain ⟨-, -, rfl⟩ := SnapshotStore.push_eq_ok pushed
    exact ⟨nofun, Nat.le_of_eq (Array.size_push _)⟩
  | refused full =>
    rw [SnapshotStore.push, if_pos room] at full
    cases full

end

end Registry

end LayoutTracking
