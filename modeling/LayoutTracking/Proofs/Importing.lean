import LayoutTracking.Proofs.Filling

/-!
# Imports and the snapshots they copy

An import copies a snapshot of the source when an entry that has it first meets a gap, and keeps the
copy for every later entry with that snapshot. No two snapshots share a copy.
-/

set_option autoImplicit false

namespace LayoutTracking.Registry

namespace Importing

/-- The store has grown out of the target, and the copies in it are those of the source. -/
structure Sound (target source : SnapshotStore) (importing : Importing) : Prop where
  extended : importing.store.Extends target
  resolves : ∀ handle copied, importing.copies.lookup handle = some (some copied) →
    ∃ snapshot, source.get? handle = some snapshot ∧ importing.store.get? copied = some snapshot
  apart : ∀ first second copied, importing.copies.lookup first = some (some copied) →
    importing.copies.lookup second = some (some copied) → first = second
  missing : ∀ handle, importing.copies.lookup handle = some none →
    source.get? handle = none ∨ ∃ notice ∈ importing.notices, notice.severity = .error

/-- What became of a handle stays so until the end of the import. -/
def Toward (final importing : Importing) : Prop :=
  ∀ handle copied, importing.copies.lookup handle = some copied →
    final.copies.lookup handle = some copied

variable {target source : SnapshotStore} {importing : Importing}

/-- What copying the snapshot of a handle comes to, and what it leaves. -/
inductive Copied (source : SnapshotStore) (importing : Importing) (handle : SnapshotId) :
    Option SnapshotId × Importing → Prop where
  | known {copied : Option SnapshotId} :
      importing.copies.lookup handle = some copied →
      Copied source importing handle (copied, importing)
  | absent :
      importing.copies.lookup handle = none → source.get? handle = none →
      Copied source importing handle
        (none, { importing with copies := (handle, none) :: importing.copies })
  | issued {snapshot : Snapshot} {copied : SnapshotId} {store : SnapshotStore} :
      importing.copies.lookup handle = none → source.get? handle = some snapshot →
      importing.store.push snapshot = .ok (copied, store) →
      Copied source importing handle
        (some copied, { importing with store, copies := (handle, some copied) :: importing.copies })
  | refused (error : SnapshotError) :
      importing.copies.lookup handle = none →
      Copied source importing handle
        (none, { importing with
          copies := (handle, none) :: importing.copies
          notices := importing.notices ++ [.notCopied error] })

theorem copied_copy (source : SnapshotStore) (importing : Importing) (handle : SnapshotId) :
    Copied source importing handle (importing.copy source handle) := by
  unfold Importing.copy
  cases known : importing.copies.lookup handle with
  | some copied => exact .known known
  | none =>
    cases resolved : source.get? handle with
    | none => exact .absent known resolved
    | some snapshot =>
      simp only
      cases pushed : importing.store.push snapshot with
      | ok issued => exact .issued known resolved pushed
      | error error => exact .refused error known

theorem lookup_cons_self (handle : SnapshotId) (copied : Option SnapshotId)
    (copies : List (SnapshotId × Option SnapshotId)) :
    ((handle, copied) :: copies).lookup handle = some copied := by
  simp

theorem lookup_cons_of_ne {handle other : SnapshotId} (differs : other ≠ handle)
    (copied : Option SnapshotId) (copies : List (SnapshotId × Option SnapshotId)) :
    ((handle, copied) :: copies).lookup other = copies.lookup other := by
  rw [List.lookup_cons, beq_false_of_ne differs]

theorem lookup_cons_cases {copies : List (SnapshotId × Option SnapshotId)}
    {handle other : SnapshotId} {copied settled : Option SnapshotId}
    (found : ((handle, copied) :: copies).lookup other = some settled) :
    (other = handle ∧ settled = copied) ∨ copies.lookup other = some settled := by
  by_cases same : other = handle
  · subst same
    rw [lookup_cons_self] at found
    exact .inl ⟨rfl, (Option.some.inj found).symm⟩
  · rw [lookup_cons_of_ne same] at found
    exact .inr found

theorem lookup_cons_of_lookup {copies : List (SnapshotId × Option SnapshotId)}
    {handle other : SnapshotId} {settled : Option SnapshotId} (unknown : copies.lookup handle = none)
    (found : copies.lookup other = some settled) (copied : Option SnapshotId) :
    ((handle, copied) :: copies).lookup other = some settled := by
  rw [lookup_cons_of_ne _ copied, found]
  rintro rfl
  rw [unknown] at found
  cases found

theorem Copied.lookup {handle : SnapshotId} {reply : Option SnapshotId × Importing}
    (outcome : Copied source importing handle reply) :
    reply.2.copies.lookup handle = some reply.1 := by
  cases outcome with
  | known found => exact found
  | absent => exact lookup_cons_self _ _ _
  | issued => exact lookup_cons_self _ _ _
  | refused => exact lookup_cons_self _ _ _

theorem Copied.toward {handle : SnapshotId} {reply : Option SnapshotId × Importing}
    (outcome : Copied source importing handle reply) : reply.2.Toward importing := by
  intro other settled found
  cases outcome with
  | known => exact found
  | absent unknown => exact lookup_cons_of_lookup unknown found _
  | issued unknown => exact lookup_cons_of_lookup unknown found _
  | refused error unknown => exact lookup_cons_of_lookup unknown found _

theorem sound_start (target source : SnapshotStore) : Sound target source ⟨target, [], []⟩ :=
  ⟨.refl target, nofun, nofun, nofun⟩

theorem Sound.without (sound : Sound target source importing) {handle : SnapshotId}
    (notices : List Notice)
    (reason : source.get? handle = none ∨ ∃ notice ∈ notices, notice.severity = .error) :
    Sound target source { importing with
      copies := (handle, none) :: importing.copies
      notices := importing.notices ++ notices } where
  extended := sound.extended
  resolves other copied found := by
    rcases lookup_cons_cases found with ⟨-, none⟩ | earlier
    · cases none
    · exact sound.resolves other copied earlier
  apart first second copied foundFirst foundSecond := by
    rcases lookup_cons_cases foundFirst with ⟨-, none⟩ | earlierFirst
    · cases none
    · rcases lookup_cons_cases foundSecond with ⟨-, none⟩ | earlierSecond
      · cases none
      · exact sound.apart first second copied earlierFirst earlierSecond
  missing other found := by
    rcases lookup_cons_cases found with ⟨rfl, -⟩ | earlier
    · rcases reason with unresolved | ⟨notice, member, isError⟩
      · exact .inl unresolved
      · exact .inr ⟨notice, List.mem_append_right _ member, isError⟩
    · rcases sound.missing other earlier with unresolved | ⟨notice, member, isError⟩
      · exact .inl unresolved
      · exact .inr ⟨notice, List.mem_append_left _ member, isError⟩

theorem Sound.issued (sound : Sound target source importing) {handle copied : SnapshotId}
    {snapshot : Snapshot} {store : SnapshotStore} (resolved : source.get? handle = some snapshot)
    (pushed : importing.store.push snapshot = .ok (copied, store)) :
    Sound target source
      { importing with store, copies := (handle, some copied) :: importing.copies } where
  extended := (SnapshotStore.extends_of_push pushed).trans sound.extended
  resolves other earlier found := by
    rcases lookup_cons_cases found with ⟨rfl, same⟩ | before
    · obtain rfl := Option.some.inj same
      exact ⟨snapshot, resolved, SnapshotStore.get?_of_push pushed⟩
    · obtain ⟨kept, inSource, inStore⟩ := sound.resolves other earlier before
      exact ⟨kept, inSource, (SnapshotStore.extends_of_push pushed).get? inStore⟩
  apart first second shared foundFirst foundSecond := by
    have fresh (other : SnapshotId) (before : importing.copies.lookup other = some (some copied)) :
        False := by
      obtain ⟨kept, -, inStore⟩ := sound.resolves other copied before
      rw [SnapshotStore.get?_eq_none_of_push pushed] at inStore
      cases inStore
    rcases lookup_cons_cases foundFirst with ⟨rfl, sameFirst⟩ | earlierFirst
    · rcases lookup_cons_cases foundSecond with ⟨rfl, -⟩ | earlierSecond
      · rfl
      · obtain rfl := Option.some.inj sameFirst
        exact absurd earlierSecond (fresh second)
    · rcases lookup_cons_cases foundSecond with ⟨rfl, sameSecond⟩ | earlierSecond
      · obtain rfl := Option.some.inj sameSecond
        exact absurd earlierFirst (fresh first)
      · exact sound.apart first second shared earlierFirst earlierSecond
  missing other found := by
    rcases lookup_cons_cases found with ⟨-, none⟩ | earlier
    · cases none
    · exact sound.missing other earlier

theorem Sound.copied (sound : Sound target source importing) {handle : SnapshotId}
    {reply : Option SnapshotId × Importing}
    (outcome : Copied source importing handle reply) : Sound target source reply.2 := by
  cases outcome with
  | known => exact sound
  | absent unknown unresolved => simpa using sound.without [] (.inl unresolved)
  | issued unknown resolved pushed => exact sound.issued resolved pushed
  | refused error unknown => exact sound.without _ (.inr ⟨_, List.mem_singleton_self _, rfl⟩)

end Importing

/-! ## One source entry -/

theorem importer_keeps {source : SnapshotStore} (Kept : Importing → Prop)
    (keeps : ∀ importing handle, Kept importing → Kept (importing.copy source handle).2)
    (entry : LayoutEntry) (importing : Importing) (offer : Offer LayoutEntry)
    (kept : Kept importing) : Kept ((importer source entry).answer importing offer).2 := by
  have keepsAny : Kept (importing.copy? source entry.snapshot).2 := by
    cases entry.snapshot with
    | none => exact kept
    | some handle => exact keeps importing handle kept
  cases offer with
  | insert gap => exact keepsAny
  | update existing =>
    simp only [Updater.answer, importer]
    split
    · exact kept
    · exact keepsAny

def Importing.copyOf (final : Importing) (handle : SnapshotId) : Option SnapshotId :=
  (final.copies.lookup handle).join

/-- The entry that an import leaves where a source entry met a gap, or another entry. -/
def imported (copyOf : SnapshotId → Option SnapshotId) (entry : LayoutEntry) :
    Option LayoutEntry → LayoutEntry
  | none => { entry with snapshot := entry.snapshot.bind copyOf }
  | some existing => { existing with current := entry.current <|> existing.current }

def importVerdict (copyOf : SnapshotId → Option SnapshotId) (entry : LayoutEntry) :
    Option LayoutEntry → Option LayoutEntry
  | none => some (imported copyOf entry none)
  | some existing =>
    if imported copyOf entry (some existing) = existing then none
    else some (imported copyOf entry (some existing))

theorem importVerdict_orElse (copyOf : SnapshotId → Option SnapshotId) (entry : LayoutEntry)
    (content : Option LayoutEntry) :
    (importVerdict copyOf entry content <|> content) = some (imported copyOf entry content) := by
  cases content with
  | none => rfl
  | some existing =>
    by_cases same : imported copyOf entry (some existing) = existing
    · rw [importVerdict, if_pos same, same]
      rfl
    · rw [importVerdict, if_neg same]
      rfl

theorem importer_settles {source : SnapshotStore} {entry : LayoutEntry} {final : Importing}
    (settled : entry.IsSettled)
    (full : ∀ handle ∈ entry.snapshot, final.copies.lookup handle ≠ some none) :
    (importer source entry).Settles final.Toward LayoutEntry.IsSettled
      (importVerdict final.copyOf entry) where
  back importing offer onTheWay := by
    apply Classical.byContradiction
    intro astray
    refine importer_keeps (¬ final.Toward ·) ?_ entry importing offer astray onTheWay
    intro earlier handle missed later
    refine missed ?_
    intro other copied found
    exact later other copied ((Importing.copied_copy source earlier handle).toward other copied found)
  insert gap importing onTheWay := by
    obtain ⟨initial, current, snapshot⟩ := entry
    obtain ⟨handle, rfl⟩ := Option.isSome_iff_exists.mp settled.2
    have found := onTheWay handle _ (Importing.copied_copy source importing handle).lookup
    have same : final.copyOf handle = (importing.copy source handle).1 :=
      congrArg Option.join found
    refine ⟨?_, ?_⟩
    · simp only [importer, Importing.copy?, importVerdict, imported, Option.bind_some, same]
    · rintro value ⟨⟩
      refine ⟨settled.1, ?_⟩
      simp only [imported, Option.bind_some, same]
      cases copied : (importing.copy source handle).1 with
      | none =>
        rw [copied] at found
        exact absurd found (full handle rfl)
      | some copy => rfl
  update existing importing good _ := by
    simp only [importer, importVerdict, if_pos good.2, good.merge]
    refine ⟨rfl, ?_⟩
    by_cases same : imported final.copyOf entry (some existing) = existing
    · rw [if_pos same]
      intro value none
      cases none
    · rw [if_neg same]
      rintro value ⟨⟩
      exact good

/-! ## What an import leaves behind -/

/-- What becomes of a registry when entries are merged into it, each over its span. -/
structure Imported (before after : Registry) (source : SnapshotStore)
    (entries : List (Span × LayoutEntry)) (copyOf : SnapshotId → Option SnapshotId) : Prop where
  image : after.image = before.image
  addressing : after.addressing = before.addressing
  snapshots : after.snapshots.Extends before.snapshots
  resolves : ∀ handle copied, copyOf handle = some copied →
    ∃ snapshot, source.get? handle = some snapshot ∧ after.snapshots.get? copied = some snapshot
  apart : ∀ first second copied, copyOf first = some copied → copyOf second = some copied →
    first = second
  revised : SpanMap.Revised before.layouts after.layouts LayoutEntry.IsSettled fun index content =>
    (entries.filter fun entry => index ∈ entry.1).foldl
      (fun content entry => some (imported copyOf entry.2 content)) content

def importEntries (registry : Registry) (source : SnapshotStore)
    (entries : List (Span × LayoutEntry)) : Outcome :=
  let walk := entries.foldl
    (fun (walk : Walk (AdaptiveMap LayoutEntry) Importing) entry =>
      let (updater, state) := Updater.family (importer source) entry.2 walk.state
      updater.run entry.1 { walk with state })
    (.start registry.layouts .fresh (⟨registry.snapshots, [], []⟩ : Importing))
  { registry := { registry with layouts := walk.map, snapshots := walk.state.store }
    changed := walk.changed
    notices := walk.state.notices
    failure := none }

theorem importFrom_eq {registry source : Registry} (compatible : registry.key = source.key) :
    registry.importFrom source =
      registry.importEntries source.snapshots (SpanMap.entries source.layouts) := by
  rw [importFrom, if_pos compatible, importEntries]
  rfl

theorem importFrom_of_ne {registry source : Registry} (differ : registry.key ≠ source.key) :
    registry.importFrom source = registry.setAside (.incompatible source.key registry.key) :=
  if_neg differ

def merged (limit : Nat) (source : SnapshotStore) (entries : List (Span × LayoutEntry))
    (tiles : List (Tile LayoutEntry)) (store : SnapshotStore) : Rewriting LayoutEntry Importing :=
  Rewriting.splice limit (Updater.family (importer source)) entries ⟨tiles, ⟨store, [], []⟩, 0⟩

theorem merged_sound (limit : Nat) (source : SnapshotStore) (entries : List (Span × LayoutEntry))
    (tiles : List (Tile LayoutEntry)) (store : SnapshotStore) :
    (merged limit source entries tiles store).state.Sound store source := by
  refine Rewriting.splice_keeps (Importing.Sound store source) ?_ (Importing.sound_start store source)
  intro entry _
  refine importer_keeps (Importing.Sound store source) ?_ entry.2
  intro importing handle sound
  exact sound.copied (Importing.copied_copy source importing handle)

theorem foldl_importVerdict (copyOf : SnapshotId → Option SnapshotId)
    (entries : List (Span × LayoutEntry)) (content : Option LayoutEntry) :
    entries.foldl (fun content entry => importVerdict copyOf entry.2 content <|> content) content =
      entries.foldl (fun content entry => some (imported copyOf entry.2 content)) content := by
  simp only [importVerdict_orElse]

theorem merged_settles {limit : Nat} {source : SnapshotStore}
    {entries : List (Span × LayoutEntry)} {tiles : List (Tile LayoutEntry)} {store : SnapshotStore}
    (settled : Tile.AllStored LayoutEntry.IsSettled tiles)
    (sources : ∀ entry ∈ entries, entry.2.IsSettled)
    (full : ∀ entry ∈ entries, ∀ handle ∈ entry.2.snapshot,
      (merged limit source entries tiles store).state.copies.lookup handle ≠ some none) :
    let done := merged limit source entries tiles store
    Tile.AllStored LayoutEntry.IsSettled done.tiles ∧
      ∀ index < limit, Tile.contentAt? done.tiles index =
        (Tile.contentAt? tiles index).map
          ((entries.filter fun entry => index ∈ entry.1).foldl
            fun content entry => some (imported done.state.copyOf entry.2 content)) := by
  intro done
  have onTheWay : done.state.Toward done.state := fun _ _ found => found
  obtain ⟨settledLater, pointwise⟩ := Rewriting.splice_settles (importVerdict done.state.copyOf)
    (fun entry member => importer_settles (sources entry member) (full entry member)) settled
    onTheWay
  refine ⟨settledLater, ?_⟩
  intro index bound
  refine (pointwise index bound).trans ?_
  congr 1
  funext content
  exact foldl_importVerdict _ _ content

theorem importEntries_becomes {registry : Registry} {tiles : List (Tile LayoutEntry)}
    (holds : LawfulSpanMap.Holds registry.layouts tiles) (source : SnapshotStore)
    (entries : List (Span × LayoutEntry)) :
    (Walk.start registry.layouts .fresh (⟨registry.snapshots, [], []⟩ : Importing)).Becomes
      (entries.foldl
        (fun (walk : Walk (AdaptiveMap LayoutEntry) Importing) entry =>
          let (updater, state) := Updater.family (importer source) entry.2 walk.state
          updater.run entry.1 { walk with state })
        (.start registry.layouts .fresh (⟨registry.snapshots, [], []⟩ : Importing))) []
      (merged (SpanMap.limit registry.layouts) source entries tiles registry.snapshots) := by
  have fresh : Cursor.fresh.Fits registry.layouts := Cursor.fits_of_slot_eq_none rfl _
  exact (Walk.becomes_start holds fresh (⟨registry.snapshots, [], []⟩ : Importing)).mergeAll
    (Updater.family (importer source)) entries

theorem importEntries_imported {registry : Registry} {source : SnapshotStore}
    {entries : List (Span × LayoutEntry)} {tiles : List (Tile LayoutEntry)}
    (holds : LawfulSpanMap.Holds registry.layouts tiles)
    (settled : Tile.AllStored LayoutEntry.IsSettled tiles)
    (sources : ∀ entry ∈ entries, entry.2.IsSettled)
    (resolve : ∀ entry ∈ entries, ∀ handle ∈ entry.2.snapshot,
      (source.get? handle).isSome = true)
    (room : (registry.importEntries source entries).FoundRoom) :
    ∃ copyOf, Imported registry (registry.importEntries source entries).registry source entries
      copyOf := by
  have becomes := importEntries_becomes holds source entries
  have sound := merged_sound (SpanMap.limit registry.layouts) source entries tiles
    registry.snapshots
  rw [← becomes.state] at sound
  have full : ∀ entry ∈ entries, ∀ handle ∈ entry.2.snapshot,
      (merged (SpanMap.limit registry.layouts) source entries tiles
        registry.snapshots).state.copies.lookup handle ≠ some none := by
    intro entry member handle isHandle none
    rw [← becomes.state] at none
    rcases sound.missing handle none with unresolved | ⟨notice, isNotice, isError⟩
    · have resolves := resolve entry member handle isHandle
      rw [unresolved] at resolves
      cases resolves
    · exact room notice isNotice isError
  obtain ⟨settledLater, pointwise⟩ := merged_settles settled sources full
  rw [← becomes.state] at pointwise
  refine ⟨_, rfl, rfl, sound.extended, ?_, ?_, becomes.revised holds settledLater pointwise⟩
  · intro handle copied isCopy
    exact sound.resolves handle copied (Option.join_eq_some_iff.mp isCopy)
  · intro first second copied isFirst isSecond
    exact sound.apart first second copied (Option.join_eq_some_iff.mp isFirst)
      (Option.join_eq_some_iff.mp isSecond)

end LayoutTracking.Registry
