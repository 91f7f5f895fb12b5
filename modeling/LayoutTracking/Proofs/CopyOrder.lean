import LayoutTracking.Proofs.Handles
import LayoutTracking.Proofs.MergingOnce
import LayoutTracking.Proofs.Recordings
import Mathlib.Data.List.Perm.Subperm

/-!
# The order of copies

An import asks for the copy of a snapshot when an entry with its handle meets a gap, and makes it at
the first time of asking. So the copies come into the store in the order in which the indices of the
gaps need them, one for each handle.
-/

set_option autoImplicit false

namespace LayoutTracking

/-- The later store is the earlier one with the snapshots behind what it had. -/
structure SnapshotStore.Appends (before after : SnapshotStore) (added : List Snapshot) : Prop where
  id : after.id = before.id
  snapshots : after.snapshots.toList = before.snapshots.toList ++ added

theorem SnapshotStore.appends_nil (store : SnapshotStore) : store.Appends store [] :=
  ⟨rfl, (List.append_nil _).symm⟩

theorem SnapshotStore.Appends.push {first second third : SnapshotStore} {added : List Snapshot}
    (appends : first.Appends second added) {handle : SnapshotId} {snapshot : Snapshot}
    (pushed : second.push snapshot = .ok (handle, third)) :
    first.Appends third (added ++ [snapshot]) := by
  obtain ⟨-, -, rfl⟩ := push_eq_ok pushed
  refine ⟨appends.id, ?_⟩
  rw [Array.toList_push, appends.snapshots, List.append_assoc]

/-- Handles that resolve in one store are told apart by their places. -/
theorem SnapshotStore.nodup_places {store : SnapshotStore} {handles : List SnapshotId}
    (distinct : handles.Nodup)
    (resolve : ∀ handle ∈ handles, (store.get? handle).isSome = true) :
    (handles.map (·.index.toNat)).Nodup := by
  refine List.Nodup.map_on ?_ distinct
  intro first isFirst second isSecond same
  have owned : ∀ handle ∈ handles, handle.store = store.id := by
    intro handle member
    obtain ⟨snapshot, found⟩ := Option.isSome_iff_exists.mp (resolve handle member)
    exact (get?_eq_some.mp found).1
  cases first
  cases second
  rw [SnapshotId.mk.injEq]
  exact ⟨(owned _ isFirst).trans (owned _ isSecond).symm, UInt32.toNat_inj.mp same⟩

theorem SnapshotStore.length_le {store : SnapshotStore} {handles : List SnapshotId}
    (distinct : handles.Nodup)
    (resolve : ∀ handle ∈ handles, (store.get? handle).isSome = true) :
    handles.length ≤ store.snapshots.size := by
  have among : handles.map (·.index.toNat) ⊆ List.range store.snapshots.size := by
    intro place member
    obtain ⟨handle, isHandle, rfl⟩ := List.mem_map.mp member
    obtain ⟨snapshot, found⟩ := Option.isSome_iff_exists.mp (resolve handle isHandle)
    exact List.mem_range.mpr (Array.getElem?_eq_some_iff.mp (get?_eq_some.mp found).2).1
  have fewer := ((nodup_places distinct resolve).subperm among).length_le
  rwa [List.length_map, List.length_range] at fewer

section

variable {M V σ : Type} [SpanMap M V]

/-- Something in the span is unknown to the map. -/
def SpanMap.LacksIn (map : M) (span : Span) : Prop :=
  ∃ index ∈ span, index < limit map ∧ value? map index = none

instance (map : M) (span : Span) : Decidable (SpanMap.LacksIn map span) :=
  decidable_of_iff
    (∃ index < span.stop, span.start ≤ index ∧ index < SpanMap.limit map ∧
      SpanMap.value? map index = none) <| by
    simp only [SpanMap.LacksIn, Span.mem_iff]
    exact exists_congr fun index => by rw [← and_assoc, and_comm (a := index < span.stop)]

variable [LawfulSpanMap M V]

/-- A run leaves what lies outside its span. -/
theorem Updater.value?_run_of_not_mem (updater : Updater V σ) {span : Span} {walk : Walk M σ}
    {tiles : List (Tile V)} (holds : LawfulSpanMap.Holds walk.map tiles)
    (fits : walk.cursor.Fits walk.map) {index : Nat} (outside : index ∉ span) :
    SpanMap.value? (updater.run span walk).map index = SpanMap.value? walk.map index := by
  have becomes := updater.run_becomes span holds fits
  have later := becomes.holds
  rw [List.nil_append] at later
  by_cases bound : index < SpanMap.limit walk.map
  · obtain ⟨_, _, -, answered⟩ := updater.exists_answer
      (span.intersect ⟨0, SpanMap.limit walk.map⟩) walk.state (SpanMap.contentAt?_eq holds bound)
    rw [SpanMap.value?_eq later, answered,
      if_neg fun inside => outside (Span.mem_intersect.mp inside).1]
    rfl
  · have past := Nat.le_of_not_lt bound
    rw [SpanMap.value?_eq_none holds past]
    exact SpanMap.value?_eq_none later (becomes.limit.symm ▸ past)

end

namespace Registry

variable {registry source : Registry}

/-! ## Copies in the order of need -/

namespace Importing

variable {target source : SnapshotStore} {importing : Importing} {met : List SnapshotId}
  {handle : SnapshotId}

/-- The handles that were met, each where it was met first. -/
def handles (importing : Importing) : List SnapshotId := (importing.copies.map (·.1)).reverse

/-- There was no room for some copy. -/
def Failed (importing : Importing) : Prop :=
  ∃ notice ∈ importing.notices, notice.severity = .error

/-- Of the handles that were met, the store has taken one copy each, in the order of first
meeting. -/
structure Took (target source : SnapshotStore) (met : List SnapshotId) (importing : Importing) :
    Prop where
  nodup : importing.handles.Nodup
  mem_iff : ∀ handle, handle ∈ importing.handles ↔ handle ∈ met
  ordered : importing.handles.Pairwise fun earlier later =>
    ∃ front back, met = front ++ back ∧ earlier ∈ front ∧ later ∉ front
  appended : ∃ copies, List.Forall₂ (fun handle copy => source.get? handle = some copy)
    importing.handles copies ∧ target.Appends importing.store copies
  quiet : importing.notices = []

theorem lookup_eq_none_iff :
    importing.copies.lookup handle = none ↔ handle ∉ importing.handles := by
  rw [lookup_eq_none_iff_not_mem, handles, List.mem_reverse]

theorem took_start (target source : SnapshotStore) : Took target source [] ⟨target, [], []⟩ where
  nodup := .nil
  mem_iff _ := Iff.rfl
  ordered := .nil
  appended := ⟨[], .nil, target.appends_nil⟩
  quiet := rfl

theorem Took.again (took : Took target source met importing) (known : handle ∈ met) :
    Took target source (met ++ [handle]) importing where
  nodup := took.nodup
  mem_iff other := by
    rw [took.mem_iff, List.mem_append, List.mem_singleton]
    constructor
    · exact .inl
    · rintro (before | rfl)
      · exact before
      · exact known
  ordered := took.ordered.imp fun ⟨front, back, split, isEarlier, notLater⟩ =>
    ⟨front, back ++ [handle], by rw [split, List.append_assoc], isEarlier, notLater⟩
  appended := took.appended
  quiet := took.quiet

theorem Took.met_of_lookup (took : Took target source met importing)
    {copied : Option SnapshotId} (found : importing.copies.lookup handle = some copied) :
    handle ∈ met := by
  refine (took.mem_iff handle).mp ?_
  apply Classical.byContradiction
  intro absent
  rw [lookup_eq_none_iff.mpr absent] at found
  cases found

theorem Took.issued (took : Took target source met importing) (unknown : handle ∉ met)
    {snapshot : Snapshot} (resolved : source.get? handle = some snapshot) {copied : SnapshotId}
    {store : SnapshotStore} (pushed : importing.store.push snapshot = .ok (copied, store)) :
    Took target source (met ++ [handle])
      { importing with store, copies := (handle, some copied) :: importing.copies } := by
  have handles : ({ importing with store, copies := (handle, some copied) :: importing.copies } :
      Importing).handles = importing.handles ++ [handle] := List.reverse_cons
  have fresh : handle ∉ importing.handles := mt (took.mem_iff handle).mp unknown
  refine ⟨?_, ?_, ?_, ?_, took.quiet⟩
  · rw [handles]
    exact List.nodup_append.mpr ⟨took.nodup, List.nodup_singleton handle, fun earlier member later
      isLast same => fresh (List.mem_singleton.mp isLast ▸ same ▸ member)⟩
  · intro other
    rw [handles, List.mem_append, List.mem_append, took.mem_iff]
  · rw [handles]
    refine List.pairwise_append.mpr ⟨?_, List.pairwise_singleton _ _, ?_⟩
    · exact took.ordered.imp fun ⟨front, back, split, isEarlier, notLater⟩ =>
        ⟨front, back ++ [handle], by rw [split, List.append_assoc], isEarlier, notLater⟩
    · intro earlier member later isLast
      obtain rfl := List.mem_singleton.mp isLast
      exact ⟨met, [later], rfl, (took.mem_iff earlier).mp member, unknown⟩
  · obtain ⟨copies, resolves, appends⟩ := took.appended
    rw [handles]
    exact ⟨copies ++ [snapshot], List.rel_append resolves (.cons resolved .nil),
      appends.push pushed⟩

theorem Took.size_eq (took : Took target source met importing) :
    importing.store.snapshots.size = target.snapshots.size + importing.handles.length := by
  obtain ⟨copies, resolved, appends⟩ := took.appended
  rw [← Array.length_toList, appends.snapshots, List.length_append, resolved.length_eq,
    Array.length_toList]

theorem Took.resolves (took : Took target source met importing) :
    ∀ handle ∈ importing.handles, (source.get? handle).isSome = true := by
  obtain ⟨copies, resolved, -⟩ := took.appended
  generalize importing.handles = handles at resolved
  induction resolved with
  | nil => exact List.forall_mem_nil _
  | cons found _ ih => exact List.forall_mem_cons.mpr ⟨Option.isSome_of_eq_some found, ih⟩

/-- Meeting one more handle: it has been copied already, or is copied now, or there is no room. -/
theorem Took.copied (took : Took target source met importing)
    (resolves : (source.get? handle).isSome = true) {reply : Option SnapshotId × Importing}
    (copied : Copied source importing handle reply) :
    reply.2.Failed ∨ Took target source (met ++ [handle]) reply.2 := by
  cases copied with
  | known found => exact .inr (took.again (took.met_of_lookup found))
  | absent _ missing =>
    rw [missing] at resolves
    cases resolves
  | issued unknown resolved pushed =>
    exact .inr (took.issued (mt (took.mem_iff handle).mpr (lookup_eq_none_iff.mp unknown))
      resolved pushed)
  | refused error _ => exact .inl ⟨_, List.mem_append_right _ (List.mem_singleton_self _), rfl⟩

theorem Failed.copied (failed : importing.Failed) {reply : Option SnapshotId × Importing}
    (copied : Copied source importing handle reply) : reply.2.Failed := by
  obtain ⟨notice, member, isError⟩ := failed
  cases copied with
  | known => exact ⟨notice, member, isError⟩
  | absent => exact ⟨notice, member, isError⟩
  | issued => exact ⟨notice, member, isError⟩
  | refused => exact ⟨notice, List.mem_append_left _ member, isError⟩

def copyAll (source : SnapshotStore) (importing : Importing) (handles : List SnapshotId) :
    Importing :=
  handles.foldl (fun importing handle => (importing.copy source handle).2) importing

/-- What one more handle keeps, all of them keep. -/
theorem copyAll_keeps (Held : List SnapshotId → Importing → Prop) {more : List SnapshotId}
    (resolves : ∀ handle ∈ more, (source.get? handle).isSome = true)
    (step : ∀ met importing handle, (source.get? handle).isSome = true → Held met importing →
      Held (met ++ [handle]) (importing.copy source handle).2)
    (held : Held met importing) : Held (met ++ more) (importing.copyAll source more) := by
  induction more generalizing importing met with
  | nil =>
    rw [List.append_nil]
    exact held
  | cons handle rest ih =>
    obtain ⟨resolvesNow, resolvesLater⟩ := List.forall_mem_cons.mp resolves
    rw [List.append_cons]
    exact ih resolvesLater (step met importing handle resolvesNow held)

theorem took_copyAll {more : List SnapshotId}
    (resolves : ∀ handle ∈ more, (source.get? handle).isSome = true)
    (sofar : importing.Failed ∨ Took target source met importing) :
    (importing.copyAll source more).Failed ∨
      Took target source (met ++ more) (importing.copyAll source more) := by
  refine copyAll_keeps (fun met importing => importing.Failed ∨ Took target source met importing)
    resolves ?_ sofar
  intro met importing handle resolvesNow sofar
  have copied := copied_copy source importing handle
  rcases sofar with failed | took
  · exact .inl (failed.copied copied)
  · exact took.copied resolvesNow copied

theorem copy_of_lookup {copied : Option SnapshotId}
    (found : importing.copies.lookup handle = some copied) :
    importing.copy source handle = (copied, importing) := by
  rw [copy, found]

/-- A store with a place for every snapshot of the source does not run out. -/
theorem Took.copy_of_fits (took : Took target source met importing)
    (resolves : (source.get? handle).isSome = true)
    (fits : target.snapshots.size + source.snapshots.size ≤ SnapshotStore.capacity) :
    Took target source (met ++ [handle]) (importing.copy source handle).2 := by
  cases found : importing.copies.lookup handle with
  | some copied =>
    rw [copy_of_lookup found]
    exact took.again (took.met_of_lookup found)
  | none =>
    obtain ⟨snapshot, resolved⟩ := Option.isSome_iff_exists.mp resolves
    have fresh := lookup_eq_none_iff.mp found
    have room : importing.store.snapshots.size < SnapshotStore.capacity := by
      have enough := SnapshotStore.length_le (List.nodup_cons.mpr ⟨fresh, took.nodup⟩)
        (List.forall_mem_cons.mpr ⟨resolves, took.resolves⟩)
      have size := took.size_eq
      rw [List.length_cons] at enough
      omega
    have pushed : ∃ issued, importing.store.push snapshot = .ok issued := by
      rw [SnapshotStore.push, if_pos room]
      exact ⟨_, rfl⟩
    obtain ⟨⟨copied, store⟩, pushed⟩ := pushed
    have issued := took.issued (mt (took.mem_iff handle).mpr fresh) resolved pushed
    simpa only [copy, found, resolved, pushed] using issued

theorem Took.copyAll_of_fits (took : Took target source met importing) {more : List SnapshotId}
    (resolves : ∀ handle ∈ more, (source.get? handle).isSome = true)
    (fits : target.snapshots.size + source.snapshots.size ≤ SnapshotStore.capacity) :
    Took target source (met ++ more) (importing.copyAll source more) :=
  copyAll_keeps (Took target source) resolves
    (fun _ _ _ resolvesNow took => took.copy_of_fits resolvesNow fits) took

theorem copy_copy (source : SnapshotStore) (importing : Importing) (handle : SnapshotId) :
    ((importing.copy source handle).2.copy source handle).2 = (importing.copy source handle).2 := by
  rw [copy_of_lookup (copied_copy source importing handle).lookup]

end Importing

/-! ## What an import asks for -/

/-- Merging one entry copies its snapshot if a gap is met, and copies nothing for entries that have
one. -/
theorem importer_state {store : SnapshotStore} {entry : LayoutEntry} {handle : SnapshotId}
    (isHandle : entry.snapshot = some handle) {range : Span} {tiles : List (Tile LayoutEntry)}
    (settled : ∀ tile ∈ tiles, tile.span.overlaps range = true →
      ∀ existing ∈ tile.content, existing.IsSettled) (importing : Importing) :
    ((importer store entry).rewrite range tiles importing).state =
      if ∃ tile ∈ tiles, tile.span.overlaps range = true ∧ tile.content = none then
        (importing.copy store handle).2
      else importing := by
  induction tiles generalizing importing with
  | nil => simp [Updater.rewrite]
  | cons tile rest ih =>
    obtain ⟨settledHere, settledLater⟩ := List.forall_mem_cons.mp settled
    by_cases meets : tile.span.overlaps range = true
    · rw [Updater.rewrite_met meets]
      dsimp only
      rw [ih settledLater]
      obtain ⟨span, content⟩ := tile
      cases content with
      | none =>
        have answered : ((importer store entry).answer importing (Tile.offer range ⟨span, none⟩)).2 =
            (importing.copy store handle).2 := by
          simp only [Tile.offer, Updater.answer, importer, Importing.copy?, isHandle]
        rw [answered, Importing.copy_copy, ite_self, if_pos]
        exact ⟨_, List.mem_cons_self, meets, rfl⟩
      | some existing =>
        have spared : ((importer store entry).answer importing
            (Tile.offer range ⟨span, some existing⟩)).2 = importing := by
          simp [Tile.offer, Updater.answer, importer, (settledHere meets existing rfl).2]
        rw [spared]
        simp
    · rw [Updater.rewrite, if_neg meets, ih settledLater]
      simp [meets]

/-- One source entry over its span. The state changes only if the span has an index in it that was
unknown. -/
theorem importer_run {store : SnapshotStore} {entry : Span × LayoutEntry} {handle : SnapshotId}
    (isHandle : entry.2.snapshot = some handle) {walk : Walk (AdaptiveMap LayoutEntry) Importing}
    {tiles : List (Tile LayoutEntry)} (holds : LawfulSpanMap.Holds walk.map tiles)
    (fits : walk.cursor.Fits walk.map)
    (settled : ∀ index ∈ entry.1, ∀ existing, SpanMap.value? walk.map index = some existing →
      existing.IsSettled) :
    ((importer store entry.2).run entry.1 walk).state =
      if SpanMap.LacksIn walk.map entry.1 then (walk.state.copy store handle).2
      else walk.state := by
  rw [((importer store entry.2).run_becomes entry.1 holds fits).state, importer_state isHandle]
  · exact if_congr (SpanMap.exists_tile_iff holds entry.1 (· = none)) rfl rfl
  · intro tile member meets existing isStored
    obtain ⟨index, around, inside⟩ := Span.exists_mem_of_overlaps meets
    refine settled index (Span.mem_intersect.mp inside).1 existing ?_
    rw [SpanMap.value?_eq holds, Tile.contentAt?,
      (LawfulSpanMap.tiling holds).at?_of_mem member around]
    exact isStored

theorem importer_foldl (store : SnapshotStore) {entries : List (Span × LayoutEntry)}
    (apart : entries.Pairwise fun earlier later => ∀ index ∈ earlier.1, index ∉ later.1)
    (complete : ∀ entry ∈ entries, entry.2.snapshot.isSome = true)
    {walk : Walk (AdaptiveMap LayoutEntry) Importing} {tiles : List (Tile LayoutEntry)}
    (holds : LawfulSpanMap.Holds walk.map tiles) (fits : walk.cursor.Fits walk.map)
    (settled : ∀ entry ∈ entries, ∀ index ∈ entry.1, ∀ existing,
      SpanMap.value? walk.map index = some existing → existing.IsSettled) :
    (entries.foldl (fun walk entry => (importer store entry.2).run entry.1 walk) walk).state =
      walk.state.copyAll store
        ((entries.filter fun entry => SpanMap.LacksIn walk.map entry.1).filterMap
          (·.2.snapshot)) := by
  induction entries generalizing walk tiles with
  | nil => rfl
  | cons entry rest ih =>
    obtain ⟨apartNow, apartLater⟩ := List.pairwise_cons.mp apart
    obtain ⟨completeNow, completeLater⟩ := List.forall_mem_cons.mp complete
    obtain ⟨settledNow, settledLater⟩ := List.forall_mem_cons.mp settled
    obtain ⟨handle, isHandle⟩ := Option.isSome_iff_exists.mp completeNow
    have becomes := (importer store entry.2).run_becomes entry.1 holds fits
    have untouched : ∀ other ∈ rest, ∀ index ∈ other.1,
        SpanMap.value? ((importer store entry.2).run entry.1 walk).map index =
          SpanMap.value? walk.map index := by
      intro other member index inside
      exact Updater.value?_run_of_not_mem _ holds fits
        fun within => apartNow other member index within inside
    have same : rest.filter (fun other =>
          SpanMap.LacksIn ((importer store entry.2).run entry.1 walk).map other.1) =
        rest.filter fun other => SpanMap.LacksIn walk.map other.1 := by
      refine List.filter_congr fun other member => decide_eq_decide.mpr ?_
      refine exists_congr fun index => and_congr_right fun inside => ?_
      rw [untouched other member index inside, becomes.limit]
    have onward := ih apartLater completeLater becomes.holds becomes.fits
      (fun other member index inside existing stored =>
        settledLater other member index inside existing
          (untouched other member index inside ▸ stored))
    rw [List.foldl_cons, onward, same, importer_run isHandle holds fits settledNow,
      List.filter_cons]
    by_cases lacks : SpanMap.LacksIn walk.map entry.1
    · rw [if_pos lacks, if_pos (decide_eq_true lacks), List.filterMap_cons, isHandle]
      rfl
    · rw [if_neg lacks, if_neg (mt of_decide_eq_true lacks)]

/-- The handles that an import needs copies for, in the order of asking. -/
def wanted (registry source : Registry) : List SnapshotId :=
  ((SpanMap.entries source.layouts).filter fun entry =>
    SpanMap.LacksIn registry.layouts entry.1).filterMap (·.2.snapshot)

theorem Sound.wanted_resolve (sourceSound : source.Sound) (registry : Registry) :
    ∀ handle ∈ wanted registry source, (source.snapshots.get? handle).isSome = true := by
  intro handle isWanted
  obtain ⟨entry, within, isHandle⟩ := List.mem_filterMap.mp isWanted
  obtain ⟨-, own, snapshot, -, isOwn, found⟩ :=
    sourceSound.resolves_of_mem (List.mem_of_mem_filter within)
  obtain rfl := Option.some.inj (isHandle.symm.trans isOwn)
  exact Option.isSome_of_eq_some found

/-- To the store an import does nothing but to copy, one after the other, what is wanted. -/
theorem Sound.importFrom_state (sound : registry.Sound) (sourceSound : source.Sound)
    (compatible : registry.key = source.key) :
    let importing := Importing.copyAll source.snapshots ⟨registry.snapshots, [], []⟩
      (wanted registry source)
    (registry.importFrom source).registry.snapshots = importing.store ∧
      (registry.importFrom source).notices = importing.notices := by
  obtain ⟨tiles, holds⟩ := sound.holds
  obtain ⟨sourceTiles, sourceHolds⟩ := sourceSound.holds
  have complete : ∀ entry ∈ SpanMap.entries source.layouts, entry.2.snapshot.isSome = true := by
    intro entry member
    obtain ⟨_, _, _, -, isHandle, -⟩ := sourceSound.resolves_of_mem member
    exact Option.isSome_of_eq_some isHandle
  have begins : LawfulSpanMap.Holds (Walk.start registry.layouts .fresh
    (⟨registry.snapshots, [], []⟩ : Importing)).map tiles := holds
  have state := importer_foldl source.snapshots (SpanMap.entries_apart sourceHolds) complete
    begins (Cursor.fits_of_slot_eq_none rfl _) fun _ _ index _ => sound.settled index
  rw [importFrom_eq compatible]
  exact ⟨congrArg Importing.store state, congrArg Importing.notices state⟩

theorem Sound.importFrom_took (sound : registry.Sound) (sourceSound : source.Sound)
    (compatible : registry.key = source.key) (room : (registry.importFrom source).FoundRoom) :
    ∃ importing : Importing, importing.store = (registry.importFrom source).registry.snapshots ∧
      importing.Took registry.snapshots source.snapshots (wanted registry source) := by
  obtain ⟨store, notices⟩ := sound.importFrom_state sourceSound compatible
  rcases Importing.took_copyAll (sourceSound.wanted_resolve registry)
    (.inr (Importing.took_start registry.snapshots _)) with failed | took
  · obtain ⟨notice, member, isError⟩ := failed
    exact absurd isError (room notice (notices ▸ member))
  · exact ⟨_, store.symm, took⟩

/-- Where there is a place for every snapshot of the source, an import finds room. -/
theorem Sound.importFrom_foundRoom (sound : registry.Sound) (sourceSound : source.Sound)
    (fits : registry.snapshots.snapshots.size + source.snapshots.snapshots.size ≤
      SnapshotStore.capacity) :
    (registry.importFrom source).FoundRoom := by
  by_cases compatible : registry.key = source.key
  · obtain ⟨-, notices⟩ := sound.importFrom_state sourceSound compatible
    have took := (Importing.took_start registry.snapshots source.snapshots).copyAll_of_fits
      (sourceSound.wanted_resolve registry) fits
    rw [Outcome.FoundRoom, notices, took.quiet]
    exact List.forall_mem_nil _
  · rw [importFrom_of_ne compatible]
    refine List.forall_mem_singleton.mpr ?_
    intro isError
    cases isError

/-! ## In terms of indices -/

/-- An import needs a copy for the handle because of the index. -/
def Needs (before source : Registry) (handle : SnapshotId) (index : Nat) : Prop :=
  index < before.addressing.count ∧ before.known? index = none ∧
    ∃ entry, source.known? index = some entry ∧ entry.snapshot = some handle

/-- The handles are those that are needed at all, in the order of the indices that need them first,
and the store takes one copy of each. -/
structure CopiesOnce (before source after : Registry) (handles : List SnapshotId)
    (copies : List Snapshot) : Prop where
  distinct : handles.Nodup
  needed : ∀ handle, handle ∈ handles ↔ ∃ index, Needs before source handle index
  ascending : handles.Pairwise fun earlier later =>
    ∃ index, Needs before source earlier index ∧
      ∀ other, Needs before source later other → index < other
  resolved : List.Forall₂ (fun handle copy => source.snapshots.get? handle = some copy) handles
    copies
  appended : before.snapshots.Appends after.snapshots copies

theorem Sound.needs_iff (sound : registry.Sound) (sourceSound : source.Sound)
    {handle : SnapshotId} {index : Nat} :
    Needs registry source handle index ↔ index < SpanMap.limit registry.layouts ∧
      SpanMap.value? registry.layouts index = none ∧
      ∃ entry ∈ SpanMap.entries source.layouts, index ∈ entry.1 ∧
        entry.2.snapshot = some handle := by
  obtain ⟨tiles, holds⟩ := sourceSound.holds
  rw [Needs, sound.limit]
  refine and_congr_right fun _ => and_congr_right fun _ => ?_
  constructor
  · rintro ⟨entry, known, isHandle⟩
    obtain ⟨stored, member, inside, rfl⟩ := (SpanMap.value?_eq_some_iff holds).mp known
    exact ⟨stored, member, inside, isHandle⟩
  · rintro ⟨stored, member, inside, isHandle⟩
    exact ⟨stored.2, SpanMap.value?_of_mem_entries holds member inside, isHandle⟩

theorem Sound.mem_wanted_iff (sound : registry.Sound) (sourceSound : source.Sound)
    {handle : SnapshotId} :
    handle ∈ wanted registry source ↔ ∃ index, Needs registry source handle index := by
  constructor
  · intro isWanted
    obtain ⟨entry, within, isHandle⟩ := List.mem_filterMap.mp isWanted
    obtain ⟨member, lacks⟩ := List.mem_filter.mp within
    obtain ⟨index, inside, bound, unknown⟩ := of_decide_eq_true lacks
    exact ⟨index, (sound.needs_iff sourceSound).mpr
      ⟨bound, unknown, entry, member, inside, isHandle⟩⟩
  · intro needed
    obtain ⟨index, needs⟩ := needed
    obtain ⟨bound, unknown, entry, member, inside, isHandle⟩ :=
      (sound.needs_iff sourceSound).mp needs
    exact List.mem_filterMap.mpr ⟨entry, List.mem_filter.mpr
      ⟨member, decide_eq_true ⟨index, inside, bound, unknown⟩⟩, isHandle⟩

/-- A handle that is asked for before another is needed by an earlier index. -/
theorem Sound.needs_before (sound : registry.Sound) (sourceSound : source.Sound)
    {earlier later : SnapshotId} {front back : List SnapshotId}
    (split : wanted registry source = front ++ back) (isEarlier : earlier ∈ front)
    (notLater : later ∉ front) :
    ∃ index, Needs registry source earlier index ∧
      ∀ other, Needs registry source later other → index < other := by
  obtain ⟨tiles, holds⟩ := sourceSound.holds
  obtain ⟨first, rest, entries, rfl, rfl⟩ := List.filterMap_eq_append_iff.mp split
  have lacking : ∀ entry ∈ first ++ rest, entry ∈ SpanMap.entries source.layouts ∧
      SpanMap.LacksIn registry.layouts entry.1 := by
    intro entry member
    rw [← entries, List.mem_filter, decide_eq_true_eq] at member
    exact member
  have ascending : (first ++ rest).Pairwise fun one other => one.1.stop ≤ other.1.start := by
    rw [← entries]
    exact (SpanMap.entries_ascending holds).filter _
  obtain ⟨entry, inFirst, isHandle⟩ := List.mem_filterMap.mp isEarlier
  obtain ⟨member, index, inside, bound, unknown⟩ := lacking entry (List.mem_append_left _ inFirst)
  refine ⟨index, (sound.needs_iff sourceSound).mpr
    ⟨bound, unknown, entry, member, inside, isHandle⟩, ?_⟩
  intro other needs
  obtain ⟨otherBound, otherUnknown, otherEntry, otherMember, otherInside, otherHandle⟩ :=
    (sound.needs_iff sourceSound).mp needs
  have among : otherEntry ∈ first ++ rest := by
    rw [← entries, List.mem_filter, decide_eq_true_eq]
    exact ⟨otherMember, other, otherInside, otherBound, otherUnknown⟩
  have inRest : otherEntry ∈ rest := by
    refine (List.mem_append.mp among).resolve_left fun inFront => ?_
    exact notLater (List.mem_filterMap.mpr ⟨otherEntry, inFront, otherHandle⟩)
  have ordered := (List.pairwise_append.mp ascending).2.2 entry inFirst otherEntry inRest
  exact Nat.lt_of_lt_of_le inside.2 (Nat.le_trans ordered otherInside.1)

theorem Sound.importFrom_copiesOnce (sound : registry.Sound) (sourceSound : source.Sound)
    (compatible : registry.key = source.key) (room : (registry.importFrom source).FoundRoom) :
    ∃ handles copies,
      CopiesOnce registry source (registry.importFrom source).registry handles copies := by
  obtain ⟨importing, store, took⟩ := sound.importFrom_took sourceSound compatible room
  obtain ⟨copies, resolved, appended⟩ := took.appended
  refine ⟨importing.handles, copies, took.nodup, ?_, ?_, resolved, store ▸ appended⟩
  · exact fun handle => (took.mem_iff handle).trans (sound.mem_wanted_iff sourceSound)
  · exact took.ordered.imp fun ⟨front, back, split, isEarlier, notLater⟩ =>
      sound.needs_before sourceSound split isEarlier notLater

end Registry

end LayoutTracking
