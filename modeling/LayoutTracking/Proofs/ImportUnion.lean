import LayoutTracking.Proofs.SetLayout

/-!
# The union law of imports

An import joins what two registries know of one image. Where both know something the destination
keeps what was settled first, and the source has the last word on the current layout. The snapshots
that come along are copied, each once.
-/

set_option autoImplicit false

namespace LayoutTracking.Registry

/-- What an import into a registry makes of it. -/
structure Union (before source after : Registry) : Prop where
  untold : ∀ index < before.addressing.count, source.known? index = none →
    after.known? index = before.known? index
  /-- A gap takes the source entry, with a copy of its snapshot. -/
  taken : ∀ index < before.addressing.count, ∀ entry, source.known? index = some entry →
    before.known? index = none →
    ∃ original copy snapshot, entry.snapshot = some original ∧
      after.known? index = some { entry with snapshot := some copy } ∧
      after.snapshots.owns copy = true ∧ after.snapshots.get? copy = some snapshot ∧
      source.snapshots.get? original = some snapshot
  shared : ∀ first < before.addressing.count, ∀ second < before.addressing.count,
    ∀ firstEntry secondEntry, source.known? first = some firstEntry →
    source.known? second = some secondEntry → before.known? first = none →
    before.known? second = none →
    ((after.known? first).bind (·.snapshot) = (after.known? second).bind (·.snapshot) ↔
      firstEntry.snapshot = secondEntry.snapshot)
  merged : ∀ index < before.addressing.count, ∀ entry existing,
    source.known? index = some entry → before.known? index = some existing →
    after.known? index = some { existing with current := entry.current <|> existing.current }
  kept : after.snapshots.Extends before.snapshots

section

variable {registry source after : Registry} {copyOf : SnapshotId → Option SnapshotId}

theorem Imported.known?_eq
    (imported : Imported registry after source.snapshots (SpanMap.entries source.layouts) copyOf)
    (sound : registry.Sound) (sourceSound : source.Sound) {index : Nat}
    (bound : index < registry.addressing.count) :
    after.known? index = joined copyOf (source.known? index) (registry.known? index) := by
  rw [← sourceSound.foldl_imported]
  exact imported.revised.value index (sound.limit.symm ▸ bound)

theorem Imported.exists_copy
    (imported : Imported registry after source.snapshots (SpanMap.entries source.layouts) copyOf)
    (sound : registry.Sound) (sourceSound : source.Sound) {index : Nat}
    (bound : index < registry.addressing.count) {entry : LayoutEntry}
    (known : source.known? index = some entry) (unknown : registry.known? index = none) :
    ∃ original copy, entry.snapshot = some original ∧ copyOf original = some copy ∧
      after.known? index = some { entry with snapshot := some copy } := by
  have value := imported.known?_eq sound sourceSound bound
  rw [known, unknown] at value
  obtain ⟨copy, isCopy⟩ :=
    Option.isSome_iff_exists.mp (imported.revised.good index _ value).2
  obtain ⟨original, isOriginal, copied⟩ := Option.bind_eq_some_iff.mp isCopy
  refine ⟨original, copy, isOriginal, copied, value.trans ?_⟩
  rw [← isCopy]
  rfl

theorem Imported.union
    (imported : Imported registry after source.snapshots (SpanMap.entries source.layouts) copyOf)
    (sound : registry.Sound) (sourceSound : source.Sound) : Union registry source after where
  untold index bound untold := by
    rw [imported.known?_eq sound sourceSound bound, untold]
    rfl
  taken index bound entry known unknown := by
    obtain ⟨original, copy, isOriginal, copied, value⟩ :=
      imported.exists_copy sound sourceSound bound known unknown
    obtain ⟨snapshot, inSource, inStore⟩ := imported.resolves original copy copied
    have owned := (SnapshotStore.get?_eq_some.mp inStore).1
    exact ⟨original, copy, snapshot, isOriginal, value, beq_iff_eq.mpr owned, inStore, inSource⟩
  shared first firstBound second secondBound firstEntry secondEntry firstKnown secondKnown
      firstUnknown secondUnknown := by
    obtain ⟨firstOriginal, firstCopy, isFirst, firstCopied, firstValue⟩ :=
      imported.exists_copy sound sourceSound firstBound firstKnown firstUnknown
    obtain ⟨secondOriginal, secondCopy, isSecond, secondCopied, secondValue⟩ :=
      imported.exists_copy sound sourceSound secondBound secondKnown secondUnknown
    rw [firstValue, secondValue, isFirst, isSecond]
    simp only [Option.bind_some, Option.some.injEq]
    constructor
    · rintro rfl
      exact imported.apart firstOriginal secondOriginal firstCopy firstCopied secondCopied
    · rintro rfl
      exact Option.some.inj (firstCopied.symm.trans secondCopied)
  merged index bound entry existing known present := by
    rw [imported.known?_eq sound sourceSound bound, known, present]
    rfl
  kept := imported.snapshots

end

/-- Of the registries that operations build up, one is imported into another if their keys agree,
and nothing happens if they do not. -/
theorem importFrom_union {registry source : Registry} (reachable : registry.Reachable)
    (sourceReachable : source.Reachable) :
    (registry.key = source.key → (registry.importFrom source).FoundRoom →
      Union registry source (registry.importFrom source).registry) ∧
    (registry.key ≠ source.key → (registry.importFrom source).registry = registry ∧
      (registry.importFrom source).changed = false) := by
  constructor
  · intro compatible room
    obtain ⟨copyOf, imported⟩ :=
      reachable.sound.importFrom_imported sourceReachable.sound compatible room
    exact imported.union reachable.sound sourceReachable.sound
  · intro differ
    rw [importFrom, if_neg differ]
    exact ⟨rfl, rfl⟩

/-- A flat registry is imported into a sparse one. The first layer of the first mip level is new to
the latter, and both know the second layer. -/
theorem importFrom_union_of_layers :
    let image : Image := ⟨⟨1⟩, ⟨⟨3⟩, 2, 3, .undefined, none⟩, 0, by decide⟩
    let source :=
      (Registry.empty image 16 ⟨1⟩).setLayout ⟨⟨1⟩, none⟩ ⟨⟨1⟩, 0, 1, 0, 2⟩ .general none
    let target :=
      (Registry.empty image 0 ⟨2⟩).setLayout ⟨⟨2⟩, none⟩ ⟨⟨1⟩, 0, 2, 1, 1⟩ .presentSrc none
    target.registry.key = source.registry.key ∧
      (target.registry.importFrom source.registry).FoundRoom ∧
      Union target.registry source.registry
        (target.registry.importFrom source.registry).registry := by
  intro image source target
  have sourceBegun := Reachable.empty image 16 ⟨1⟩
  have targetBegun := Reachable.empty image 0 ⟨2⟩
  have sourceReachable : source.registry.Reachable :=
    .setLayout _ _ _ _ sourceBegun
      (sourceBegun.sound.fillSelector_foundRoom _ _ _ .transition (by decide)).1
  have targetReachable : target.registry.Reachable :=
    .setLayout _ _ _ _ targetBegun
      (targetBegun.sound.fillSelector_foundRoom _ _ _ .transition (by decide)).1
  have sourceFilled : source = _ :=
    setLayout_eq_fill ⟨by decide, by decide, by decide, by decide⟩
  have targetFilled : target = _ :=
    setLayout_eq_fill ⟨by decide, by decide, by decide, by decide⟩
  have silent : (target.registry.importFrom source.registry).notices = [] := by
    rw [sourceFilled, targetFilled]
    decide +kernel
  have room : (target.registry.importFrom source.registry).FoundRoom := by
    rw [Outcome.FoundRoom, silent]
    intro notice member
    cases member
  have sameKey : target.registry.key = source.registry.key := by decide
  exact ⟨sameKey, room, (importFrom_union targetReachable sourceReachable).1 sameKey room⟩

end LayoutTracking.Registry
