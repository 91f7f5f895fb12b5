import LayoutTracking.Proofs.CopyOrder
import LayoutTracking.Proofs.SweepCoverage

/-!
# Snapshots taken when needed

A snapshot goes into the store only for an index that becomes known. A request takes one for all the
gaps that it meets, and none if it meets no gap. What an import takes are the copies that its gaps
need.
-/

set_option autoImplicit false

namespace LayoutTracking

namespace Registry

variable {registry source : Registry}

/-! ## Requests -/

/-- One snapshot is taken if an index that the request covers was unknown, and none if all were
known. -/
structure TakesOne (before after : Registry) (snapshot : Snapshot) (Covers : Nat → Prop) :
    Prop where
  taken : (∃ index < before.addressing.count, Covers index ∧ before.known? index = none) →
    before.snapshots.Appends after.snapshots [snapshot]
  spared : (∀ index < before.addressing.count, Covers index → before.known? index ≠ none) →
    after.snapshots = before.snapshots

section

variable {template : LayoutEntry} {snapshot : Snapshot} {swept : Swept} {after : Registry}
  {spans : List Span} {handle : Option SnapshotId}

/-- A gap that was filled has left a snapshot that the store did not have. -/
theorem Filled.store_ne (filled : Filled registry after template snapshot spans handle)
    (sound : registry.Sound)
    (gap : ∃ index < registry.addressing.count, (∃ span ∈ spans, index ∈ span) ∧
      registry.known? index = none) :
    after.snapshots ≠ registry.snapshots := by
  obtain ⟨index, bound, covered, unknown⟩ := gap
  have value := filled.revised.value index (sound.limit.symm ▸ bound)
  rw [if_pos covered, show SpanMap.value? registry.layouts index = none from unknown] at value
  obtain ⟨issued, isIssued⟩ := Option.isSome_iff_exists.mp (filled.revised.good index _ value).2
  obtain ⟨missing, found⟩ := filled.issued issued isIssued
  intro same
  rw [same, missing] at found
  cases found

/-- Where no gap was filled, no entry refers to a new place of the store. -/
theorem Filled.size_eq (filled : Filled registry after template snapshot spans handle)
    (sound : registry.Sound) (complete : after.NoneOrphaned)
    (known : ∀ index < registry.addressing.count, (∃ span ∈ spans, index ∈ span) →
      registry.known? index ≠ none) :
    after.snapshots.snapshots.size ≤ registry.snapshots.snapshots.size := by
  apply Nat.le_of_not_lt
  intro grown
  have soundAfter := sound.of_filled filled
  obtain ⟨stored, member, issued, isIssued, atPlace⟩ :=
    ((soundAfter.inOrder complete).places _).mpr grown
  obtain ⟨index, isKnown⟩ := soundAfter.known_of_mem member
  have bound : index < registry.addressing.count := filled.addressing ▸ soundAfter.lt_of_known isKnown
  have earlier : ∃ entry, registry.known? index = some entry ∧ entry.snapshot = some issued := by
    have change := filled.revised.change_eq isKnown
    by_cases covered : ∃ span ∈ spans, index ∈ span
    · obtain ⟨entry, wasKnown⟩ := Option.ne_none_iff_exists'.mp (known index bound covered)
      rw [if_pos covered, show SpanMap.value? registry.layouts index = some entry from wasKnown]
        at change
      refine ⟨entry, wasKnown, ?_⟩
      rw [← isIssued, ← Option.some.inj change]
      rfl
    · rw [if_neg covered] at change
      exact ⟨stored.2, change, isIssued⟩
  obtain ⟨entry, wasKnown, isHandle⟩ := earlier
  have inStore := sound.place_lt wasKnown isHandle
  rw [atPlace] at inStore
  exact Nat.lt_irrefl _ inStore

theorem Sound.fill_takesOne (sound : registry.Sound) (complete : registry.NoneOrphaned)
    (initial : template.initial.isSome = true)
    (room : (registry.fill template snapshot swept).FoundRoom) :
    TakesOne registry (registry.fill template snapshot swept).registry snapshot
      fun index => ∃ span ∈ swept.spans, index ∈ span := by
  obtain ⟨handle, filled⟩ := sound.fill_filled initial room
  obtain ⟨tiles, holds⟩ := sound.holds
  obtain ⟨filling, since, store, notices⟩ := fill_since template snapshot swept holds
  cases since with
  | unasked => exact ⟨fun gap => absurd store (filled.store_ne sound gap), fun _ => store⟩
  | issued pushed =>
    refine ⟨fun _ => ?_, fun known => ?_⟩
    · rw [store]
      exact (SnapshotStore.appends_nil _).push pushed
    · have size := filled.size_eq sound (complete.fill template snapshot swept) known
      obtain ⟨-, -, rfl⟩ := SnapshotStore.push_eq_ok pushed
      rw [store, Array.size_push] at size
      exact absurd size (Nat.not_succ_le_self _)
  | refused full =>
    rw [Outcome.FoundRoom, notices] at room
    exact absurd rfl (room _ List.mem_cons_self)

end

/-! ## Every call -/

/-- The request goes over the index. A selector that does not fit the image has no index. -/
def Selects (registry : Registry) (selector : Selector) (index : Nat) : Prop :=
  ∃ span ∈ (Swept.ofSelector registry.addressing (registry.addressing.normalize selector)).spans,
    index ∈ span

theorem Sound.fillSelector_takesOne (sound : registry.Sound) (complete : registry.NoneOrphaned)
    (recorder : Recorder) (selector : Selector) {template : LayoutEntry} (request : Request)
    (initial : template.initial.isSome = true)
    (room : (registry.fillSelector recorder selector template request).FoundRoom) :
    TakesOne registry (registry.fillSelector recorder selector template request).registry
      (.take recorder none) (registry.Selects selector) := by
  unfold fillSelector at room ⊢
  by_cases admitted : registry.addressing.admits (registry.addressing.normalize selector) = true
  · rw [if_pos admitted] at room ⊢
    exact sound.fill_takesOne complete initial room
  · rw [if_neg admitted]
    refine ⟨?_, fun _ => rfl⟩
    rintro ⟨index, -, ⟨span, member, -⟩, -⟩
    rw [Swept.ofSelector_of_not_admits (Bool.eq_false_iff.mpr admitted)] at member
    cases member

/-- Whatever is called next, as long as there is room, the store takes what the call needs. -/
structure TakesAsNeeded (registry : Registry) : Prop where
  setLayout : ∀ recorder selector layout expected,
    (registry.setLayout recorder selector layout expected).FoundRoom →
    TakesOne registry (registry.setLayout recorder selector layout expected).registry
      (.take recorder none) (registry.Selects selector)
  setInitial : ∀ recorder selector layout,
    (registry.setInitial recorder selector layout).FoundRoom →
    TakesOne registry (registry.setInitial recorder selector layout).registry
      (.take recorder none) (registry.Selects selector)
  setInitialFromView : ∀ recorder layout view,
    (registry.setInitialFromView recorder layout view).FoundRoom →
    TakesOne registry (registry.setInitialFromView recorder layout view).registry
      (.take recorder (some view))
      fun index => view.image.id = registry.image ∧ ∃ span ∈ view.swept.spans, index ∈ span
  importFrom : ∀ source : Registry, source.Reachable → registry.key = source.key →
    (registry.importFrom source).FoundRoom →
    ∃ handles copies,
      CopiesOnce registry source (registry.importFrom source).registry handles copies

/-- Snapshots are taken exactly when they are needed. -/
theorem Reachable.takesAsNeeded (reachable : registry.Reachable) : registry.TakesAsNeeded where
  setLayout recorder selector _ _ room :=
    reachable.sound.fillSelector_takesOne reachable.noneOrphaned recorder selector .transition rfl
      room
  setInitial recorder selector _ room :=
    reachable.sound.fillSelector_takesOne reachable.noneOrphaned recorder selector .initialLayout
      rfl room
  setInitialFromView recorder layout view room := by
    unfold Registry.setInitialFromView at room ⊢
    by_cases shown : view.image.id = registry.image
    · rw [if_pos shown] at room ⊢
      have takes := reachable.sound.fill_takesOne reachable.noneOrphaned rfl room
      exact ⟨fun ⟨index, bound, covered, unknown⟩ => takes.taken ⟨index, bound, covered.2, unknown⟩,
        fun known => takes.spared fun index bound covered => known index bound ⟨shown, covered⟩⟩
    · rw [if_neg shown]
      exact ⟨fun ⟨_, _, covered, _⟩ => absurd covered.1 shown, fun _ => rfl⟩
  importFrom _ sourceReachable compatible room :=
    reachable.sound.importFrom_copiesOnce sourceReachable.sound compatible room

/-- The source has two snapshots, and its entries of the first stand among those of the second. The
target knows one layer of the first aspect before. -/
theorem takesAsNeeded_of_layers :
    let image : Image := ⟨⟨1⟩, ⟨⟨3⟩, 2, 3, .undefined, none⟩, 0, by decide⟩
    let first := (Registry.empty image 0 ⟨1⟩).setLayout ⟨⟨1⟩, none⟩ ⟨⟨3⟩, 0, 1, 0, 2⟩ .general none
    let source := first.registry.setInitial ⟨⟨2⟩, none⟩ (.all ⟨3⟩) .presentSrc
    let target :=
      (Registry.empty image 16 ⟨2⟩).setLayout ⟨⟨3⟩, none⟩ ⟨⟨1⟩, 0, 2, 0, 1⟩ .general none
    target.registry.Reachable ∧ source.registry.Reachable ∧
      target.registry.key = source.registry.key ∧
      (target.registry.importFrom source.registry).FoundRoom ∧ target.registry.TakesAsNeeded := by
  intro image first source target
  have begun := Reachable.empty image 0 ⟨1⟩
  obtain ⟨firstRoom, firstSize⟩ := begun.sound.fillSelector_foundRoom ⟨⟨1⟩, none⟩ ⟨⟨3⟩, 0, 1, 0, 2⟩
    ⟨some .general, some .general, none⟩ .transition (by decide)
  have between : first.registry.Reachable := .setLayout _ _ _ _ begun firstRoom
  obtain ⟨sourceRoom, sourceSize⟩ := between.sound.fillSelector_foundRoom ⟨⟨2⟩, none⟩ (.all ⟨3⟩)
    ⟨some .presentSrc, none, none⟩ .initialLayout (Nat.lt_of_le_of_lt firstSize (by decide))
  have sourceReachable : source.registry.Reachable := .setInitial _ _ _ between sourceRoom
  have otherBegun := Reachable.empty image 16 ⟨2⟩
  obtain ⟨targetRoom, targetSize⟩ := otherBegun.sound.fillSelector_foundRoom ⟨⟨3⟩, none⟩
    ⟨⟨1⟩, 0, 2, 0, 1⟩ ⟨some .general, some .general, none⟩ .transition (by decide)
  have reachable : target.registry.Reachable := .setLayout _ _ _ _ otherBegun targetRoom
  have few : source.registry.snapshots.snapshots.size ≤ 2 :=
    Nat.le_trans sourceSize (Nat.succ_le_succ firstSize)
  have room : (target.registry.importFrom source.registry).FoundRoom :=
    reachable.sound.importFrom_foundRoom sourceReachable.sound
      (Nat.le_trans (Nat.add_le_add targetSize few) (by decide))
  exact ⟨reachable, sourceReachable, by decide, room, reachable.takesAsNeeded⟩

end Registry

end LayoutTracking
