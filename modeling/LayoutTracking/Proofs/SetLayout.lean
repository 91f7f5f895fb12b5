import LayoutTracking.Proofs.SweepCoverage
import LayoutTracking.Proofs.Registries

/-!
# Recording a layout

A recorded transition is exact: of the subresources of the image it moves those that the selector
names, and leaves every other entry as it was.
-/

set_option autoImplicit false

namespace LayoutTracking

namespace Registry

/-- The entry of a subresource, whatever span it is stored over. -/
def recorded? (registry : Registry) (subresource : Subresource) : Option LayoutEntry :=
  (registry.entryAt? subresource).map (·.2)

theorem recorded?_eq {registry : Registry} {subresource : Subresource}
    (has : registry.addressing.Has subresource) :
    registry.recorded? subresource = registry.known? (registry.addressing.encode subresource) := by
  rw [recorded?, entryAt?, if_pos has.admitsSubresource]
  rfl

/-- What the transition of the selected subresources makes of one subresource. -/
structure Moves (before after : Registry) (selector : Selector) (recorder : Recorder)
    (layout : ImageLayout) (expected : Option ImageLayout) (handle : SnapshotId)
    (subresource : Subresource) : Prop where
  outside : ¬ selector.Names subresource → after.recorded? subresource = before.recorded? subresource
  unknown : selector.Names subresource → before.recorded? subresource = none →
    after.recorded? subresource = some ⟨some (expected.getD layout), some layout, some handle⟩ ∧
      before.snapshots.get? handle = none ∧
      after.snapshots.get? handle = some (.take recorder none)
  known : ∀ entry, selector.Names subresource → before.recorded? subresource = some entry →
    after.recorded? subresource = some { entry with current := some layout }

theorem Filled.moves {before after : Registry} {recorder : Recorder} {selector : Selector}
    {layout : ImageLayout} {expected : Option ImageLayout} {spans : List Span}
    {issued : Option SnapshotId}
    (filled : Filled before after ⟨some (expected.getD layout), some layout, none⟩
      (.take recorder none) spans issued)
    (sound : before.Sound) {subresource : Subresource} (has : before.addressing.Has subresource)
    (covers : (∃ span ∈ spans, before.addressing.encode subresource ∈ span) ↔
      selector.Names subresource) :
    Moves before after selector recorder layout expected (issued.getD default) subresource := by
  have bound : before.addressing.encode subresource < SpanMap.limit before.layouts :=
    sound.limit.symm ▸ has.encode_lt
  have value := filled.revised.value _ bound
  have sameBefore := recorded?_eq has
  have sameAfter := recorded?_eq (filled.addressing.symm ▸ has)
  rw [filled.addressing] at sameAfter
  refine ⟨?_, ?_, ?_⟩
  · intro unnamed
    rw [sameAfter, sameBefore, known?, known?, value, if_neg (mt covers.mp unnamed)]
  · intro named unknown
    rw [sameBefore, known?] at unknown
    rw [if_pos (covers.mpr named), unknown] at value
    obtain ⟨handle, isIssued⟩ := Option.isSome_iff_exists.mp (filled.revised.good _ _ value).2
    obtain rfl : issued = some handle := isIssued
    rw [sameAfter]
    exact ⟨value, filled.issued handle rfl⟩
  · intro entry named known
    rw [sameBefore, known?] at known
    rw [if_pos (covers.mpr named), known] at value
    rw [sameAfter]
    exact value

theorem setLayout_eq {registry : Registry} {recorder : Recorder} {selector : Selector}
    {layout : ImageLayout} {expected : Option ImageLayout}
    (admitted : registry.addressing.admits (registry.addressing.normalize selector) = true) :
    registry.setLayout recorder selector layout expected =
      registry.fill ⟨some (expected.getD layout), some layout, none⟩ (.take recorder none)
        (.ofSelector registry.addressing (registry.addressing.normalize selector)) := by
  rw [setLayout, fillSelector, if_pos admitted]

theorem setLayout_eq_fill {registry : Registry} {recorder : Recorder} {selector : Selector}
    {layout : ImageLayout} {expected : Option ImageLayout}
    (encloses : registry.addressing.Encloses (registry.addressing.normalize selector)) :
    registry.setLayout recorder selector layout expected =
      registry.fill ⟨some (expected.getD layout), some layout, none⟩ (.take recorder none)
        ⟨Sweep.spansOf registry.addressing (registry.addressing.normalize selector), none⟩ := by
  rw [setLayout_eq encloses.admits, Swept.ofSelector_eq registry.fits encloses]

/-- A transition of what a selector, once normalized, names of the image. Where no gap is met there
is no handle of its own, and any will do. -/
theorem setLayout_exact {registry : Registry} (reachable : registry.Reachable)
    (recorder : Recorder) (selector : Selector) (layout : ImageLayout)
    (expected : Option ImageLayout)
    (encloses : registry.addressing.Encloses (registry.addressing.normalize selector))
    (room : (registry.setLayout recorder selector layout expected).FoundRoom) :
    (registry.setLayout recorder selector layout expected).failure = none ∧
      ∃ handle, ∀ subresource, registry.addressing.Has subresource →
        Moves registry (registry.setLayout recorder selector layout expected).registry
          (registry.addressing.normalize selector) recorder layout expected handle
          subresource := by
  refine ⟨by rw [setLayout_eq_fill encloses, fill], ?_⟩
  rw [setLayout_eq encloses.admits] at room ⊢
  obtain ⟨issued, filled⟩ := reachable.sound.fill_filled rfl room
  exact ⟨issued.getD default, fun subresource has =>
    filled.moves reachable.sound has (Swept.covers_iff registry.fits encloses has)⟩

/-- One mip level of two layers is known, and then a layer of all levels and both aspects moves. -/
theorem setLayout_exact_after_setLayout :
    let image : Image := ⟨⟨1⟩, ⟨⟨3⟩, 2, 3, .undefined, none⟩, 0, by decide⟩
    let first := (Registry.empty image 16 ⟨1⟩).setLayout ⟨⟨1⟩, none⟩ ⟨⟨1⟩, 0, 1, 0, 2⟩ .general none
    let second := first.registry.setLayout ⟨⟨2⟩, none⟩ ⟨⟨3⟩, 0, remaining, 1, 1⟩ .presentSrc none
    second.FoundRoom ∧ second.failure = none ∧
      ∃ handle, ∀ subresource, first.registry.addressing.Has subresource →
        Moves first.registry second.registry
          (first.registry.addressing.normalize ⟨⟨3⟩, 0, remaining, 1, 1⟩) ⟨⟨2⟩, none⟩ .presentSrc
          none handle subresource := by
  intro image first second
  have begun := Reachable.empty image 16 ⟨1⟩
  obtain ⟨firstRoom, firstSize⟩ := begun.sound.fillSelector_foundRoom ⟨⟨1⟩, none⟩ ⟨⟨1⟩, 0, 1, 0, 2⟩
    ⟨some .general, some .general, none⟩ .transition (by decide)
  have reachable : first.registry.Reachable := .setLayout _ _ _ _ begun firstRoom
  have secondRoom : second.FoundRoom := by
    refine (reachable.sound.fillSelector_foundRoom _ _ _ .transition ?_).1
    exact Nat.lt_of_le_of_lt firstSize (by decide)
  exact ⟨secondRoom, setLayout_exact reachable _ _ _ _
    ⟨by decide, by decide, by decide, by decide⟩ secondRoom⟩

end Registry

end LayoutTracking
