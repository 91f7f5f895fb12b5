import LayoutTracking.Subresource.Sweep

/-!
# Sweeps to their end

Stepping a sweep until nothing is left, or until a step fails. What was produced before a failure
stands. A sweep ends, since each step finishes a mip level or a block.
-/

set_option autoImplicit false

namespace LayoutTracking

def Block.span (block : Block) : Span :=
  ⟨block.start.toNat, block.start.toNat + block.length.toNat⟩

/-- What came of a sweep: the spans that it produced, and the failure that ended it, if any. -/
structure Swept where
  spans : List Span
  failure : Option WordFailure
deriving DecidableEq, Repr, Inhabited

namespace Swept

def cons (span : Span) (later : Swept) : Swept := ⟨span :: later.spans, later.failure⟩

@[simp] theorem spans_cons (span : Span) (later : Swept) :
    (cons span later).spans = span :: later.spans := rfl

@[simp] theorem failure_cons (span : Span) (later : Swept) :
    (cons span later).failure = later.failure := rfl

end Swept

namespace Sweep

/-- The selected mip levels of a block. -/
def levelsSpan (sweep : Sweep) (aspect : Span) : Span :=
  let start := aspect.start + sweep.baseMipLevel.toNat * sweep.mipSize.toNat
  ⟨start, start + sweep.levelCount.toNat * sweep.mipSize.toNat⟩

/-- The selected array layers of one selected mip level of a block. -/
def layersSpan (sweep : Sweep) (aspect : Span) (level : Nat) : Span :=
  let start := aspect.start + (sweep.baseMipLevel.toNat + level) * sweep.mipSize.toNat +
    sweep.baseArrayLayer.toNat
  ⟨start, start + sweep.layerCount.toNat⟩

/-- What a step that succeeds does to a sweep with blocks left. No sum in it has wrapped. -/
inductive Produces (sweep : Sweep) (block : Block) : Span → Sweep → Prop where
  | aspect {done : UInt64} : sweep.granularity = .aspect →
      done.toNat = sweep.blocksDone.toNat + 1 →
      Produces sweep block block.span { sweep with blocksDone := done }
  | mipLevel {done : UInt64} : sweep.granularity = .mipLevel →
      done.toNat = sweep.blocksDone.toNat + 1 →
      Produces sweep block (sweep.levelsSpan block.span) { sweep with blocksDone := done }
  | lastLevel {done : UInt64} : sweep.granularity = .arrayLayer →
      done.toNat = sweep.blocksDone.toNat + 1 →
      sweep.levelsDone.toNat + 1 = sweep.levelCount.toNat →
      Produces sweep block (sweep.layersSpan block.span sweep.levelsDone.toNat)
        { sweep with blocksDone := done, levelsDone := 0 }
  | level {levels : UInt32} : sweep.granularity = .arrayLayer →
      levels.toNat = sweep.levelsDone.toNat + 1 → levels.toNat ≠ sweep.levelCount.toNat →
      Produces sweep block (sweep.layersSpan block.span sweep.levelsDone.toNat)
        { sweep with levelsDone := levels }

theorem next_cases {sweep rest : Sweep} {answer : Option Span}
    (stepped : sweep.next = .ok (answer, rest)) :
    (sweep.blocks[sweep.blocksDone.toNat]? = none ∧ answer = none ∧ rest = sweep) ∨
      ∃ block span, sweep.blocks[sweep.blocksDone.toNat]? = some block ∧ answer = some span ∧
        sweep.Produces block span rest := by
  unfold next at stepped
  split at stepped
  · next finished =>
    cases stepped
    exact .inl ⟨finished, rfl, rfl⟩
  · next block here =>
    refine .inr ⟨block, ?_⟩
    split at stepped
    · next whole =>
      obtain ⟨done, counted, stepped⟩ := exists_of_bind stepped
      obtain ⟨stop, stops, stepped⟩ := exists_of_bind stepped
      cases stepped
      refine ⟨_, here, rfl, ?_⟩
      rw [Words.toNat_eq_of_add stops]
      exact .aspect whole (Words.toNat_eq_of_add counted)
    · next levelled =>
      obtain ⟨done, counted, stepped⟩ := exists_of_bind stepped
      obtain ⟨skipped, skips, stepped⟩ := exists_of_bind stepped
      obtain ⟨start, starts, stepped⟩ := exists_of_bind stepped
      obtain ⟨covered, covers, stepped⟩ := exists_of_bind stepped
      obtain ⟨stop, stops, stepped⟩ := exists_of_bind stepped
      cases stepped
      refine ⟨_, here, rfl, ?_⟩
      rw [Words.toNat_eq_of_add stops, Words.toNat_eq_of_mul covers, Words.toNat_eq_of_add starts,
        Words.toNat_eq_of_mul skips, UInt32.toNat_toUInt64, UInt32.toNat_toUInt64]
      exact .mipLevel levelled (Words.toNat_eq_of_add counted)
    · next layered =>
      obtain ⟨level, placed, stepped⟩ := exists_of_bind stepped
      obtain ⟨skipped, skips, stepped⟩ := exists_of_bind stepped
      obtain ⟨levelStart, levelStarts, stepped⟩ := exists_of_bind stepped
      obtain ⟨start, starts, stepped⟩ := exists_of_bind stepped
      obtain ⟨levels, oneMore, stepped⟩ := exists_of_bind stepped
      obtain ⟨stop, stops, stepped⟩ := exists_of_bind stepped
      have count : levels.toNat = sweep.levelsDone.toNat + 1 :=
        (Words.toNat_eq_of_addPlaces oneMore).2
      have same : (⟨start.toNat, stop.toNat⟩ : Span) =
          sweep.layersSpan block.span sweep.levelsDone.toNat := by
        rw [Words.toNat_eq_of_add stops, Words.toNat_eq_of_add starts,
          Words.toNat_eq_of_add levelStarts, Words.toNat_eq_of_mul skips, UInt32.toNat_toUInt64,
          UInt32.toNat_toUInt64, UInt32.toNat_toUInt64, (Words.toNat_eq_of_addPlaces placed).2]
        rfl
      rw [same] at stepped
      split at stepped
      · next last =>
        obtain ⟨done, counted, stepped⟩ := exists_of_bind stepped
        cases stepped
        have lastCount := count.symm.trans (congrArg UInt32.toNat last)
        exact ⟨_, here, rfl, .lastLevel layered (Words.toNat_eq_of_add counted) lastCount⟩
      · next more =>
        cases stepped
        exact ⟨_, here, rfl, .level layered count (mt UInt32.toNat_inj.mp more)⟩

theorem produces_of_next {sweep rest : Sweep} {span : Span}
    (stepped : sweep.next = .ok (some span, rest)) :
    ∃ block, sweep.blocks[sweep.blocksDone.toNat]? = some block ∧
      sweep.Produces block span rest := by
  rcases next_cases stepped with ⟨-, none, -⟩ | ⟨block, other, here, same, produces⟩
  · cases none
  · obtain rfl := Option.some.inj same
    exact ⟨block, here, produces⟩

/-- A bound on the steps left, also where the counts of the sweep belong to no selector: each block
that is left, and in the next one the levels before the largest number. -/
def potential (sweep : Sweep) : Nat :=
  (sweep.blocks.length - sweep.blocksDone.toNat) * UInt32.size +
    (UInt32.size - sweep.levelsDone.toNat)

theorem potential_lt_of_next {sweep rest : Sweep} {span : Span}
    (stepped : sweep.next = .ok (some span, rest)) : rest.potential < sweep.potential := by
  obtain ⟨block, here, produces⟩ := produces_of_next stepped
  have left := (List.getElem?_eq_some_iff.mp here).1
  have levels : sweep.levelsDone.toNat < UInt32.size := sweep.levelsDone.toNat_lt
  have none : (0 : UInt32).toNat = 0 := rfl
  unfold potential
  have oneLess {done : UInt64} (counted : done.toNat = sweep.blocksDone.toNat + 1) :
      (sweep.blocks.length - sweep.blocksDone.toNat) * UInt32.size =
        (sweep.blocks.length - done.toNat) * UInt32.size + UInt32.size := by
    rw [← Nat.succ_mul]
    exact congrArg (· * UInt32.size) (by omega)
  generalize UInt32.size = size at levels oneLess ⊢
  cases produces with
  | aspect _ counted | mipLevel _ counted | lastLevel _ counted =>
    have fewer := oneLess counted
    dsimp only
    omega
  | level _ oneMore _ =>
    dsimp only
    omega

def run (sweep : Sweep) : Swept :=
  match _stepped : sweep.next with
  | .error failure => ⟨[], some failure⟩
  | .ok (none, _) => ⟨[], none⟩
  | .ok (some span, rest) => .cons span rest.run
termination_by sweep.potential
decreasing_by exact potential_lt_of_next _stepped

variable {sweep rest : Sweep}

theorem run_of_error {failure : WordFailure} (failed : sweep.next = .error failure) :
    sweep.run = ⟨[], some failure⟩ := by
  rw [run]
  split
  · next other again =>
    obtain rfl := Except.error.inj (failed.symm.trans again)
    rfl
  · next again => cases failed.symm.trans again
  · next again => cases failed.symm.trans again

theorem run_of_none (finished : sweep.next = .ok (none, rest)) : sweep.run = ⟨[], none⟩ := by
  rw [run]
  split
  · next again => cases finished.symm.trans again
  · rfl
  · next again => cases finished.symm.trans again

theorem run_of_some {span : Span} (stepped : sweep.next = .ok (some span, rest)) :
    sweep.run = .cons span rest.run := by
  rw [run]
  split
  · next again => cases stepped.symm.trans again
  · next again => cases stepped.symm.trans again
  · next again =>
    cases stepped.symm.trans again
    rfl

end Sweep

namespace Swept

/-- The run of a sweep, unless it could not even be begun. -/
def ofSweep : Except WordFailure Sweep → Swept
  | .ok sweep => sweep.run
  | .error failure => ⟨[], some failure⟩

def ofSelector (image : Addressing) (selector : Selector) : Swept :=
  ofSweep (Sweep.ofSelector image selector)

def full (image : Addressing) : Swept := ofSweep (Sweep.full image)

end Swept

end LayoutTracking
