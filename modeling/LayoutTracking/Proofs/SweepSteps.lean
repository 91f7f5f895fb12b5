import LayoutTracking.Proofs.SweepBlocks

/-!
# The steps of a sweep

A step that succeeds takes the first of the spans that are left, so that a sweep produces them from the
first one on, up to a step that fails. No step fails for a selector inside an image whose subresources
can be counted in a word: such a sweep produces all the spans of its selector.
-/

set_option autoImplicit false

namespace LayoutTracking

namespace Sweep

/-! ## What is left of a sweep -/

/-- The blocks that are not finished. -/
def pending (sweep : Sweep) : List Span :=
  (sweep.blocks.drop sweep.blocksDone.toNat).map Block.span

/-- The selected layers of an aspect, from one of the selected mip levels on. -/
def layersFrom (sweep : Sweep) (level : Nat) (aspect : Span) : List Span :=
  (List.range' level (sweep.levelCount.toNat - level)).map (sweep.layersSpan aspect)

/-- The spans that are yet to come, if no step fails. -/
def left (sweep : Sweep) : List Span :=
  match sweep.granularity with
  | .aspect => sweep.pending
  | .mipLevel => sweep.pending.map sweep.levelsSpan
  | .arrayLayer =>
    match sweep.pending with
    | [] => []
    | first :: later =>
      sweep.layersFrom sweep.levelsDone.toNat first ++ later.flatMap (sweep.layersFrom 0)

/-- In the block that the sweep has come to there are levels left. -/
def Underway (sweep : Sweep) : Prop :=
  sweep.pending ≠ [] → sweep.levelsDone.toNat < sweep.levelCount.toNat

variable {sweep rest : Sweep} {span : Span} {block : Block}

theorem left_of_aspect (whole : sweep.granularity = .aspect) : sweep.left = sweep.pending := by
  rw [left, whole]

theorem left_of_mipLevel (levelled : sweep.granularity = .mipLevel) :
    sweep.left = sweep.pending.map sweep.levelsSpan := by
  rw [left, levelled]

theorem left_of_begun (layered : sweep.granularity = .arrayLayer) {first : Span}
    {later : List Span} (pending : sweep.pending = first :: later) :
    sweep.left =
      sweep.layersFrom sweep.levelsDone.toNat first ++ later.flatMap (sweep.layersFrom 0) := by
  rw [left, layered, pending]

theorem left_of_unbegun (layered : sweep.granularity = .arrayLayer)
    (unbegun : sweep.levelsDone.toNat = 0) :
    sweep.left = sweep.pending.flatMap (sweep.layersFrom 0) := by
  rw [left, layered, unbegun]
  cases sweep.pending <;> rfl

theorem left_of_pending_nil (finished : sweep.pending = []) : sweep.left = [] := by
  rw [left, finished]
  split <;> rfl

theorem pending_eq_nil_iff :
    sweep.pending = [] ↔ sweep.blocks[sweep.blocksDone.toNat]? = none := by
  rw [pending, List.map_eq_nil_iff, List.drop_eq_nil_iff, List.getElem?_eq_none_iff]

theorem pending_of_block (here : sweep.blocks[sweep.blocksDone.toNat]? = some block) :
    sweep.pending =
      block.span :: (sweep.blocks.drop (sweep.blocksDone.toNat + 1)).map Block.span := by
  obtain ⟨bound, rfl⟩ := List.getElem?_eq_some_iff.mp here
  rw [pending, List.drop_eq_getElem_cons bound, List.map_cons]

/-! ## A step -/

/-- Only the places of a sweep move. -/
structure SameShape (sweep later : Sweep) : Prop where
  blocks : later.blocks = sweep.blocks
  baseMipLevel : later.baseMipLevel = sweep.baseMipLevel
  levelCount : later.levelCount = sweep.levelCount

theorem Produces.sameShape (produces : sweep.Produces block span rest) : sweep.SameShape rest := by
  cases produces <;> exact ⟨rfl, rfl, rfl⟩

theorem left_of_produces (here : sweep.blocks[sweep.blocksDone.toNat]? = some block)
    (underway : sweep.Underway) (produces : sweep.Produces block span rest) :
    sweep.left = span :: rest.left ∧ rest.Underway := by
  have pending := pending_of_block here
  have unfinished := underway (pending ▸ List.cons_ne_nil _ _)
  have onward {done : UInt64} {levels : UInt32}
      (counted : done.toNat = sweep.blocksDone.toNat + 1) :
      ({ sweep with blocksDone := done, levelsDone := levels } : Sweep).pending =
        (sweep.blocks.drop (sweep.blocksDone.toNat + 1)).map Block.span := by
    rw [Sweep.pending, counted]
  cases produces with
  | @aspect done whole counted =>
    refine ⟨?_, fun _ => unfinished⟩
    rw [left_of_aspect whole, @left_of_aspect { sweep with blocksDone := done } whole, pending]
    exact congrArg _ (onward counted).symm
  | @mipLevel done levelled counted =>
    refine ⟨?_, fun _ => unfinished⟩
    rw [left_of_mipLevel levelled, @left_of_mipLevel { sweep with blocksDone := done } levelled,
      pending, List.map_cons]
    exact congrArg _ (congrArg _ (onward counted).symm)
  | @lastLevel done layered counted last =>
    refine ⟨?_, fun _ => Nat.zero_lt_of_lt unfinished⟩
    have one : sweep.levelCount.toNat - sweep.levelsDone.toNat = 1 := by omega
    rw [left_of_begun layered pending,
      @left_of_unbegun { sweep with blocksDone := done, levelsDone := 0 } layered rfl,
      onward counted, layersFrom, one]
    rfl
  | @level levels layered oneMore more =>
    refine ⟨?_, fun _ => by dsimp only; omega⟩
    have split : sweep.levelCount.toNat - sweep.levelsDone.toNat =
        sweep.levelCount.toNat - (sweep.levelsDone.toNat + 1) + 1 := by omega
    rw [left_of_begun layered pending,
      @left_of_begun { sweep with levelsDone := levels } layered _ _ pending, layersFrom, split,
      List.range'_succ, layersFrom, oneMore]
    rfl

theorem left_of_next (underway : sweep.Underway) (stepped : sweep.next = .ok (some span, rest)) :
    sweep.left = span :: rest.left ∧ rest.Underway := by
  obtain ⟨block, here, produces⟩ := produces_of_next stepped
  exact left_of_produces here underway produces

/-- A step answers nothing only once all blocks are finished. -/
theorem pending_of_next (finished : sweep.next = .ok (none, rest)) :
    sweep.pending = [] ∧ rest = sweep := by
  rcases next_cases finished with ⟨none, -, same⟩ | ⟨_, _, _, some, _⟩
  · exact ⟨pending_eq_nil_iff.mpr none, same⟩
  · cases some

theorem next_of_pending_nil (finished : sweep.pending = []) : sweep.next = .ok (none, sweep) := by
  rw [next, pending_eq_nil_iff.mp finished]

/-! ## A run -/

/-- What a run produces is a beginning of what is left, and all of it unless a step fails. -/
theorem Underway.run (underway : sweep.Underway) :
    sweep.run.spans <+: sweep.left ∧ (sweep.run.failure = none → sweep.run.spans = sweep.left) := by
  induction sweep using run.induct with
  | case1 sweep failure failed =>
    rw [run_of_error failed]
    exact ⟨List.nil_prefix, nofun⟩
  | case2 sweep rest finished =>
    rw [run_of_none finished, left_of_pending_nil (pending_of_next finished).1]
    exact ⟨List.nil_prefix, fun _ => rfl⟩
  | case3 sweep span rest stepped ih =>
    obtain ⟨onward, underwayRest⟩ := left_of_next underway stepped
    obtain ⟨beginning, all⟩ := ih underwayRest
    rw [run_of_some stepped, onward, Swept.spans_cons, Swept.failure_cons]
    exact ⟨(List.prefix_cons_inj span).mpr beginning,
      fun succeeds => congrArg (span :: ·) (all succeeds)⟩

/-! ## Steps that do not fail -/

/-- The blocks are few, no mip level is past the numbers of 32 bits, in the block that comes next
there are levels left, and every span that is yet to come stops in a word. -/
structure Sound (sweep : Sweep) : Prop where
  few : sweep.blocks.length < UInt32.size
  exact : sweep.baseMipLevel.toNat + sweep.levelCount.toNat ≤ UInt32.size
  underway : sweep.Underway
  inWords : ∀ span ∈ sweep.left, span.stop < UInt64.size

theorem sound_nothing : nothing.Sound :=
  ⟨by decide, by decide, fun some => absurd rfl some, nofun⟩

theorem Sound.exists_done (sound : sweep.Sound)
    (here : sweep.blocks[sweep.blocksDone.toNat]? = some block) :
    ∃ done, Words.add sweep.blocksDone 1 = .ok done ∧
      done.toNat = sweep.blocksDone.toNat + 1 := by
  have bound := (List.getElem?_eq_some_iff.mp here).1
  have few := sound.few
  have size : UInt32.size + 1 < UInt64.size := by decide
  exact Words.exists_add _ _ (by rw [UInt64.toNat_one]; omega)

theorem Sound.steps_aspect (sound : sweep.Sound)
    (here : sweep.blocks[sweep.blocksDone.toNat]? = some block)
    (whole : sweep.granularity = .aspect) (bound : block.span.stop < UInt64.size) :
    ∃ span rest, sweep.next = .ok (some span, rest) := by
  obtain ⟨done, sum, -⟩ := sound.exists_done here
  obtain ⟨stop, reached, -⟩ := Words.exists_add block.start block.length bound
  refine ⟨⟨block.start.toNat, stop.toNat⟩, { sweep with blocksDone := done }, ?_⟩
  rw [next, here, whole]
  simp only [sum, reached, bind, Except.bind]
  rfl

theorem Sound.steps_mipLevel (sound : sweep.Sound)
    (here : sweep.blocks[sweep.blocksDone.toNat]? = some block)
    (levelled : sweep.granularity = .mipLevel)
    (bound : (sweep.levelsSpan block.span).stop < UInt64.size) :
    ∃ span rest, sweep.next = .ok (some span, rest) := by
  obtain ⟨done, sum, -⟩ := sound.exists_done here
  have reach : block.start.toNat + sweep.baseMipLevel.toNat * sweep.mipSize.toNat +
      sweep.levelCount.toNat * sweep.mipSize.toNat < UInt64.size := bound
  obtain ⟨skipped, start, product, started, starts⟩ := Words.exists_past block.start
    sweep.mipSize sweep.baseMipLevel (by omega)
  obtain ⟨covered, stop, whole, stopped, -⟩ := Words.exists_past start
    sweep.mipSize sweep.levelCount (by rw [starts]; exact reach)
  refine ⟨⟨start.toNat, stop.toNat⟩, { sweep with blocksDone := done }, ?_⟩
  rw [next, here, levelled]
  simp only [sum, product, started, whole, stopped, bind, Except.bind]
  rfl

theorem Sound.steps_arrayLayer (sound : sweep.Sound)
    (here : sweep.blocks[sweep.blocksDone.toNat]? = some block)
    (layered : sweep.granularity = .arrayLayer)
    (unfinished : sweep.levelsDone.toNat < sweep.levelCount.toNat)
    (bound : (sweep.layersSpan block.span sweep.levelsDone.toNat).stop < UInt64.size) :
    ∃ span rest, sweep.next = .ok (some span, rest) := by
  obtain ⟨done, sum, -⟩ := sound.exists_done here
  have exact := sound.exact
  have levels : sweep.levelCount.toNat < UInt32.size := sweep.levelCount.toNat_lt
  have reach : block.start.toNat +
        (sweep.baseMipLevel.toNat + sweep.levelsDone.toNat) * sweep.mipSize.toNat +
      sweep.baseArrayLayer.toNat + sweep.layerCount.toNat < UInt64.size := bound
  obtain ⟨level, placed, reached⟩ := Words.exists_addPlaces sweep.baseMipLevel
    sweep.levelsDone (by omega)
  obtain ⟨further, oneMore, -⟩ := Words.exists_addPlaces sweep.levelsDone 1 (by
    rw [UInt32.toNat_one]
    omega)
  rw [← reached] at reach
  obtain ⟨skipped, levelStart, product, started, levelStarts⟩ := Words.exists_past block.start
    sweep.mipSize level (by omega)
  obtain ⟨start, shifted, starts⟩ := Words.exists_add levelStart
    sweep.baseArrayLayer.toUInt64 (by
      rw [levelStarts, UInt32.toNat_toUInt64]
      omega)
  rw [levelStarts, UInt32.toNat_toUInt64] at starts
  obtain ⟨stop, stopped, -⟩ := Words.exists_add start sweep.layerCount.toUInt64 (by
    rw [starts, UInt32.toNat_toUInt64]
    exact reach)
  by_cases last : further = sweep.levelCount
  · refine ⟨⟨start.toNat, stop.toNat⟩,
      { sweep with blocksDone := done, levelsDone := 0 }, ?_⟩
    rw [next, here, layered]
    simp only [placed, product, started, shifted, oneMore, stopped, sum, bind, Except.bind,
      if_pos last]
    rfl
  · refine ⟨⟨start.toNat, stop.toNat⟩, { sweep with levelsDone := further }, ?_⟩
    rw [next, here, layered]
    simp only [placed, product, started, shifted, oneMore, stopped, bind, Except.bind,
      if_neg last]
    rfl

/-- As long as spans are left, a step succeeds with the first of them, and the sweep stays sound. -/
theorem Sound.exists_next (sound : sweep.Sound)
    (here : sweep.blocks[sweep.blocksDone.toNat]? = some block) :
    ∃ span rest, sweep.next = .ok (some span, rest) ∧ sweep.left = span :: rest.left ∧
      rest.Sound := by
  have pending := pending_of_block here
  suffices steps : ∃ span rest, sweep.next = .ok (some span, rest) by
    obtain ⟨span, rest, stepped⟩ := steps
    obtain ⟨other, same, produces⟩ := produces_of_next stepped
    have shape := produces.sameShape
    obtain ⟨onward, underway⟩ := left_of_next sound.underway stepped
    refine ⟨span, rest, stepped, onward, ?_, ?_, underway, ?_⟩
    · exact shape.blocks ▸ sound.few
    · rw [shape.baseMipLevel, shape.levelCount]
      exact sound.exact
    · exact fun later member => sound.inWords later (onward ▸ List.mem_cons_of_mem span member)
  cases granular : sweep.granularity with
  | aspect =>
    refine sound.steps_aspect here granular (sound.inWords _ ?_)
    rw [left_of_aspect granular, pending]
    exact List.mem_cons_self
  | mipLevel =>
    refine sound.steps_mipLevel here granular (sound.inWords _ ?_)
    rw [left_of_mipLevel granular, pending]
    exact List.mem_cons_self
  | arrayLayer =>
    have unfinished := sound.underway (pending ▸ List.cons_ne_nil _ _)
    refine sound.steps_arrayLayer here granular unfinished (sound.inWords _ ?_)
    rw [left_of_begun granular pending, layersFrom]
    exact List.mem_append_left _ (List.mem_map_of_mem (List.mem_range'_1.mpr (by omega)))

/-- A sound sweep runs to its end. -/
theorem Sound.run (sound : sweep.Sound) : sweep.run = ⟨sweep.left, none⟩ := by
  induction sweep using run.induct with
  | case1 sweep failure failed =>
    cases here : sweep.blocks[sweep.blocksDone.toNat]? with
    | none => cases failed.symm.trans (next_of_pending_nil (pending_eq_nil_iff.mpr here))
    | some block =>
      obtain ⟨span, rest, stepped, -⟩ := sound.exists_next here
      cases failed.symm.trans stepped
  | case2 sweep rest finished =>
    rw [run_of_none finished, left_of_pending_nil (pending_of_next finished).1]
  | case3 sweep span rest stepped ih =>
    obtain ⟨block, here, -⟩ := produces_of_next stepped
    obtain ⟨first, others, again, onward, soundOthers⟩ := sound.exists_next here
    cases stepped.symm.trans again
    rw [run_of_some stepped, ih soundOthers, onward]
    rfl

end Sweep

end LayoutTracking
