import LayoutTracking.Proofs.SweepCoverage

/-!
# The length of a sweep

The length that a sweep announces is the number of spans that it has yet to produce. It is so before
the first step and after each one, in the middle of a block as well, and no word overflows on the way
for an image whose subresources can be counted in a word.
-/

set_option autoImplicit false

namespace LayoutTracking

theorem Words.exists_sub (left right : UInt64) (bound : right.toNat ≤ left.toNat) :
    ∃ difference, sub left right = .ok difference ∧
      difference.toNat = left.toNat - right.toNat := by
  have ordered : right ≤ left := UInt64.le_iff_toNat_le.mpr bound
  exact ⟨left - right, if_pos ordered, UInt64.toNat_sub_of_le _ _ ordered⟩

namespace Sweep

variable {sweep : Sweep} {image : Addressing} {selector : Selector}

/-! ## What is announced -/

theorem isEmpty_eq_pending (sweep : Sweep) : sweep.isEmpty = sweep.pending.isEmpty := by
  rw [isEmpty, pending, List.isEmpty_map, Bool.eq_iff_iff, decide_eq_true_iff,
    List.isEmpty_iff, List.drop_eq_nil_iff]

theorem Sound.isEmpty_eq (sound : sweep.Sound) : sweep.isEmpty = sweep.left.isEmpty := by
  rw [isEmpty_eq_pending]
  cases here : sweep.blocks[sweep.blocksDone.toNat]? with
  | none =>
    have finished := pending_eq_nil_iff.mpr here
    rw [left_of_pending_nil finished, finished]
  | some block =>
    obtain ⟨span, rest, -, onward, -⟩ := sound.exists_next here
    rw [onward, pending_of_block here, List.isEmpty_cons, List.isEmpty_cons]

theorem length_left_layers (layered : sweep.granularity = .arrayLayer)
    (underway : sweep.Underway) :
    sweep.left.length =
      sweep.pending.length * sweep.levelCount.toNat - sweep.levelsDone.toNat := by
  cases pending : sweep.pending with
  | nil => simp [left_of_pending_nil pending]
  | cons first later =>
    have unfinished := underway (pending ▸ List.cons_ne_nil _ _)
    rw [left_of_begun layered pending]
    simp only [layersFrom, List.length_append, List.length_map, List.length_range',
      List.length_flatMap, Nat.sub_zero, List.map_const', List.sum_replicate_nat, List.length_cons,
      Nat.succ_mul]
    omega

theorem Sound.exists_length (sound : sweep.Sound) :
    ∃ count, sweep.length = .ok count ∧ count.toNat = sweep.left.length := by
  have few := sound.few
  have blocksLeft : sweep.pending.length = sweep.blocks.length - sweep.blocksDone.toNat := by
    rw [pending, List.length_map, List.length_drop]
  have word : (UInt64.ofNat (sweep.blocks.length - sweep.blocksDone.toNat)).toNat =
      sweep.pending.length := by
    rw [blocksLeft]
    exact UInt64.toNat_ofNat_of_lt' (Nat.lt_of_le_of_lt (Nat.sub_le _ _)
      (Nat.lt_trans few (by decide)))
  rw [length]
  cases granular : sweep.granularity with
  | aspect =>
    rw [left_of_aspect granular]
    exact ⟨_, rfl, word⟩
  | mipLevel =>
    rw [left_of_mipLevel granular, List.length_map]
    exact ⟨_, rfl, word⟩
  | arrayLayer =>
    rw [length_left_layers granular sound.underway]
    dsimp only
    by_cases none : UInt64.ofNat (sweep.blocks.length - sweep.blocksDone.toNat) = 0
    · rw [none, UInt64.toNat_zero] at word
      rw [if_pos none, ← word, Nat.zero_mul, Nat.zero_sub]
      exact ⟨0, rfl, rfl⟩
    · have some : 0 < sweep.pending.length := by
        rw [← word]
        exact Nat.pos_of_ne_zero fun zero => none (UInt64.toNat_inj.mp zero)
      have unfinished := sound.underway (List.ne_nil_of_length_pos some)
      have fits : sweep.pending.length * sweep.levelCount.toNat < UInt64.size :=
        Nat.mul_lt_mul'' (by omega : _ < UInt32.size) sweep.levelCount.toNat_lt
      have levelsDone := Nat.le_trans (Nat.le_of_lt unfinished)
        (Nat.le_mul_of_pos_left sweep.levelCount.toNat some)
      obtain ⟨levels, product, all⟩ := Words.exists_mul _
        sweep.levelCount.toUInt64 (by rw [word, UInt32.toNat_toUInt64]; exact fits)
      rw [word, UInt32.toNat_toUInt64] at all
      obtain ⟨count, difference, counts⟩ := Words.exists_sub levels
        sweep.levelsDone.toUInt64 (by
          rw [all, UInt32.toNat_toUInt64]
          exact levelsDone)
      rw [all, UInt32.toNat_toUInt64] at counts
      refine ⟨count, ?_, counts⟩
      simp only [if_neg none, product, difference, bind, Except.bind]

/-- A step answers the first span that is left, and leaves the others. A sweep that has none left
stays as it is. -/
theorem Sound.exists_answer (sound : sweep.Sound) :
    ∃ rest, sweep.next = .ok (sweep.left.head?, rest) ∧ rest.Sound ∧
      rest.left = sweep.left.tail ∧ (sweep.left = [] → rest = sweep) := by
  cases here : sweep.blocks[sweep.blocksDone.toNat]? with
  | none =>
    have finished := pending_eq_nil_iff.mpr here
    rw [left_of_pending_nil finished]
    exact ⟨sweep, next_of_pending_nil finished, sound, left_of_pending_nil finished, fun _ => rfl⟩
  | some block =>
    obtain ⟨span, rest, stepped, onward, soundRest⟩ := sound.exists_next here
    rw [onward]
    exact ⟨rest, stepped, soundRest, rfl, fun none => absurd none (List.cons_ne_nil _ _)⟩

/-- What is announced of a sweep when these spans are left, and what it goes on to produce. Once none
are left it stays as it is. -/
structure Announces (sweep : Sweep) (left : List Span) : Prop where
  length : ∃ count, sweep.length = .ok count ∧ count.toNat = left.length
  isEmpty : sweep.isEmpty = left.isEmpty
  next : ∃ rest, sweep.next = .ok (left.head?, rest) ∧ (left = [] → rest = sweep)
  run : sweep.run = ⟨left, none⟩

theorem Sound.announces (sound : sweep.Sound) : sweep.Announces sweep.left where
  length := sound.exists_length
  isEmpty := sound.isEmpty_eq
  next := by
    obtain ⟨rest, answer, -, -, finished⟩ := sound.exists_answer
    exact ⟨rest, answer, finished⟩
  run := sound.run

/-! ## At every point -/

/-- Every step of the sweep succeeds and answers the span at its place, or nothing behind the last
one. Before the first step and after each one the spans that are left are announced. -/
def RunsThrough (sweep : Sweep) (spans : List Span) : Prop :=
  ∀ taken, ∃ rest,
    sweep.take taken = .ok ((List.range taken).map fun place => spans[place]?, rest) ∧
      rest.Announces (spans.drop taken)

theorem Sound.exists_take (sound : sweep.Sound) (taken : Nat) :
    ∃ rest, sweep.take taken =
        .ok ((List.range taken).map fun place => sweep.left[place]?, rest) ∧
      rest.Sound ∧ rest.left = sweep.left.drop taken := by
  induction taken generalizing sweep with
  | zero => exact ⟨sweep, rfl, sound, rfl⟩
  | succ taken ih =>
    obtain ⟨later, answer, soundLater, others, -⟩ := sound.exists_answer
    obtain ⟨rest, answers, soundRest, onward⟩ := ih soundLater
    refine ⟨rest, ?_, soundRest, ?_⟩
    · have places : (List.range taken).map (fun place => later.left[place]?) =
          (List.range taken).map fun place => sweep.left[place + 1]? := by
        simp only [others, List.getElem?_tail]
      rw [take, answer]
      simp only [bind, Except.bind, answers, places, List.range_succ_eq_map, List.map_cons,
        List.map_map, List.head?_eq_getElem?]
      rfl
    · rw [onward, others, List.drop_tail]

theorem Sound.runsThrough (sound : sweep.Sound) : sweep.RunsThrough sweep.left := by
  intro taken
  obtain ⟨rest, answers, soundRest, onward⟩ := sound.exists_take taken
  exact ⟨rest, answers, onward ▸ soundRest.announces⟩

/-- What is announced of the sweep of a selector is exact at every point, and no word overflows on
the way. The sweep of no selector announces that nothing is left. -/
theorem announced_exactly (fits : image.count < UInt64.size)
    (exact : image.admits selector = true → image.Encloses selector) :
    nothing.RunsThrough [] ∧
      ∃ start, ofSelector image selector = .ok start ∧
        start.RunsThrough (Swept.ofSelector image selector).spans := by
  refine ⟨sound_nothing.runsThrough, ?_⟩
  cases admitted : image.admits selector with
  | false =>
    rw [Swept.ofSelector_of_not_admits admitted]
    exact ⟨nothing, ofSelector_of_not_admits admitted, sound_nothing.runsThrough⟩
  | true =>
    have encloses := exact admitted
    obtain ⟨start, made⟩ := exists_ofSelector fits selector
    refine ⟨start, made, ?_⟩
    rw [Swept.ofSelector_eq fits encloses, ← (left_ofSelector admitted made).1]
    exact (sound_ofSelector fits encloses made).runsThrough

/-- Of four aspects, one of them without a name, the last three are selected, with two of three mip
levels and two of three layers: six spans are announced, and fewer by one after each step. -/
theorem announced_exactly_layers :
    let image : Addressing := ⟨⟨0x87⟩, 3, 3⟩
    let selector : Selector := ⟨⟨0x86⟩, 1, 2, 0, 2⟩
    image.count < UInt64.size ∧ image.Encloses selector ∧
      ∃ start, ofSelector image selector = .ok start ∧
        start.RunsThrough [⟨12, 14⟩, ⟨15, 17⟩, ⟨21, 23⟩, ⟨24, 26⟩, ⟨30, 32⟩, ⟨33, 35⟩] := by
  intro image selector
  have fits : image.count < UInt64.size := by decide
  have encloses : image.Encloses selector := ⟨by decide, by decide, by decide, by decide⟩
  have spans : Swept.ofSelector image selector =
      ⟨[⟨12, 14⟩, ⟨15, 17⟩, ⟨21, 23⟩, ⟨24, 26⟩, ⟨30, 32⟩, ⟨33, 35⟩], none⟩ := by
    rw [Swept.ofSelector_eq fits encloses]
    decide
  obtain ⟨-, start, made, runs⟩ := announced_exactly fits fun _ => encloses
  rw [spans] at runs
  exact ⟨fits, encloses, start, made, runs⟩

end Sweep

end LayoutTracking
