import LayoutTracking.Proofs.SweepRuns
import LayoutTracking.Subresource.SweepRun
import Mathlib.Data.List.Induction

/-!
# The blocks of a sweep

Where the blocks of a selector can be laid out at all, they are the spans of its aspects, joined where
that is due. For an image whose subresources can be counted in a word, they always can.
-/

set_option autoImplicit false

namespace LayoutTracking

namespace Words

variable (left right : UInt64)

theorem exists_add (bound : left.toNat + right.toNat < UInt64.size) :
    ∃ sum, add left right = .ok sum ∧ sum.toNat = left.toNat + right.toNat :=
  ⟨_, if_pos bound, toNat_eq_of_add (if_pos bound)⟩

theorem exists_mul (bound : left.toNat * right.toNat < UInt64.size) :
    ∃ product, mul left right = .ok product ∧ product.toNat = left.toNat * right.toNat :=
  ⟨_, if_pos bound, toNat_eq_of_mul (if_pos bound)⟩

theorem exists_addPlaces (left right : UInt32) (bound : left.toNat + right.toNat < UInt32.size) :
    ∃ sum, addPlaces left right = .ok sum ∧ sum.toNat = left.toNat + right.toNat :=
  ⟨_, if_pos bound, (toNat_eq_of_addPlaces (if_pos bound)).2⟩

/-- So many sizes past the start. -/
theorem exists_past (start size : UInt64) (count : UInt32)
    (bound : start.toNat + count.toNat * size.toNat < UInt64.size) :
    ∃ skipped sum, mul count.toUInt64 size = .ok skipped ∧ add start skipped = .ok sum ∧
      sum.toNat = start.toNat + count.toNat * size.toNat := by
  obtain ⟨skipped, product, skips⟩ := exists_mul count.toUInt64 size (by
    rw [UInt32.toNat_toUInt64]
    omega)
  rw [UInt32.toNat_toUInt64] at skips
  obtain ⟨sum, added, sums⟩ := exists_add start skipped (by
    rw [skips]
    exact bound)
  exact ⟨skipped, sum, product, added, by rw [sums, skips]⟩

end Words

namespace Sweep

/-! ## Spans behind one another -/

/-- The spans with one more behind them, joined with the last if it touches that one. -/
def attach (joins : Bool) (span : Span) : List Span → List Span
  | [] => [span]
  | [last] =>
    if joins = true ∧ last.stop = span.start then [⟨last.start, span.stop⟩] else [last, span]
  | first :: next :: rest => first :: attach joins span (next :: rest)

theorem attach_false (span : Span) (spans : List Span) :
    attach false span spans = spans ++ [span] := by
  fun_induction attach false span spans with
  | case1 => rfl
  | case2 last both => exact absurd both.1 Bool.false_ne_true
  | case3 => rfl
  | case4 first next rest ih => rw [ih]; rfl

theorem joinTouching_concat (spans : List Span) (span : Span) :
    joinTouching (spans ++ [span]) = attach true span (joinTouching spans) := by
  induction spans with
  | nil => rfl
  | cons first rest ih =>
    rw [List.cons_append, joinTouching, joinTouching, ih]
    cases joined : joinTouching rest with
    | nil => simp [attach]
    | cons next further =>
      cases further with
      | nil =>
        by_cases touches : first.stop = next.start <;> by_cases meets : next.stop = span.start <;>
          simp [attach, touches, meets]
      | cons third further =>
        by_cases touches : first.stop = next.start <;> simp [attach, touches]

theorem length_attach_le (joins : Bool) (span : Span) (spans : List Span) :
    (attach joins span spans).length ≤ spans.length + 1 := by
  fun_induction attach joins span spans with
  | case1 => simp
  | case2 => simp
  | case3 => simp
  | case4 first next rest ih => simpa using ih

/-- The spans, those that touch joined if that is due. -/
def joined (joins : Bool) (spans : List Span) : List Span :=
  if joins then joinTouching spans else spans

theorem joined_concat (joins : Bool) (spans : List Span) (span : Span) :
    joined joins (spans ++ [span]) = attach joins span (joined joins spans) := by
  cases joins with
  | false => exact (attach_false span spans).symm
  | true => exact joinTouching_concat spans span

theorem exists_stop_of_mem_joined {joins : Bool} {spans : List Span} {span : Span}
    (member : span ∈ joined joins spans) : ∃ other ∈ spans, other.stop = span.stop := by
  cases joins with
  | false => exact ⟨span, member, rfl⟩
  | true => exact (ends_of_mem_joinTouching member).2

/-! ## Laying out the blocks -/

variable {joins : Bool} {blocks added : List Block} {size start : UInt64}

theorem spans_of_addBlock (done : addBlock joins size start blocks = .ok added) :
    added.map Block.span =
      attach joins ⟨start.toNat, start.toNat + size.toNat⟩ (blocks.map Block.span) := by
  fun_induction addBlock joins size start blocks generalizing added with
  | case1 =>
    cases done
    rfl
  | case2 last due =>
    obtain ⟨stop, reached, done⟩ := exists_of_bind done
    have stops : stop.toNat = last.span.stop := Words.toNat_eq_of_add reached
    have same : stop = start ↔ last.span.stop = start.toNat := by
      rw [← UInt64.toNat_inj, stops]
    rw [List.map_singleton, attach]
    split at done
    · next touches =>
      obtain ⟨length, grown, done⟩ := exists_of_bind done
      cases done
      have touching := same.mp touches
      rw [if_pos ⟨due, touching⟩, List.map_singleton, Block.span, Words.toNat_eq_of_add grown,
        ← Nat.add_assoc]
      exact congrArg (fun reach => [(⟨last.start.toNat, reach + size.toNat⟩ : Span)]) touching
    · next apart =>
      cases done
      rw [if_neg fun both => apart (same.mpr both.2)]
      rfl
  | case3 last undue =>
    cases done
    rw [List.map_singleton, attach, if_neg fun both => undue both.1]
    rfl
  | case4 first next rest ih =>
    obtain ⟨later, laid, done⟩ := exists_of_bind done
    cases done
    rw [List.map_cons, ih laid]
    rfl

/-- A block that stops in a word can be put behind others that do. -/
theorem exists_addBlock (joins : Bool) (inWords : ∀ block ∈ blocks, block.span.stop < UInt64.size)
    (bound : start.toNat + size.toNat < UInt64.size) :
    ∃ added, addBlock joins size start blocks = .ok added := by
  fun_induction addBlock joins size start blocks with
  | case1 => exact ⟨_, rfl⟩
  | case2 last due =>
    obtain ⟨stop, reached, stops⟩ := Words.exists_add last.start last.length
      (inWords last List.mem_cons_self)
    rw [reached]
    by_cases touches : stop = start
    · obtain ⟨length, grown, -⟩ := Words.exists_add last.length size (by
        rw [← touches] at bound
        omega)
      exact ⟨_, by simp only [bind, Except.bind, if_pos touches, grown]; rfl⟩
    · exact ⟨_, by simp only [bind, Except.bind, if_neg touches]; rfl⟩
  | case3 last undue => exact ⟨_, rfl⟩
  | case4 first next rest ih =>
    obtain ⟨later, laid⟩ := ih (List.forall_mem_cons.mp inWords).2
    exact ⟨first :: later, by rw [laid]; rfl⟩

theorem layOut_concat (joins : Bool) (size : UInt64) (positions : List Nat) (position : Nat) :
    layOut joins size (positions ++ [position]) =
      layOut joins size positions >>= fun blocks =>
        Words.mul (.ofNat position) size >>= fun start => addBlock joins size start blocks := by
  simp only [layOut, List.foldlM_append, List.foldlM_cons, List.foldlM_nil, bind_pure]

variable {image : Addressing} {selector : Selector}

theorem spans_of_layOut (sized : size.toNat = image.aspectSize) {positions : List Nat}
    (words : ∀ position ∈ positions, position < UInt64.size)
    (done : layOut joins size positions = .ok blocks) :
    blocks.map Block.span = joined joins (positions.map (block image)) ∧
      blocks.length ≤ positions.length := by
  induction positions using List.reverseRecOn generalizing blocks with
  | nil =>
    cases done
    exact ⟨by cases joins <;> rfl, Nat.le_refl _⟩
  | append_singleton positions position ih =>
    obtain ⟨wordsBefore, wordHere⟩ := List.forall_mem_append.mp words
    rw [layOut_concat] at done
    obtain ⟨earlier, before, done⟩ := exists_of_bind done
    obtain ⟨start, placed, done⟩ := exists_of_bind done
    obtain ⟨spans, few⟩ := ih wordsBefore before
    have starts : start.toNat = position * image.aspectSize := by
      rw [Words.toNat_eq_of_mul placed, sized,
        UInt64.toNat_ofNat_of_lt' (wordHere position List.mem_cons_self)]
    have laid := spans_of_addBlock done
    rw [starts, sized, spans] at laid
    refine ⟨?_, ?_⟩
    · rw [List.map_append, List.map_singleton, joined_concat]
      exact laid
    · have grown := length_attach_le joins (block image position)
        (joined joins (positions.map (block image)))
      have lengths := congrArg List.length laid
      have same := congrArg List.length spans
      rw [List.length_map] at lengths same
      rw [List.length_append, List.length_singleton]
      exact Nat.le_trans (Nat.le_of_eq lengths) (Nat.le_trans grown (by omega))

theorem exists_layOut (joins : Bool) (sized : size.toNat = image.aspectSize) {positions : List Nat}
    (words : ∀ position ∈ positions, position < UInt64.size)
    (bound : ∀ position ∈ positions, (block image position).stop < UInt64.size) :
    ∃ blocks, layOut joins size positions = .ok blocks := by
  induction positions using List.reverseRecOn with
  | nil => exact ⟨[], rfl⟩
  | append_singleton positions position ih =>
    obtain ⟨wordsBefore, wordHere⟩ := List.forall_mem_append.mp words
    obtain ⟨boundBefore, boundHere⟩ := List.forall_mem_append.mp bound
    obtain ⟨blocks, before⟩ := ih wordsBefore boundBefore
    have stops : position * image.aspectSize + image.aspectSize < UInt64.size :=
      boundHere position List.mem_cons_self
    have word : (UInt64.ofNat position).toNat = position :=
      UInt64.toNat_ofNat_of_lt' (wordHere position List.mem_cons_self)
    obtain ⟨start, placed, starts⟩ := Words.exists_mul (.ofNat position) size (by
      rw [word, sized]
      omega)
    rw [word, sized] at starts
    have inWords : ∀ block ∈ blocks, block.span.stop < UInt64.size := by
      intro earlier member
      have isSpan : earlier.span ∈ joined joins (positions.map (block image)) := by
        rw [← (spans_of_layOut sized wordsBefore before).1]
        exact List.mem_map_of_mem member
      obtain ⟨other, isBlock, same⟩ := exists_stop_of_mem_joined isSpan
      obtain ⟨place, isPlace, rfl⟩ := List.mem_map.mp isBlock
      exact same ▸ boundBefore place isPlace
    obtain ⟨added, done⟩ := exists_addBlock joins inWords
      (show start.toNat + size.toNat < UInt64.size by rw [starts, sized]; exact stops)
    exact ⟨added, by rw [layOut_concat, before, placed]; exact done⟩

theorem length_positions_le (image : Addressing) (selector : Selector) :
    (positions image selector).length ≤ 8 := by
  have aspects : image.aspects.length ≤ 8 := image.mask.length_singles_le
  rw [positions, List.length_map]
  refine Nat.le_trans (List.length_filter_le _ _) ?_
  rwa [List.length_zipIdx]

theorem positions_lt_size (image : Addressing) (selector : Selector) :
    ∀ position ∈ positions image selector, position < UInt64.size := by
  intro position member
  have aspects : image.aspects.length ≤ 8 := image.mask.length_singles_le
  exact Nat.lt_of_lt_of_le (lt_of_mem_positions member) (Nat.le_trans aspects (by decide))

/-- The blocks of a selector, laid out for its sweep. -/
structure LaidOut (image : Addressing) (selector : Selector) (blocks : List Block) : Prop where
  spans : blocks.map Block.span =
    joined (granularityOf image selector = .aspect) (aspectSpans image selector)
  few : blocks.length ≤ 8

theorem exists_size (image : Addressing) :
    ∃ size, Words.mul image.arrayLayers.toUInt64 image.mipLevels.toUInt64 = .ok size ∧
      size.toNat = image.aspectSize :=
  Words.exists_mul _ _ (Nat.mul_lt_mul'' image.arrayLayers.toNat_lt image.mipLevels.toNat_lt)

theorem ofSelector_of_not_admits (refused : image.admits selector = false) :
    ofSelector image selector = .ok nothing := by
  rw [ofSelector, refused, if_neg Bool.false_ne_true]

theorem laidOut_of_ofSelector (admitted : image.admits selector = true) {sweep : Sweep}
    (made : ofSelector image selector = .ok sweep) :
    ∃ blocks, sweep = ofBlocks image selector blocks ∧ LaidOut image selector blocks := by
  rw [ofSelector, if_pos admitted] at made
  obtain ⟨size, product, made⟩ := exists_of_bind made
  obtain ⟨blocks, done, made⟩ := exists_of_bind made
  obtain ⟨spans, few⟩ := spans_of_layOut (Words.toNat_eq_of_mul product)
    (positions_lt_size image selector) done
  cases made
  exact ⟨blocks, rfl, spans, Nat.le_trans few (length_positions_le image selector)⟩

theorem exists_ofSelector (fits : image.count < UInt64.size) (selector : Selector) :
    ∃ sweep, ofSelector image selector = .ok sweep := by
  cases admitted : image.admits selector with
  | false => exact ⟨nothing, ofSelector_of_not_admits admitted⟩
  | true =>
    obtain ⟨size, product, sized⟩ := exists_size image
    obtain ⟨blocks, done⟩ := exists_layOut (granularityOf image selector = .aspect) sized
      (positions_lt_size image selector)
      fun position member => Nat.lt_of_le_of_lt (block_le_count member) fits
    refine ⟨ofBlocks image selector blocks, ?_⟩
    rw [ofSelector, if_pos admitted, product]
    simp only [bind, Except.bind, done]
    rfl

end Sweep

end LayoutTracking
