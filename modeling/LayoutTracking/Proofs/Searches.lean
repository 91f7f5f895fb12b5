import LayoutTracking.Proofs.ExecutionMerge
import LayoutTracking.Proofs.ReadPaths
import LayoutTracking.Proofs.SharedLayouts
import LayoutTracking.Proofs.SweepOrder

/-!
# What a search finds

A search goes over the spans of a query, and over what is stored at each of them, and stops at the
first hit. It finds something exactly if one of the indices asked for is stored with a hit. Nothing
but stored spans is looked at, each as it is stored, and in ascending order if the query ascends.
A search along a sweep that fails comes to a hit before the failure, or fails as well.
-/

set_option autoImplicit false

namespace LayoutTracking

/-- The items were looked at one by one, up to the first that the predicate holds of. -/
inductive Search.StopsAtFirst {α : Type} (holds : α → Bool) : List α → Search α → Prop where
  | missed {items : List α} :
      (∀ item ∈ items, holds item = false) → StopsAtFirst holds items ⟨false, items⟩
  | hit {before after : List α} {item : α} :
      (∀ earlier ∈ before, holds earlier = false) → holds item = true →
      StopsAtFirst holds (before ++ item :: after) ⟨true, before ++ [item]⟩

theorem Search.through_stopsAtFirst {α : Type} (holds : α → Bool) (items : List α) :
    StopsAtFirst holds items (through holds items) := by
  induction items with
  | nil => exact .missed (List.forall_mem_nil _)
  | cons item rest ih =>
    rw [through]
    by_cases here : holds item = true
    · rw [if_pos here]
      exact .hit (List.forall_mem_nil _) here
    · have passed : holds item = false := Bool.eq_false_iff.mpr here
      rw [if_neg here]
      generalize through holds rest = later at ih
      cases ih with
      | missed others => exact .missed (List.forall_mem_cons.mpr ⟨passed, others⟩)
      | hit before found => exact .hit (List.forall_mem_cons.mpr ⟨passed, before⟩) found

theorem Search.StopsAtFirst.seen_prefix {α : Type} {holds : α → Bool} {items : List α}
    {search : Search α} (stops : StopsAtFirst holds items search) : search.seen <+: items := by
  cases stops with
  | missed => exact List.prefix_refl _
  | @hit before after item => exact ⟨after, by simp⟩

/-! ## Searching a map -/

namespace SpanMap

variable {M V : Type} [SpanMap M V]

/-- What a search of a map over spans comes to. -/
structure Searched (map : M) (spans : List Span) (wanted : Span × V → Bool)
    (search : Search (Span × V)) : Prop where
  found : search.found = true ↔ ∃ span ∈ spans, ∃ index ∈ span, ∃ entry,
    get? map index = some entry ∧ wanted entry = true
  asks : search.StopsAtFirst wanted
    (spans.flatMap fun span => (entries map).filter fun entry => entry.1.overlaps span)
  stored : ∀ entry ∈ search.seen, entry ∈ entries map
  inOrder : (spans.Pairwise fun earlier later => earlier.stop ≤ later.start) →
    search.seen.Pairwise fun earlier later => earlier.1.start ≤ later.1.start

variable {map : M}

/-- What a search along a sweep answers. -/
structure Answered (map : M) (swept : Swept) (wanted : Span × V → Bool)
    (answer : Except WordFailure (Search (Span × V))) : Prop where
  searched : ∀ search, answer = .ok search → Searched map swept.spans wanted search
  returns : swept.failure = none → ∃ search, answer = .ok search
  /-- It fails where the sweep fails before there was a hit. -/
  fails : ∀ failure, answer = .error failure ↔ swept.failure = some failure ∧
    ¬ ∃ span ∈ swept.spans, ∃ index ∈ span, ∃ entry,
      get? map index = some entry ∧ wanted entry = true

theorem Searched.answered {swept : Swept} {wanted : Span × V → Bool}
    {search : Search (Span × V)} (searched : Searched map swept.spans wanted search) :
    Answered map swept wanted (swept.settle search) := by
  have here (same : swept.settle search = .ok search) :
      ∀ found, swept.settle search = .ok found → Searched map swept.spans wanted found := by
    intro found returned
    exact Except.ok.inj (same.symm.trans returned) ▸ searched
  cases hit : search.found with
  | true =>
    have returned : swept.settle search = .ok search := if_pos hit
    refine ⟨here returned, fun _ => ⟨search, returned⟩, fun failure => ⟨?_, ?_⟩⟩
    · intro failed
      cases returned.symm.trans failed
    · intro failed
      exact absurd (searched.found.mp hit) failed.2
  | false =>
    have missed := mt searched.found.mpr (Bool.eq_false_iff.mp hit)
    cases failed : swept.failure with
    | none =>
      have returned : swept.settle search = .ok search := by
        simp [Swept.settle, failed]
      refine ⟨here returned, fun _ => ⟨search, returned⟩, fun failure => ⟨?_, ?_⟩⟩
      · intro otherwise
        cases returned.symm.trans otherwise
      · intro otherwise
        cases failed.symm.trans otherwise.1
    | some failure =>
      have fails : swept.settle search = .error failure := by
        simp [Swept.settle, hit, failed]
      rw [fails]
      refine ⟨?_, fun through => ?_, fun other => ⟨?_, ?_⟩⟩
      · intro found returned
        cases returned
      · cases failed.symm.trans through
      · intro same
        exact ⟨failed.trans (congrArg some (Except.error.inj same)), missed⟩
      · intro same
        exact congrArg Except.error (Option.some.inj (failed.symm.trans same.1))

variable [LawfulSpanMap M V] {tiles : List (Tile V)}

theorem Orderly.apart (orderly : Orderly map) {first second : Span × V}
    (isFirst : first ∈ entries map) (isSecond : second ∈ entries map) (differ : first ≠ second) :
    first.1.stop ≤ second.1.start ∨ second.1.stop ≤ first.1.start := by
  have ascending := List.pairwise_iff_getElem.mp orderly.ascending
  obtain ⟨early, earlyBound, rfl⟩ := List.mem_iff_getElem.mp isFirst
  obtain ⟨late, lateBound, rfl⟩ := List.mem_iff_getElem.mp isSecond
  rcases Nat.lt_trichotomy early late with before | rfl | after
  · exact .inl (ascending early late earlyBound lateBound before)
  · exact absurd rfl differ
  · exact .inr (ascending late early lateBound earlyBound after)

/-- An entry met at a span is not behind one met at a later span: it would have to begin past all of
the first span, and so could not meet it. -/
theorem met_ascending (holds : LawfulSpanMap.Holds map tiles) {spans : List Span}
    (ascending : spans.Pairwise fun earlier later => earlier.stop ≤ later.start) :
    (spans.flatMap fun span =>
      (entries map).filter fun entry => entry.1.overlaps span).Pairwise
        fun earlier later => earlier.1.start ≤ later.1.start := by
  have orderly := orderly_of_holds holds
  have starts : (entries map).Pairwise fun earlier later => earlier.1.start ≤ later.1.start := by
    refine orderly.ascending.imp_of_mem fun isEarly _ before => ?_
    exact Nat.le_trans (Nat.le_of_lt (orderly.inhabited _ isEarly)) before
  refine List.pairwise_flatMap.mpr ⟨fun span _ => starts.sublist List.filter_sublist,
    ascending.imp fun {first second} apart early isEarly late isLate => ?_⟩
  obtain ⟨earlyStored, earlyMeets⟩ := List.mem_filter.mp isEarly
  obtain ⟨lateStored, lateMeets⟩ := List.mem_filter.mp isLate
  rw [Span.overlaps_iff] at earlyMeets lateMeets
  have inhabited := orderly.inhabited early earlyStored
  by_cases same : early = late
  · rw [same]
  · cases orderly.apart earlyStored lateStored same with
    | inl before => omega
    | inr after => omega

theorem searched_through (holds : LawfulSpanMap.Holds map tiles) (spans : List Span)
    (wanted : Span × V → Bool) :
    Searched map spans wanted (.through wanted (spans.flatMap (entriesIn map))) := by
  have met : spans.flatMap (entriesIn map) = spans.flatMap fun span =>
      (entries map).filter fun entry => entry.1.overlaps span :=
    congrArg spans.flatMap (funext (entriesIn_eq_filter holds))
  have asks := Search.through_stopsAtFirst wanted (spans.flatMap (entriesIn map))
  have coherent := coherent_of_holds holds
  refine ⟨?_, met ▸ asks, ?_, ?_⟩
  · rw [Search.found_through, List.any_eq_true]
    constructor
    · intro hit
      obtain ⟨entry, member, isWanted⟩ := hit
      obtain ⟨span, isSpan, isMet⟩ := List.mem_flatMap.mp member
      obtain ⟨stored, index, inEntry, inSpan⟩ := (coherent.shared span entry).mp isMet
      exact ⟨span, isSpan, index, inSpan, entry, (coherent.get? index entry).mpr ⟨stored, inEntry⟩,
        isWanted⟩
    · intro hit
      obtain ⟨span, isSpan, index, inSpan, entry, found, isWanted⟩ := hit
      obtain ⟨stored, inEntry⟩ := (coherent.get? index entry).mp found
      exact ⟨entry, List.mem_flatMap.mpr ⟨span, isSpan,
        (coherent.shared span entry).mpr ⟨stored, index, inEntry, inSpan⟩⟩, isWanted⟩
  · intro entry seen
    obtain ⟨span, -, isMet⟩ := List.mem_flatMap.mp (asks.seen_prefix.subset seen)
    exact ((coherent.shared span entry).mp isMet).1
  · intro ascending
    exact (met_ascending holds ascending).sublist (met ▸ asks.seen_prefix.sublist)

theorem answered_search (holds : LawfulSpanMap.Holds map tiles) (sweep : Sweep)
    (wanted : Span × V → Bool) :
    Answered map sweep.run wanted (sweep.search fun span => search map span wanted) := by
  have through : (sweep.search fun span => search map span wanted) =
      sweep.run.settle (.through wanted (sweep.run.spans.flatMap (entriesIn map))) :=
    sweep.search_through wanted (entriesIn map)
  rw [through]
  exact (searched_through holds sweep.run.spans wanted).answered

/-- A sweep that cannot even be begun fails like one that fails at its first step. -/
theorem answered_begun (holds : LawfulSpanMap.Holds map tiles)
    (begun : Except WordFailure Sweep) (wanted : Span × V → Bool) :
    Answered map (.ofSweep begun) wanted
      (begun.bind fun sweep => sweep.search fun span => search map span wanted) := by
  cases begun with
  | error failure =>
    have nothing : Searched map [] wanted .nothing := searched_through holds [] wanted
    change Answered map ⟨[], some failure⟩ wanted (Swept.settle ⟨[], some failure⟩ .nothing)
    exact Searched.answered nothing
  | ok sweep =>
    rw [Swept.ofSweep, Except.bind]
    exact answered_search holds sweep wanted

end SpanMap

/-! ## Searching a registry -/

namespace Registry

/-- What requests and imports make of an empty registry, whether or not snapshots find room. -/
inductive Edited : Registry → Prop where
  | empty (image : Image) (threshold : Nat) (store : StoreId) :
      Edited (.empty image threshold store)
  | emptyLike {registry : Registry} (store : StoreId) :
      Edited registry → Edited (registry.emptyLike store)
  | edit {registry : Registry} {operation : Registry → Outcome} :
      IsEdit operation → Edited registry → Edited (operation registry).registry

/-- The map is in good order, and as large as the image. -/
structure Measured (registry : Registry) : Prop where
  holds : ∃ tiles, LawfulSpanMap.Holds registry.layouts tiles
  limit : SpanMap.limit registry.layouts = registry.addressing.count

variable {registry : Registry}

theorem Measured.of_shape (measured : registry.Measured) {after : Registry}
    (shape : registry.SameShape after) (holds : ∃ tiles, LawfulSpanMap.Holds after.layouts tiles)
    (limit : SpanMap.limit after.layouts = SpanMap.limit registry.layouts) : after.Measured :=
  ⟨holds, limit.trans (measured.limit.trans (congrArg Addressing.count shape.2.symm))⟩

theorem Measured.answers (measured : registry.Measured) {template : LayoutEntry}
    {outcome : Outcome} (answers : registry.Answers template outcome) :
    outcome.registry.Measured := by
  have shape := answers.shape
  obtain ⟨tiles, holds⟩ := measured.holds
  cases answers with
  | filled snapshot swept =>
    exact measured.of_shape shape (fill_holds template snapshot swept holds)
      (fill_limit template snapshot swept holds)
  | setAside => exact measured

theorem Measured.importFrom (measured : registry.Measured) (source : Registry) :
    (registry.importFrom source).registry.Measured := by
  have shape := registry.importFrom_shape source
  obtain ⟨tiles, holds⟩ := measured.holds
  by_cases compatible : registry.key = source.key
  · have becomes := importEntries_becomes holds source.snapshots (SpanMap.entries source.layouts)
    rw [importFrom_eq compatible] at shape ⊢
    exact measured.of_shape shape ⟨_, becomes.holds⟩ becomes.limit
  · rw [importFrom_of_ne compatible]
    exact measured

theorem Edited.measured (edited : registry.Edited) : registry.Measured := by
  induction edited with
  | empty image threshold store =>
    exact ⟨⟨_, AdaptiveMap.holds_empty _ _⟩, AdaptiveMap.limit_empty _ _⟩
  | emptyLike store _ ih =>
    exact ⟨⟨_, AdaptiveMap.holds_emptied _⟩, (AdaptiveMap.limit_emptied _).trans ih.limit⟩
  | edit isEdit _ ih =>
    cases isEdit with
    | look => exact ih
    | setLayout => exact ih.answers (fillSelector_answers _ _ _ _ _)
    | setInitial => exact ih.answers (fillSelector_answers _ _ _ _ _)
    | setInitialFromView => exact ih.answers (setInitialFromView_answers _ _ _ _)
    | importFrom source => exact ih.importFrom source

theorem Measured.searchSweep (measured : registry.Measured) (sweep : Sweep)
    (wanted : Span × LayoutEntry → Bool) :
    SpanMap.Answered registry.layouts sweep.run wanted (registry.searchSweep sweep wanted) := by
  obtain ⟨tiles, holds⟩ := measured.holds
  exact SpanMap.answered_search holds sweep wanted

theorem Measured.searchSelector (measured : registry.Measured) (selector : Selector)
    (wanted : Span × LayoutEntry → Bool) :
    SpanMap.Answered registry.layouts
      (.ofSelector registry.addressing (registry.addressing.normalize selector)) wanted
      (registry.searchSelector selector wanted) := by
  obtain ⟨tiles, holds⟩ := measured.holds
  exact SpanMap.answered_begun holds _ wanted

/-- Where the selector ends inside the image, its sweep covers what it names, one by one. -/
theorem Measured.exists_swept_iff (measured : registry.Measured) {selector : Selector}
    (fits : registry.addressing.Fits selector) (wanted : Span × LayoutEntry → Bool) :
    (∃ span ∈ (Swept.ofSelector registry.addressing selector).spans, ∃ index ∈ span, ∃ entry,
        SpanMap.get? registry.layouts index = some entry ∧ wanted entry = true) ↔
      ∃ subresource, subresource.aspect ∈ registry.addressing.aspects ∧
        selector.Names subresource ∧
          ∃ entry, registry.entryAt? subresource = some entry ∧ wanted entry = true := by
  obtain ⟨tiles, holds⟩ := measured.holds
  cases empty : selector.isEmpty with
  | true =>
    rw [Swept.ofSelector_of_not_admits (Addressing.not_admits_of_isEmpty empty)]
    constructor
    · intro swept
      obtain ⟨span, member, -⟩ := swept
      cases member
    · intro named
      obtain ⟨subresource, isAspect, names, -⟩ := named
      exact absurd names
        (Selector.not_names_of_isEmpty empty (Aspects.isSingle_of_mem_singles isAspect))
  | false =>
    have encloses := fits.encloses empty
    constructor
    · intro swept
      obtain ⟨span, isSpan, index, inside, entry, found, isWanted⟩ := swept
      have bound : index < registry.addressing.count := by
        rw [← measured.limit]
        apply Nat.lt_of_not_le
        intro past
        rw [((SpanMap.coherent_of_holds holds).beyond index past).1] at found
        cases found
      obtain ⟨subresource, -, has, rfl⟩ := Addressing.exists_decode? bound
      have named := (Swept.covers_iff registry.fits encloses has).mp ⟨span, isSpan, inside⟩
      refine ⟨subresource, has.aspect, named, entry, ?_, isWanted⟩
      rw [entryAt?, if_pos has.admitsSubresource, found]
    · intro named
      obtain ⟨subresource, isAspect, names, entry, known, isWanted⟩ := named
      have has := encloses.has_of_names isAspect names
      obtain ⟨span, isSpan, inside⟩ := (Swept.covers_iff registry.fits encloses has).mpr names
      rw [entryAt?, if_pos has.admitsSubresource] at known
      exact ⟨span, isSpan, _, inside, entry, known, isWanted⟩

/-- What searches of the registry come to. -/
structure SearchesExactly (registry : Registry) : Prop where
  /-- A search of a selector that ends inside the image returns, and finds something where, and only
  where, a subresource selected is known with a hit. -/
  selector : ∀ (selector : Selector) (wanted : Span × LayoutEntry → Bool),
    registry.addressing.Fits (registry.addressing.normalize selector) →
    ∃ search, registry.searchSelector selector wanted = .ok search ∧
      (search.found = true ↔
        ∃ subresource, subresource.aspect ∈ registry.addressing.aspects ∧
          (registry.addressing.normalize selector).Names subresource ∧
            ∃ entry, registry.entryAt? subresource = some entry ∧ wanted entry = true)
  /-- The selector may go past the end of the image. -/
  selectorAnswered : ∀ (selector : Selector) (wanted : Span × LayoutEntry → Bool),
    SpanMap.Answered registry.layouts
      (.ofSelector registry.addressing (registry.addressing.normalize selector)) wanted
      (registry.searchSelector selector wanted)
  selectorInOrder : ∀ (selector : Selector) (wanted : Span × LayoutEntry → Bool) search,
    registry.searchSelector selector wanted = .ok search →
    search.seen.Pairwise fun earlier later => earlier.1.start ≤ later.1.start
  /-- The sweep may be of another image, or of a selector that goes past the end of its own. -/
  sweep : ∀ (sweep : Sweep) (wanted : Span × LayoutEntry → Bool),
    SpanMap.Answered registry.layouts sweep.run wanted (registry.searchSweep sweep wanted)
  sweepInOrder : ∀ (sweep : Sweep) (wanted : Span × LayoutEntry → Bool) search, sweep.Made →
    registry.searchSweep sweep wanted = .ok search →
    search.seen.Pairwise fun earlier later => earlier.1.start ≤ later.1.start

theorem Edited.searches_exactly (edited : registry.Edited) : registry.SearchesExactly where
  selector selector wanted fits := by
    have answered := edited.measured.searchSelector selector wanted
    obtain ⟨search, returned⟩ := answered.returns (Swept.ofSelector_succeeds registry.fits fits)
    exact ⟨search, returned, (answered.searched search returned).found.trans
      (edited.measured.exists_swept_iff fits wanted)⟩
  selectorAnswered := edited.measured.searchSelector
  selectorInOrder selector wanted search returned :=
    ((edited.measured.searchSelector selector wanted).searched search returned).inOrder
      (Sweep.ascends_spans _ _)
  sweep := edited.measured.searchSweep
  sweepInOrder sweep wanted search made returned :=
    ((edited.measured.searchSweep sweep wanted).searched search returned).inOrder made.ascends.run

end Registry

/-! ## Searching a device-wide map -/

namespace Device

variable {device : Device} {image : Image}

theorem exists_layoutAt?_iff {wanted : ImageLayout → Bool} (index : Nat) :
    (∃ layout, device.layoutAt? image index = some layout ∧ wanted layout = true) ↔
      ∃ entry, SpanMap.get? (device.layoutMap image) index = some entry ∧
        wanted entry.2 = true := by
  simp only [layoutAt?, Option.map_eq_some_iff]
  constructor
  · intro known
    obtain ⟨_, ⟨entry, found, rfl⟩, isWanted⟩ := known
    exact ⟨entry, found, isWanted⟩
  · intro known
    obtain ⟨entry, found, isWanted⟩ := known
    exact ⟨entry.2, ⟨entry, found, rfl⟩, isWanted⟩

/-- What searches of the map of an image come to. -/
structure SearchesExactly (device : Device) (image : Image) : Prop where
  span : ∀ (query : Span) (wanted : Span × ImageLayout → Bool),
    SpanMap.Searched (device.layoutMap image) [query] wanted (device.searchSpan image query wanted)
  /-- The sweep may be of another image, or of a selector that goes past the end of its own. -/
  sweep : ∀ (sweep : Sweep) (wanted : Span × ImageLayout → Bool),
    SpanMap.Answered (device.layoutMap image) sweep.run wanted
      (device.searchSweep image sweep wanted)
  sweepInOrder : ∀ (sweep : Sweep) (wanted : Span × ImageLayout → Bool) search, sweep.Made →
    device.searchSweep image sweep wanted = .ok search →
    search.seen.Pairwise fun earlier later => earlier.1.start ≤ later.1.start
  spanLayouts : ∀ (query : Span) (wanted : ImageLayout → Bool),
    (device.searchSpan image query fun entry => wanted entry.2).found = true ↔
      ∃ index ∈ query, ∃ layout,
        device.layoutAt? image index = some layout ∧ wanted layout = true
  sweepLayouts : ∀ (sweep : Sweep) (wanted : ImageLayout → Bool) search,
    (device.searchSweep image sweep fun entry => wanted entry.2) = .ok search →
    (search.found = true ↔
      ∃ span ∈ sweep.run.spans, ∃ index ∈ span, ∃ layout,
        device.layoutAt? image index = some layout ∧ wanted layout = true)

theorem searchSpan_searched (reachable : device.Reachable) (query : Span)
    (wanted : Span × ImageLayout → Bool) :
    SpanMap.Searched (device.layoutMap image) [query] wanted
      (device.searchSpan image query wanted) := by
  obtain ⟨tiles, holds⟩ := (reachable.sound.isMap image).holds
  have searched := SpanMap.searched_through holds [query] wanted
  rwa [List.flatMap_singleton] at searched

theorem searchSweep_answered (reachable : device.Reachable) (sweep : Sweep)
    (wanted : Span × ImageLayout → Bool) :
    SpanMap.Answered (device.layoutMap image) sweep.run wanted
      (device.searchSweep image sweep wanted) := by
  obtain ⟨tiles, holds⟩ := (reachable.sound.isMap image).holds
  exact SpanMap.answered_search holds sweep wanted

theorem Reachable.searches_exactly (reachable : device.Reachable) (image : Image) :
    device.SearchesExactly image where
  span := searchSpan_searched reachable
  sweep := searchSweep_answered reachable
  sweepInOrder sweep wanted search made returned :=
    ((searchSweep_answered reachable sweep wanted).searched search returned).inOrder
      made.ascends.run
  spanLayouts query wanted := by
    have searched : SpanMap.Searched (device.layoutMap image) [query] (fun entry => wanted entry.2)
        (device.searchSpan image query fun entry => wanted entry.2) :=
      searchSpan_searched reachable query _
    simpa only [exists_layoutAt?_iff, List.mem_singleton, exists_eq_left] using searched.found
  sweepLayouts sweep wanted search returned := by
    have searched := (searchSweep_answered reachable sweep _).searched search returned
    simpa only [exists_layoutAt?_iff] using searched.found

end Device

/-! ## All searches -/

/-- Whatever became of a registry and of a device, and whatever is asked for: the searches decide
whether it is there, and look at the stored spans that meet those of the query, in ascending order.
Only a search along a sweep that fails before there was a hit fails as well. -/
theorem searches_decide_existence {registry : Registry} {device : Device}
    (edited : registry.Edited) (reachable : device.Reachable) (image : Image) :
    registry.SearchesExactly ∧ device.SearchesExactly image :=
  ⟨edited.searches_exactly, reachable.searches_exactly image⟩

/-- A registry that knows two stretches of an image of three levels, and a device on which one
subresource is set. -/
theorem searches_decide_existence_of_stretches :
    let made := Device.empty.createImage ⟨⟨3⟩, 3, 2, .undefined, none⟩ (by decide) 16
    let device := (made.2.setLayout made.1 (.single ⟨⟨2⟩, 1, 1⟩) .general).device
    let first := (Registry.empty made.1 0 ⟨1⟩).setLayout ⟨⟨1⟩, none⟩ ⟨⟨1⟩, 1, 1, 0, 2⟩ .general none
    let second := first.registry.setInitial ⟨⟨2⟩, none⟩ ⟨⟨2⟩, 0, remaining, 0, 1⟩ .presentSrc
    second.registry.Edited ∧ device.Reachable ∧
      second.registry.SearchesExactly ∧ device.SearchesExactly made.1 := by
  intro made device first second
  have edited : second.registry.Edited :=
    .edit (.setInitial _ _ _) (.edit (.setLayout _ _ _ _) (.empty made.1 0 ⟨1⟩))
  have reachable : device.Reachable :=
    .setLayout _ _ (.createImage _ _ _ .empty) List.mem_cons_self
  exact ⟨edited, reachable, searches_decide_existence edited reachable made.1⟩

/-- Three levels from the last one on: the run is cut where the image ends, so the image admits it.
The search goes over that level and one past it, and fails at the next, whose number does not fit its
word. No entry was wanted, so there was nothing to find. -/
theorem searchSweep_fails_past_last_level :
    let made := Device.empty.createImage ⟨.color, remaining, 2, .undefined, none⟩ (by decide) 16
    let selector : Selector := ⟨.color, 4294967294, 3, 0, 1⟩
    made.2.Reachable ∧ made.1.addressing.normalize selector = selector ∧
      ∃ sweep, Sweep.ofSelector made.1.addressing selector = .ok sweep ∧ sweep.Made ∧
        made.2.searchSweep made.1 sweep (fun _ => false) = .error .overflow := by
  intro made selector
  have reachable : made.2.Reachable := .createImage _ _ _ .empty
  obtain ⟨sweep, begun⟩ := Sweep.exists_ofSelector made.1.addressing_fits selector
  refine ⟨reachable, by decide, sweep, begun, .ofSelector begun, ?_⟩
  have failure : (Swept.ofSelector made.1.addressing selector).failure = some .overflow := by
    decide +kernel
  have run : Swept.ofSelector made.1.addressing selector = sweep.run :=
    congrArg Swept.ofSweep begun
  rw [run] at failure
  exact ((Device.searchSweep_answered reachable sweep _).fails _).mpr ⟨failure, by simp⟩

end LayoutTracking
