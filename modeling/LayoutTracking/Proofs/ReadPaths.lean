import LayoutTracking.Proofs.AnyCursor

/-!
# Reading a map

A map is asked in four ways: how many spans it stores, what it stores at an index, which slot lies
around an index, and which stored spans a query meets. The last is an iterator that hops from slot
to slot. All four answers follow from the list of what is stored.
-/

set_option autoImplicit false

namespace LayoutTracking.SpanMap

variable {M V : Type} [SpanMap M V]

/-! ## The iterator -/

/-- One call of the iterator: what it yields from an index on, and the index it is left at. The loop
goes on wherever a gap stops, and nothing else moves it on. -/
inductive Next (map : M) (stop : Nat) : Nat → Option (Span × V) → Nat → Prop where
  | finished {index : Nat} : stop ≤ index → Next map stop index none stop
  | known {index : Nat} {span : Span} : index < stop → locate map index = .known span →
      Next map stop index (get? map span.start) span.stop
  | degenerate {index : Nat} {span : Span} : index < stop → locate map index = .gap span →
      span.stop ≤ index → Next map stop index none stop
  | skip {index later : Nat} {span : Span} {item : Option (Span × V)} :
      index < stop → locate map index = .gap span → index < span.stop →
      Next map stop span.stop item later → Next map stop index item later

/-- Calling the iterator until it yields nothing. -/
inductive Drains (map : M) (stop : Nat) : Nat → List (Span × V) → Prop where
  | last {index later : Nat} : Next map stop index none later → Drains map stop index []
  | more {index later : Nat} {entry : Span × V} {rest : List (Span × V)} :
      Next map stop index (some entry) later → Drains map stop later rest →
      Drains map stop index (entry :: rest)

section

variable {map : M} {stop index later otherLater : Nat}

theorem Next.unique {item other : Option (Span × V)} (first : Next map stop index item later)
    (second : Next map stop index other otherLater) : item = other ∧ later = otherLater := by
  induction first with
  | finished past =>
    cases second with
    | finished => exact ⟨rfl, rfl⟩
    | known before | degenerate before | skip before => omega
  | known before here =>
    cases second with
    | finished past => omega
    | known _ also =>
      cases here.symm.trans also
      exact ⟨rfl, rfl⟩
    | degenerate _ also | skip _ also => cases here.symm.trans also
  | degenerate before here reached =>
    cases second with
    | finished | degenerate => exact ⟨rfl, rfl⟩
    | known _ also => cases here.symm.trans also
    | skip _ also inside =>
      cases here.symm.trans also
      omega
  | skip before here inside _ ih =>
    cases second with
    | finished past => omega
    | known _ also => cases here.symm.trans also
    | degenerate _ also reached =>
      cases here.symm.trans also
      omega
    | skip _ also _ onward =>
      cases here.symm.trans also
      exact ih onward

theorem Drains.unique {yielded others : List (Span × V)} (first : Drains map stop index yielded)
    (second : Drains map stop index others) : yielded = others := by
  induction first generalizing others with
  | last ends =>
    cases second with
    | last => rfl
    | more goesOn => cases (ends.unique goesOn).1
  | more goesOn _ ih =>
    cases second with
    | last ends => cases (goesOn.unique ends).1
    | more also rest =>
      obtain ⟨same, reached⟩ := goesOn.unique also
      cases same
      cases reached
      rw [ih rest]

theorem Drains.skip {span : Span} {yielded : List (Span × V)} (before : index < stop)
    (here : locate map index = .gap span) (inside : index < span.stop)
    (onward : Drains map stop span.stop yielded) : Drains map stop index yielded := by
  cases onward with
  | last ends => exact .last (.skip before here inside ends)
  | more goesOn rest => exact .more (.skip before here inside goesOn) rest

end

variable [LawfulSpanMap M V] {map : M} {tiles : List (Tile V)}

theorem exists_tile (holds : LawfulSpanMap.Holds map tiles) {index : Nat}
    (bound : index < limit map) : ∃ tile ∈ tiles, index ∈ tile.span := by
  have tiling := LawfulSpanMap.tiling holds
  obtain ⟨tile, found⟩ := tiling.exists_at? (Nat.zero_le index) bound
  exact ⟨tile, tiling.at?_eq_some.mp found⟩

/-- The walk takes care to move on with every hop. In a map in good order the plain loop does so
too. -/
theorem drains_entriesFrom (holds : LawfulSpanMap.Holds map tiles) {stop : Nat}
    (bound : stop ≤ limit map) (index : Nat) :
    Drains map stop index (entriesFrom map stop index) := by
  fun_induction entriesFrom map stop index with
  | case1 index before span here entry found ih =>
    obtain ⟨tile, member, inside⟩ := exists_tile holds (Nat.lt_of_lt_of_le before bound)
    have extent : tile.span = span := by
      rw [← tile.extent_slot, ← locate_of_mem holds member inside, here]
      rfl
    rw [advance_eq (extent ▸ inside).2] at ih ⊢
    have next := Next.known before here
    rw [found] at next
    exact .more next ih
  | case2 index before span here missing =>
    obtain ⟨tile, member, inside⟩ := exists_tile holds (Nat.lt_of_lt_of_le before bound)
    have bounds := (LawfulSpanMap.tiling holds).bounds member
    rw [locate_of_mem holds member inside, Tile.slot] at here
    split at here
    · cases here
      have found := get?_of_mem holds member ⟨Nat.le_refl tile.span.start, bounds.2.1⟩
      simp_all [Tile.stored?]
    · cases here
  | case3 index before span here reached =>
    exact .last (.degenerate before here reached)
  | case4 index before span here inside ih =>
    rw [advance_eq (Nat.lt_of_not_le inside)] at ih ⊢
    exact ih.skip before here (Nat.lt_of_not_le inside)
  | case5 index past => exact .last (.finished (Nat.le_of_not_lt past))

/-! ## Slots -/

theorem get?_eq_some_iff (holds : LawfulSpanMap.Holds map tiles) (index : Nat)
    (entry : Span × V) : get? map index = some entry ↔ entry ∈ entries map ∧ index ∈ entry.1 := by
  rw [LawfulSpanMap.get?_eq index holds, entries_eq holds, Tile.entryAt?]
  constructor
  · intro found
    obtain ⟨tile, here, stored⟩ := Option.bind_eq_some_iff.mp found
    obtain ⟨member, inside⟩ := (LawfulSpanMap.tiling holds).at?_eq_some.mp here
    obtain rfl := Tile.stored?_eq_some.mp stored
    exact ⟨List.mem_filterMap.mpr ⟨_, member, rfl⟩, inside⟩
  · intro found
    obtain ⟨member, inside⟩ := found
    obtain ⟨tile, within, stored⟩ := List.mem_filterMap.mp member
    obtain rfl := Tile.stored?_eq_some.mp stored
    rw [(LawfulSpanMap.tiling holds).at?_of_mem within inside]
    rfl

/-- The gap is the widest run of indices around the index at which nothing is stored. It reaches to
the stored spans on either side, or to the ends of the domain. -/
structure GapAround (map : M) (index : Nat) (gap : Span) : Prop where
  around : index ∈ gap
  unknown : ∀ other ∈ gap, get? map other = none
  starts : gap.start = 0 ∨ ∃ entry ∈ entries map, entry.1.stop = gap.start
  stops : gap.stop = limit map ∨ ∃ entry ∈ entries map, entry.1.start = gap.stop
  widest : ∀ run : Span, index ∈ run → run.stop ≤ limit map →
    (∀ other ∈ run, get? map other = none) → gap.start ≤ run.start ∧ run.stop ≤ gap.stop

/-- On either side of a gap something is stored, or the domain ends. -/
theorem bounds_of_gap (holds : LawfulSpanMap.Holds map tiles) {tile : Tile V}
    (member : tile ∈ tiles) (isGap : tile.content = none) :
    (tile.span.start = 0 ∨ ∃ entry ∈ entries map, entry.1.stop = tile.span.start) ∧
      (tile.span.stop = limit map ∨ ∃ entry ∈ entries map, entry.1.start = tile.span.stop) := by
  obtain ⟨front, back, split⟩ := List.append_of_mem member
  have tiling := LawfulSpanMap.tiling holds
  rw [split] at tiling
  have stored (entry : Span × V) : entry ∈ entries map ↔
      entry ∈ front.filterMap Tile.stored? ∨ entry ∈ back.filterMap Tile.stored? := by
    rw [entries_eq holds, split]
    simp [Tile.stored?, isGap]
  constructor
  · have last := tiling.last_stop isGap
    cases found : (front.filterMap Tile.stored?).getLast? with
    | none =>
      rw [found] at last
      exact .inl last.symm
    | some entry =>
      rw [found] at last
      exact .inr ⟨entry, (stored entry).mpr (.inl (List.mem_of_getLast? found)), last⟩
  · have first := tiling.from_tile.first_start isGap
    cases found : (back.filterMap Tile.stored?).head? with
    | none =>
      rw [found] at first
      exact .inl first.symm
    | some entry =>
      rw [found] at first
      exact .inr ⟨entry, (stored entry).mpr (.inr (List.mem_of_head? found)), first⟩

theorem gapAround_of_mem (holds : LawfulSpanMap.Holds map tiles) {tile : Tile V}
    (member : tile ∈ tiles) (isGap : tile.content = none) {index : Nat}
    (inside : index ∈ tile.span) : GapAround map index tile.span := by
  have orderly := orderly_of_holds holds
  obtain ⟨starts, stops⟩ := bounds_of_gap holds member isGap
  refine ⟨inside, ?_, starts, stops, ?_⟩
  · intro other within
    rw [get?_of_mem holds member within, Tile.stored?, isGap]
    rfl
  · intro run here inDomain unknown
    have apart (entry : Span × V) (isStored : entry ∈ entries map) (other : Nat)
        (within : other ∈ entry.1) : other ∉ run := by
      intro inRun
      have found := (get?_eq_some_iff holds other entry).mpr ⟨isStored, within⟩
      rw [unknown other inRun] at found
      cases found
    simp only [Span.mem_iff] at here inside apart
    constructor
    · cases starts with
      | inl first => omega
      | inr preceded =>
        obtain ⟨entry, isStored, meets⟩ := preceded
        have inhabited := orderly.inhabited entry isStored
        have := apart entry isStored (tile.span.start - 1) (by omega)
        omega
    · cases stops with
      | inl last => omega
      | inr followed =>
        obtain ⟨entry, isStored, meets⟩ := followed
        have inhabited := orderly.inhabited entry isStored
        have := apart entry isStored tile.span.stop (by omega)
        omega

/-! ## One story -/

/-- Every answer of the map follows from the list of what it stores. -/
structure Coherent (map : M) : Prop where
  size : size map = (entries map).length
  inhabited : ∀ entry ∈ entries map, entry.1.start < entry.1.stop
  get? : ∀ index entry, get? map index = some entry ↔ entry ∈ entries map ∧ index ∈ entry.1
  known : ∀ index, ∀ entry ∈ SpanMap.get? map index, locate map index = .known entry.1
  gap : ∀ index < limit map, SpanMap.get? map index = none →
    ∃ gap, locate map index = .gap gap ∧ GapAround map index gap
  beyond : ∀ index, limit map ≤ index →
    SpanMap.get? map index = none ∧ locate map index = .gap (.emptyAt index)
  /-- The iterator over a query comes to an end, and there is only one list that it yields. -/
  drains : ∀ (query : Span) (yielded : List (Span × V)),
    Drains map (min query.stop (limit map)) query.start yielded ↔ yielded = entriesIn map query
  shared : ∀ query entry, entry ∈ entriesIn map query ↔
    entry ∈ entries map ∧ ∃ index ∈ entry.1, index ∈ query
  sublist : ∀ query, (entriesIn map query).Sublist (entries map)
  ascending : ∀ query, (entriesIn map query).Pairwise fun earlier later =>
    earlier.1.stop ≤ later.1.start

theorem entriesIn_eq_filter (holds : LawfulSpanMap.Holds map tiles) (query : Span) :
    entriesIn map query = (entries map).filter fun entry => entry.1.overlaps query := by
  rw [entriesIn_eq holds, entries_eq holds, List.filter_filterMap, List.filterMap_filter]
  refine List.filterMap_congr fun tile _ => ?_
  obtain ⟨span, content⟩ := tile
  by_cases meets : span.overlaps query = true <;> cases content <;>
    simp [Tile.stored?, meets, Option.filter_some]

theorem coherent_of_holds (holds : LawfulSpanMap.Holds map tiles) : Coherent map where
  size := by rw [LawfulSpanMap.size_eq holds, entries_eq holds]
  inhabited := (orderly_of_holds holds).inhabited
  get? := get?_eq_some_iff holds
  known index entry found := by
    rw [LawfulSpanMap.locate_eq index holds, Tile.slotAt]
    rw [LawfulSpanMap.get?_eq index holds] at found
    obtain ⟨tile, here, stored⟩ := Option.bind_eq_some_iff.mp found
    obtain rfl := Tile.stored?_eq_some.mp stored
    rw [here]
    rfl
  gap index bound missing := by
    obtain ⟨tile, member, inside⟩ := exists_tile holds bound
    have isGap : tile.content = none := by
      rw [get?_of_mem holds member inside] at missing
      exact Option.map_eq_none_iff.mp missing
    refine ⟨tile.span, ?_, gapAround_of_mem holds member isGap inside⟩
    rw [locate_of_mem holds member inside, Tile.slot, isGap]
  beyond index past := by
    have outside : Tile.at? tiles index = none :=
      (LawfulSpanMap.tiling holds).at?_eq_none (.inr past)
    rw [LawfulSpanMap.get?_eq index holds, LawfulSpanMap.locate_eq index holds, Tile.entryAt?,
      Tile.slotAt, outside]
    exact ⟨rfl, rfl⟩
  drains query yielded := by
    have drains := drains_entriesFrom holds (Nat.min_le_right query.stop (limit map)) query.start
    constructor
    · intro others
      exact others.unique drains
    · intro same
      rw [same]
      exact drains
  shared query entry := by
    rw [entriesIn_eq_filter holds, List.mem_filter]
    refine and_congr_right fun _ => ⟨Span.exists_mem_of_overlaps, ?_⟩
    intro both
    obtain ⟨index, inEntry, inQuery⟩ := both
    exact Span.overlaps_of_mem inEntry inQuery
  sublist query := by
    rw [entriesIn_eq_filter holds]
    exact List.filter_sublist
  ascending query := by
    rw [entriesIn_eq_filter holds]
    exact (entries_ascending holds).sublist List.filter_sublist

end LayoutTracking.SpanMap

namespace LayoutTracking.AdaptiveMap

variable {V : Type} {map : AdaptiveMap V}

/-- All ways to read a reachable map of either kind agree. -/
theorem Reachable.coherent (reachable : map.Reachable) : SpanMap.Coherent map := by
  obtain ⟨tiles, holds⟩ := reachable.exists_holds
  exact SpanMap.coherent_of_holds holds

theorem Reachable.coherent_punched :
    let filled : AdaptiveMap Nat :=
      ((History.start (.flat (.empty 8))).perform (.overwrite ⟨1, 7⟩ 1)).2.map
    let punched : AdaptiveMap Nat :=
      ((History.start filled).perform (.overwrite ⟨3, 4⟩ 2)).2.map
    punched.Reachable ∧ SpanMap.Coherent punched := by
  intro filled punched
  have reachable : filled.Reachable :=
    .operate (.overwrite ⟨1, 7⟩ 1) (.new (.flat 8)) (show 7 ≤ 8 by decide)
  have again : punched.Reachable := .operate (.overwrite ⟨3, 4⟩ 2) reachable (show 4 ≤ 8 by decide)
  exact ⟨again, again.coherent⟩

end LayoutTracking.AdaptiveMap
