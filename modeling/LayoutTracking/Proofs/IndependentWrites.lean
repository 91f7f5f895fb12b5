import LayoutTracking.Proofs.AnyCursor

/-!
# Independent writes

Updates over two spans without a common index of the map may come in either order. Both may cut the
same stored span, or fill parts of the same gap: what one of them is offered does not depend on what
the other has left, and the pieces come out the same.
-/

set_option autoImplicit false

namespace LayoutTracking

/-! ## Two cuts of one tile -/

namespace Span

variable {span near far : Span}

theorem before_before (ordered : near.start ≤ far.start) :
    (span.before far).before near = span.before near := by
  simp only [before, mk.injEq, true_and]
  omega

theorem after_after (ordered : near.stop ≤ far.stop) :
    (span.after near).after far = span.after far := by
  simp only [after, mk.injEq, and_true]
  omega

theorem intersect_before (ordered : near.stop ≤ far.start) :
    (span.before far).intersect near = span.intersect near := by
  simp only [before, intersect, mk.injEq, true_and]
  omega

theorem intersect_after (ordered : near.stop ≤ far.start) :
    (span.after near).intersect far = span.intersect far := by
  simp only [after, intersect, mk.injEq]
  omega

theorem lt_of_overlaps (meets : span.overlaps far = true) : far.start < far.stop := by
  rw [overlaps_iff] at meets
  omega

end Span

namespace Tile

variable {V : Type} {tile part : Tile V} {near far : Span}

theorem eq_of_mem_trim {cut : Span → Span} (member : part ∈ (tile.trim cut).toList) :
    part = { tile with span := cut tile.span } := by
  unfold trim at member
  split at member
  · cases member
  · exact List.mem_singleton.mp member

theorem trim_of_same {cut other : Span → Span} {span : Span} (same : cut span = other tile.span) :
    Tile.trim cut { tile with span } = tile.trim other := by
  simp only [trim, same]

/-- What takes the place of a tile is out of reach where the tile was. -/
theorem missed_of_mem_replace (missed : tile.span.overlaps near = false) {answer : Option V}
    (member : part ∈ tile.replace far answer) : part.span.overlaps near = false := by
  rw [Bool.eq_false_iff, Ne, Span.overlaps_iff] at missed ⊢
  cases answer with
  | none =>
    obtain rfl := List.mem_singleton.mp member
    exact missed
  | some value =>
    rcases List.mem_append.mp member with early | later
    · obtain rfl := eq_of_mem_trim early
      simp only [Span.before]
      omega
    · rcases List.mem_cons.mp later with rfl | late
      · simp only [Span.intersect]
        omega
      · obtain rfl := eq_of_mem_trim late
        simp only [Span.after]
        omega

/-- The part between two cuts is the same whichever cut comes first. -/
theorem replace_replace (tile : Tile V) (starts : near.start ≤ far.start)
    (stops : near.stop ≤ far.stop) (ordered : near.stop ≤ far.start) (value other : V) :
    replace near { tile with span := tile.span.before far } (some value) ++
        ⟨tile.span.intersect far, some other⟩ :: (tile.trim (·.after far)).toList =
      (tile.trim (·.before near)).toList ++ ⟨tile.span.intersect near, some value⟩ ::
        replace far { tile with span := tile.span.after near } (some other) := by
  have early : Tile.trim (·.before near) { tile with span := tile.span.before far } =
      tile.trim (·.before near) := trim_of_same (Span.before_before starts)
  have late : Tile.trim (·.after far) { tile with span := tile.span.after near } =
      tile.trim (·.after far) := trim_of_same (Span.after_after stops)
  have between : Tile.trim (·.after near) { tile with span := tile.span.before far } =
      Tile.trim (·.before far) { tile with span := tile.span.after near } := rfl
  simp only [replace, early, late, between, Span.intersect_before ordered,
    Span.intersect_after ordered, List.append_assoc, List.cons_append]

end Tile

/-! ## Updates that commute on tiles -/

namespace Updater

variable {V σ τ : Type} {first : Updater V σ} {second : Updater V τ} {near far : Span}

/-- In either order the two updates turn the tiles into the same ones, and each does what it does
alone. -/
def Commute (first : Updater V σ) (near : Span) (second : Updater V τ) (far : Span)
    (tiles : List (Tile V)) : Prop :=
  ∀ state other, ∃ both,
    first.rewrite near (second.rewrite far tiles other).tiles state =
        { first.rewrite near tiles state with tiles := both } ∧
      second.rewrite far (first.rewrite near tiles state).tiles other =
        { second.rewrite far tiles other with tiles := both }

theorem Commute.symm {tiles : List (Tile V)} (commute : first.Commute near second far tiles) :
    second.Commute far first near tiles := by
  intro other state
  obtain ⟨both, early, late⟩ := commute state other
  exact ⟨both, late, early⟩

theorem Commute.append {front back : List (Tile V)} (inFront : first.Commute near second far front)
    (inBack : first.Commute near second far back) :
    first.Commute near second far (front ++ back) := by
  intro state other
  obtain ⟨frontBoth, frontFirst, frontSecond⟩ := inFront state other
  obtain ⟨backBoth, backFirst, backSecond⟩ :=
    inBack (first.rewrite near front state).state (second.rewrite far front other).state
  refine ⟨frontBoth ++ backBoth, ?_, ?_⟩
  · simp only [rewrite_append, frontFirst, backFirst]
  · simp only [rewrite_append, frontSecond, backSecond]

/-- All but one of the tiles are missed, and of that one the range reaches what it reaches of a
given tile: what is asked is what would be asked of the latter. -/
theorem rewrite_part (updater : Updater V σ) {range : Span} {tile : Tile V}
    (front : List (Tile V)) (part : Tile V) (back : List (Tile V))
    (meets : tile.span.overlaps range = true)
    (reached : part.span.intersect range = tile.span.intersect range)
    (content : part.content = tile.content)
    (frontMissed : ∀ other ∈ front, other.span.overlaps range = false)
    (backMissed : ∀ other ∈ back, other.span.overlaps range = false) (state : σ) :
    updater.rewrite range (front ++ part :: back) state =
      let (answer, next) := updater.answer state (tile.offer range)
      ⟨front ++ (part.replace range answer ++ back), next, answer.toList.length⟩ := by
  have partMeets : part.span.overlaps range = true := by
    rw [Span.overlaps, reached]
    exact meets
  have sameOffer : part.offer range = tile.offer range := by
    rw [Tile.offer, Tile.offer, reached, content]
  rw [rewrite_append, rewrite_missed updater range state frontMissed]
  simp only [rewrite, partMeets, sameOffer, ↓reduceIte, rewrite_missed updater range _ backMissed,
    Nat.zero_add, Nat.add_zero]

theorem rewrite_single (updater : Updater V σ) {range : Span} {tile : Tile V}
    (meets : tile.span.overlaps range = true) (state : σ) :
    updater.rewrite range [tile] state =
      let (answer, next) := updater.answer state (tile.offer range)
      ⟨tile.replace range answer, next, answer.toList.length⟩ := by
  have none := List.forall_mem_nil fun other : Tile V => other.span.overlaps range = false
  simpa using updater.rewrite_part [] tile [] meets rfl rfl none none state

theorem rewrite_eq_of_unwritten (updater : Updater V σ) {range : Span} {tiles later : List (Tile V)}
    {state next : σ} (done : updater.rewrite range tiles state = ⟨later, next, 0⟩) :
    updater.rewrite range tiles state = ⟨tiles, next, 0⟩ := by
  have same := updater.rewrite_unwritten range (congrArg Rewriting.writes done)
  rw [done] at same ⊢
  rw [← same]

theorem commute_of_missed {tile : Tile V} (missed : tile.span.overlaps near = false) :
    first.Commute near second far [tile] := by
  intro state other
  have whole : first.rewrite near [tile] state = ⟨[tile], state, 0⟩ :=
    first.rewrite_missed near state fun part member => List.mem_singleton.mp member ▸ missed
  refine ⟨(second.rewrite far [tile] other).tiles, ?_, ?_⟩
  · rw [whole]
    refine first.rewrite_missed near state fun part member => ?_
    by_cases meets : tile.span.overlaps far = true
    · rw [rewrite_single second meets] at member
      exact Tile.missed_of_mem_replace missed member
    · rw [rewrite, if_neg meets] at member
      exact List.mem_singleton.mp member ▸ missed
  · rw [whole]

theorem rewrite_after_replace (second : Updater V τ) (ordered : near.stop ≤ far.start)
    {tile : Tile V} (meetsNear : tile.span.overlaps near = true)
    (meetsFar : tile.span.overlaps far = true) (value : V) (other : τ) :
    second.rewrite far (tile.replace near (some value)) other =
      let (answer, next) := second.answer other (tile.offer far)
      ⟨(tile.trim (·.before near)).toList ++ ⟨tile.span.intersect near, some value⟩ ::
          Tile.replace far { tile with span := tile.span.after near } answer,
        next, answer.toList.length⟩ := by
  have nearReached := Span.overlaps_iff.mp meetsNear
  have farReached := Span.overlaps_iff.mp meetsFar
  have kept : tile.trim (·.after near) = some { tile with span := tile.span.after near } :=
    Tile.trim_of_lt (by simp only [Span.after]; omega)
  have missed : ∀ part ∈ (tile.trim (·.before near)).toList ++
      [⟨tile.span.intersect near, some value⟩], part.span.overlaps far = false := by
    intro part member
    rw [Bool.eq_false_iff, Ne, Span.overlaps_iff]
    rcases List.mem_append.mp member with early | here
    · obtain rfl := Tile.eq_of_mem_trim early
      simp only [Span.before]
      omega
    · obtain rfl := List.mem_singleton.mp here
      simp only [Span.intersect]
      omega
  have rewritten := second.rewrite_part _ { tile with span := tile.span.after near } [] meetsFar
    (Span.intersect_after ordered) rfl missed (List.forall_mem_nil _) other
  simpa [Tile.replace, kept] using rewritten

theorem rewrite_before_replace (first : Updater V σ) (ordered : near.stop ≤ far.start)
    {tile : Tile V} (meetsNear : tile.span.overlaps near = true)
    (meetsFar : tile.span.overlaps far = true) (value : V) (state : σ) :
    first.rewrite near (tile.replace far (some value)) state =
      let (answer, next) := first.answer state (tile.offer near)
      ⟨Tile.replace near { tile with span := tile.span.before far } answer ++
          ⟨tile.span.intersect far, some value⟩ :: (tile.trim (·.after far)).toList,
        next, answer.toList.length⟩ := by
  have nearReached := Span.overlaps_iff.mp meetsNear
  have farReached := Span.overlaps_iff.mp meetsFar
  have kept : tile.trim (·.before far) = some { tile with span := tile.span.before far } :=
    Tile.trim_of_lt (by simp only [Span.before]; omega)
  have missed : ∀ part ∈ ⟨tile.span.intersect far, some value⟩ :: (tile.trim (·.after far)).toList,
      part.span.overlaps near = false := by
    intro part member
    rw [Bool.eq_false_iff, Ne, Span.overlaps_iff]
    rcases List.mem_cons.mp member with rfl | late
    · simp only [Span.intersect]
      omega
    · obtain rfl := Tile.eq_of_mem_trim late
      simp only [Span.after]
      omega
  have rewritten := first.rewrite_part [] { tile with span := tile.span.before far } _ meetsNear
    (Span.intersect_before ordered) rfl (List.forall_mem_nil _) missed state
  simpa [Tile.replace, kept] using rewritten

theorem commute_of_ordered (ordered : near.stop ≤ far.start) {tile : Tile V}
    (meetsNear : tile.span.overlaps near = true) (meetsFar : tile.span.overlaps far = true) :
    first.Commute near second far [tile] := by
  intro state other
  have inhabited : near.start < near.stop := Span.lt_of_overlaps meetsNear
  have otherInhabited : far.start < far.stop := Span.lt_of_overlaps meetsFar
  have alone := first.rewrite_single meetsNear state
  have otherAlone := second.rewrite_single meetsFar other
  have afterSecond := fun value =>
    first.rewrite_before_replace ordered meetsNear meetsFar value state
  have afterFirst := fun value =>
    second.rewrite_after_replace ordered meetsNear meetsFar value other
  revert alone otherAlone afterSecond afterFirst
  generalize first.answer state (tile.offer near) = reply
  generalize second.answer other (tile.offer far) = otherReply
  obtain ⟨answer, next⟩ := reply
  obtain ⟨otherAnswer, otherNext⟩ := otherReply
  intro alone otherAlone afterSecond afterFirst
  rw [alone, otherAlone]
  cases answer with
  | none =>
    refine ⟨tile.replace far otherAnswer, ?_, otherAlone⟩
    cases otherAnswer with
    | none => exact alone
    | some value => exact first.rewrite_eq_of_unwritten (afterSecond value)
  | some value =>
    cases otherAnswer with
    | none =>
      exact ⟨tile.replace near (some value), alone,
        second.rewrite_eq_of_unwritten (afterFirst value)⟩
    | some otherValue =>
      have pieces := tile.replace_replace (Nat.le_trans (Nat.le_of_lt inhabited) ordered)
        (Nat.le_trans ordered (Nat.le_of_lt otherInhabited)) ordered value otherValue
      exact ⟨_, (afterSecond otherValue).trans (congrArg (Rewriting.mk · next 1) pieces),
        afterFirst value⟩

/-- The later of the two starts is in both spans unless one of them stops before the other. -/
theorem commute_single (apart : ∀ index ∈ near, index ∉ far) (tile : Tile V) :
    first.Commute near second far [tile] := by
  cases meetsNear : tile.span.overlaps near with
  | false => exact commute_of_missed meetsNear
  | true =>
    cases meetsFar : tile.span.overlaps far with
    | false => exact (commute_of_missed meetsFar).symm
    | true =>
      have inhabited := Span.lt_of_overlaps meetsNear
      have otherInhabited := Span.lt_of_overlaps meetsFar
      have notBoth := apart (max near.start far.start)
      simp only [Span.mem_iff] at notBoth
      rcases Nat.lt_or_ge far.start near.stop with crossed | ordered
      · exact (commute_of_ordered (by omega) meetsFar meetsNear).symm
      · exact commute_of_ordered ordered meetsNear meetsFar

theorem commute_of_apart (apart : ∀ index ∈ near, index ∉ far) (tiles : List (Tile V)) :
    first.Commute near second far tiles := by
  induction tiles with
  | nil => exact fun state other => ⟨[], rfl, rfl⟩
  | cons tile rest ih => exact (commute_single apart tile).append ih

end Updater

/-! ## Updates that commute on a map -/

namespace History

variable {V σ τ : Type}

/-- In either order the operations leave maps that no question tells apart, and each is answered as
it would be alone. -/
structure Commute {M : Type} [SpanMap M V] (history : History M) (first second : Operation V) :
    Prop where
  first_answer : ((history.perform second).2.perform first).1 = (history.perform first).1
  second_answer : ((history.perform first).2.perform second).1 = (history.perform second).1
  map : SpanMap.Indistinguishable ((history.perform first).2.perform second).2.map
    ((history.perform second).2.perform first).2.map

theorem onTiles_apply (limit : Nat) (tiles : List (Tile V)) (updater : Updater V σ) (state : σ)
    (span : Span) (cursor : Nat) :
    (Operation.apply updater state span cursor).onTiles limit tiles =
      let done := updater.recorded.rewrite (span.intersect ⟨0, limit⟩) tiles (state, [])
      ((decide (0 < done.writes), done.state), done.tiles, done.writes) := by
  simp only [Operation.onTiles, Updater.resume, Nat.zero_add]
  rfl

theorem Stands.commute {M : Type} [SpanMap M V] [LawfulSpanMap M V] {history : History M}
    {tiles : List (Tile V)} {limit revision : Nat} (stands : history.Stands tiles limit revision)
    {near far : Span} (apart : ∀ index < limit, index ∈ near → index ∉ far)
    (first : Updater V σ) (second : Updater V τ) (state : σ) (other : τ)
    (cursor otherCursor : Nat) :
    history.Commute (.apply first state near cursor) (.apply second other far otherCursor) := by
  have clipped : ∀ index ∈ near.intersect ⟨0, limit⟩, index ∉ far.intersect ⟨0, limit⟩ := by
    intro index inNear inFar
    rw [Span.mem_intersect] at inNear inFar
    exact apart index inNear.2.2 inNear.1 inFar.1
  have commute : first.recorded.Commute (near.intersect ⟨0, limit⟩) second.recorded
      (far.intersect ⟨0, limit⟩) tiles := Updater.commute_of_apart clipped tiles
  obtain ⟨both, firstLater, secondLater⟩ := commute (state, []) (other, [])
  obtain ⟨firstAnswer, firstStands⟩ :=
    stands.perform (.apply first state near cursor) trivial
  obtain ⟨secondAnswer, secondStands⟩ :=
    stands.perform (.apply second other far otherCursor) trivial
  obtain ⟨firstLaterAnswer, firstLaterStands⟩ :=
    secondStands.perform (.apply first state near cursor) trivial
  obtain ⟨secondLaterAnswer, secondLaterStands⟩ :=
    firstStands.perform (.apply second other far otherCursor) trivial
  simp only [onTiles_apply, firstLater] at firstAnswer firstLaterAnswer firstLaterStands
  simp only [onTiles_apply, secondLater] at secondAnswer secondLaterAnswer secondLaterStands
  refine ⟨firstLaterAnswer.trans firstAnswer.symm, secondLaterAnswer.trans secondAnswer.symm, ?_⟩
  rw [Nat.add_right_comm] at firstLaterStands
  exact secondLaterStands.indistinguishable firstLaterStands

/-- Over every reachable map, and whatever the cursors have seen of it, two updates over spans
without a common index of the map may come in either order. -/
theorem independent_updates_commute {map : AdaptiveMap V} (reachable : map.Reachable)
    (operations : List (Operation V))
    (within : ∀ operation ∈ operations, operation.Within (SpanMap.limit map)) {near far : Span}
    (apart : ∀ index < SpanMap.limit map, index ∈ near → index ∉ far) (first : Updater V σ)
    (second : Updater V τ) (state : σ) (other : τ) (cursor otherCursor : Nat) :
    ((start map).after operations).Commute (.apply first state near cursor)
      (.apply second other far otherCursor) := by
  obtain ⟨slots, holds⟩ := reachable.exists_holds
  have started := start_stands holds
  obtain ⟨tiles, revision, stands, -⟩ := exists_stands started started operations within
  exact stands.commute apart first second state other cursor otherCursor

/-- Both updates are inside one stored span and touch there, and the second goes on into the gap
behind it. It fills by where the gap begins, and they share a cursor. -/
theorem touching_updates_commute :
    let operations : List (Operation Nat) := [.overwrite ⟨1, 6⟩ 2, .seek 3 0]
    let map : AdaptiveMap Nat := .flat (.empty 8)
    let starts : Updater Nat Unit :=
      ⟨fun gap state => (some gap.start, state), fun existing state => (some (existing + 1), state)⟩
    map.Reachable ∧ (∀ operation ∈ operations, operation.Within (SpanMap.limit map)) ∧
      (∀ index < SpanMap.limit map, index ∈ Span.mk 2 4 → index ∉ Span.mk 4 20) ∧
      ((start map).after operations).Commute (.apply (Updater.prefer 5) () ⟨2, 4⟩ 0)
        (.apply starts () ⟨4, 20⟩ 0) := by
  intro operations map starts
  have reachable : map.Reachable := .new (.flat 8)
  have within : ∀ operation ∈ operations, operation.Within (SpanMap.limit map) := by
    simp [operations, map, Operation.Within, SpanMap.limit, FlatMap.limit, FlatMap.empty]
  have apart : ∀ index < SpanMap.limit map, index ∈ Span.mk 2 4 → index ∉ Span.mk 4 20 :=
    fun index _ inNear inFar => Nat.not_lt_of_le inFar.1 inNear.2
  exact ⟨reachable, within, apart, independent_updates_commute reachable operations within apart
    (Updater.prefer 5) starts () () 0 0⟩

end History

end LayoutTracking
