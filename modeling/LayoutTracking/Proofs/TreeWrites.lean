import LayoutTracking.Proofs.Backends
import LayoutTracking.SpanMap.InPlace

/-!
# Writing into a sparse map

The loop of a write goes over keys that were collected before it: each entry met gives way to what
the span leaves of it. Entry by entry the tree comes to the list of the parts before the span, the
span, and the parts behind it.
-/

set_option autoImplicit false

namespace LayoutTracking

namespace SparseMap

variable {V : Type}

/-- Inhabited spans, each behind the one before it. -/
structure Ascends (stored : List (Span × V)) : Prop where
  inhabited : ∀ entry ∈ stored, entry.1.start < entry.1.stop
  ascending : stored.Pairwise fun earlier later => earlier.1.stop ≤ later.1.start

theorem Ascends.tail {entry : Span × V} {rest : List (Span × V)}
    (ascends : Ascends (entry :: rest)) : Ascends rest :=
  ⟨fun other member => ascends.inhabited other (.tail _ member), ascends.ascending.of_cons⟩

theorem Ascends.le {entry other : Span × V} {rest : List (Span × V)}
    (ascends : Ascends (entry :: rest)) (later : other ∈ rest) : entry.1.stop ≤ other.1.start :=
  List.rel_of_pairwise_cons ascends.ascending later

theorem Ascends.append_left {front back : List (Span × V)} (ascends : Ascends (front ++ back)) :
    Ascends front :=
  ⟨fun entry member => ascends.inhabited entry (List.mem_append_left back member),
    (List.pairwise_append.mp ascends.ascending).1⟩

theorem Ascends.append_right {front back : List (Span × V)} (ascends : Ascends (front ++ back)) :
    Ascends back :=
  ⟨fun entry member => ascends.inhabited entry (List.mem_append_right front member),
    (List.pairwise_append.mp ascends.ascending).2.1⟩

theorem part_of_lt {cut : Span → Span} {entry : Span × V}
    (inhabited : (cut entry.1).start < (cut entry.1).stop) :
    part cut entry = some (cut entry.1, entry.2) := by
  simp [part, Span.isEmpty_eq_false_iff.mpr inhabited]

theorem part_of_le {cut : Span → Span} {entry : Span × V}
    (vanishes : (cut entry.1).stop ≤ (cut entry.1).start) : part cut entry = none := by
  simp [part, Span.isEmpty_iff.mpr vanishes]

/-- Inhabited spans that meet the span written, and so have an index in common with it. -/
def Meets (span : Span) (entry : Span × V) : Prop :=
  entry.1.start < span.stop ∧ span.start < entry.1.stop

theorem part_before {span : Span} {entry : Span × V}
    (meets : Meets span entry) : part (·.before span) entry =
      if entry.1.start < span.start then some (⟨entry.1.start, span.start⟩, entry.2) else none := by
  have stops : min entry.1.stop span.start = span.start := Nat.min_eq_right (Nat.le_of_lt meets.2)
  by_cases head : entry.1.start < span.start
  · rw [if_pos head, part_of_lt (by simpa only [Span.before, stops] using head), Span.before, stops]
  · rw [if_neg head, part_of_le (by simp only [Span.before]; omega)]

theorem part_after {span : Span} {entry : Span × V}
    (meets : Meets span entry) : part (·.after span) entry =
      if span.stop < entry.1.stop then some (⟨span.stop, entry.1.stop⟩, entry.2) else none := by
  have starts : max entry.1.start span.stop = span.stop := Nat.max_eq_right (Nat.le_of_lt meets.1)
  by_cases tail : span.stop < entry.1.stop
  · rw [if_pos tail, part_of_lt (by simpa only [Span.after, starts] using tail), Span.after, starts]
  · rw [if_neg tail, part_of_le (by simp only [Span.after]; omega)]

theorem filterMap_part_self {cut : Span → Span} {stored : List (Span × V)}
    (inhabited : ∀ entry ∈ stored, entry.1.start < entry.1.stop)
    (same : ∀ entry ∈ stored, cut entry.1 = entry.1) : stored.filterMap (part cut) = stored := by
  have untouched : ∀ entry ∈ stored, part cut entry = some entry := by
    intro entry member
    rw [part_of_lt (by rw [same entry member]; exact inhabited entry member), same entry member]
  rw [List.filterMap_congr untouched, List.filterMap_some]

theorem filterMap_part_nil {cut : Span → Span} {stored : List (Span × V)}
    (vanish : ∀ entry ∈ stored, (cut entry.1).stop ≤ (cut entry.1).start) :
    stored.filterMap (part cut) = [] :=
  List.filterMap_eq_nil_iff.mpr fun entry member => part_of_le (vanish entry member)

theorem start_lt_of_mem_part_before {span : Span} {met : List (Span × V)}
    (meets : ∀ entry ∈ met, Meets span entry) :
    ∀ left ∈ met.filterMap (part (·.before span)), left.1.start < span.start := by
  intro left member
  obtain ⟨entry, isMet, cut⟩ := List.mem_filterMap.mp member
  rw [part_before (meets entry isMet)] at cut
  by_cases head : entry.1.start < span.start
  · rw [if_pos head] at cut
    cases cut
    exact head
  · simp [head] at cut

theorem le_start_of_mem_part_after {span : Span} {met : List (Span × V)}
    (meets : ∀ entry ∈ met, Meets span entry) :
    ∀ left ∈ met.filterMap (part (·.after span)), span.stop ≤ left.1.start := by
  intro left member
  obtain ⟨entry, isMet, cut⟩ := List.mem_filterMap.mp member
  rw [part_after (meets entry isMet)] at cut
  by_cases tail : span.stop < entry.1.stop
  · rw [if_pos tail] at cut
    cases cut
    exact Nat.le_refl _
  · simp [tail] at cut

namespace Tree

theorem insert_append {entry : Span × V} {front back : List (Span × V)}
    (early : ∀ other ∈ front, other.1.start < entry.1.start)
    (late : ∀ other ∈ back, entry.1.start < other.1.start) :
    insert entry (front ++ back) = front ++ entry :: back := by
  induction front with
  | nil =>
    cases back with
    | nil => rfl
    | cons head rest =>
      have behind := late head List.mem_cons_self
      simp [insert, Nat.lt_asymm behind, Nat.ne_of_gt behind]
  | cons head front ih =>
    have before := early head List.mem_cons_self
    simp only [List.cons_append, insert, before, ↓reduceIte]
    rw [ih fun other member => early other (.tail _ member)]

theorem remove_of_forall_ne {stored : List (Span × V)} {key : Nat}
    (others : ∀ entry ∈ stored, entry.1.start ≠ key) : remove stored key = stored :=
  List.filter_eq_self.mpr fun entry member => by simpa using others entry member

theorem lookup?_append {front back : List (Span × V)} {entry : Span × V}
    (early : ∀ other ∈ front, other.1.start ≠ entry.1.start) :
    lookup? (front ++ entry :: back) entry.1.start = some entry := by
  have missed : lookup? front entry.1.start = none :=
    List.find?_eq_none.mpr fun other member => by simpa using early other member
  rw [lookup?] at missed
  simp [lookup?, missed]

theorem remove_append {front back : List (Span × V)} {entry : Span × V}
    (early : ∀ other ∈ front, other.1.start ≠ entry.1.start)
    (late : ∀ other ∈ back, other.1.start ≠ entry.1.start) :
    remove (front ++ entry :: back) entry.1.start = front ++ back := by
  have frontKept := remove_of_forall_ne early
  have backKept := remove_of_forall_ne late
  simp only [remove] at frontKept backKept ⊢
  rw [List.filter_append, frontKept, List.filter_cons, if_neg (by simp), backKept]

/-- One step of the loop: the entry gives way to what the cut leaves of it. Only the last entry met
leaves anything behind the span. -/
theorem recut_append {span : Span} {front rest back : List (Span × V)} {entry : Span × V}
    (inhabited : entry.1.start < entry.1.stop) (meets : Meets span entry)
    (early : ∀ other ∈ front, other.1.start < entry.1.start)
    (late : ∀ other ∈ rest ++ back, entry.1.stop ≤ other.1.start)
    (last : span.stop < entry.1.stop → rest = []) :
    recut span (front ++ entry :: (rest ++ back)) entry.1.start =
      front ++ (part (·.before span) entry).toList ++
        (rest ++ ((part (·.after span) entry).toList ++ back)) := by
  have found : lookup? (front ++ entry :: (rest ++ back)) entry.1.start = some entry :=
    lookup?_append fun other member => Nat.ne_of_lt (early other member)
  have removed : remove (front ++ entry :: (rest ++ back)) entry.1.start =
      front ++ (rest ++ back) :=
    remove_append (fun other member => Nat.ne_of_lt (early other member))
      fun other member => Nat.ne_of_gt (Nat.lt_of_lt_of_le inhabited (late other member))
  have behind : (if span.stop < entry.1.stop then
        insert (⟨span.stop, entry.1.stop⟩, entry.2) (front ++ (rest ++ back))
      else front ++ (rest ++ back)) =
      front ++ (rest ++ ((part (·.after span) entry).toList ++ back)) := by
    rw [part_after meets]
    by_cases tail : span.stop < entry.1.stop
    · obtain rfl := last tail
      rw [if_pos tail, if_pos tail]
      exact insert_append (fun other member => Nat.lt_trans (early other member) meets.1)
        fun other member => Nat.lt_of_lt_of_le tail (late other member)
    · rw [if_neg tail, if_neg tail]
      rfl
  simp only [recut, found, removed, behind]
  rw [part_before meets]
  by_cases head : entry.1.start < span.start
  · rw [if_pos head, if_pos head, Option.toList_some, List.append_assoc, List.singleton_append]
    refine insert_append early fun other member => ?_
    have onward : other.1.start = span.stop ∨ other ∈ rest ++ back := by
      rw [part_after meets] at member
      by_cases tail : span.stop < entry.1.stop <;> simp [tail] at member ⊢ <;> grind
    cases onward with
    | inl cut => exact Nat.lt_of_lt_of_eq meets.1 cut.symm
    | inr kept => exact Nat.lt_of_lt_of_le inhabited (late other kept)
  · rw [if_neg head, if_neg head, Option.toList_none, List.append_nil]

theorem filterMap_cons_toList {α β : Type} (f : α → Option β) (head : α) (rest : List α) :
    (head :: rest).filterMap f = (f head).toList ++ rest.filterMap f := by
  cases kept : f head <;> simp [kept]

theorem foldl_recut {span : Span} {met back : List (Span × V)} (ascends : Ascends (met ++ back))
    (meets : ∀ entry ∈ met, Meets span entry) {front : List (Span × V)}
    (early : ∀ entry ∈ front, ∀ other ∈ met, entry.1.start < other.1.start) :
    (met.map (·.1.start)).foldl (recut span) (front ++ (met ++ back)) =
      front ++ met.filterMap (part (·.before span)) ++
        (met.filterMap (part (·.after span)) ++ back) := by
  induction met generalizing front with
  | nil => simp
  | cons entry rest ih =>
    have inhabited := ascends.inhabited entry List.mem_cons_self
    have meetsEntry := meets entry List.mem_cons_self
    have meetsRest : ∀ other ∈ rest, Meets span other := fun other member =>
      meets other (.tail _ member)
    have last : span.stop < entry.1.stop → rest = [] := by
      intro tail
      apply List.eq_nil_iff_forall_not_mem.mpr
      intro other member
      have behind := ascends.le (List.mem_append_left back member)
      have starts := (meetsRest other member).1
      omega
    have step := recut_append inhabited meetsEntry
      (fun other member => early other member entry List.mem_cons_self)
      (fun other member => ascends.le member) last
    rw [List.map_cons, List.foldl_cons, List.cons_append, step, filterMap_cons_toList,
      filterMap_cons_toList]
    by_cases tail : span.stop < entry.1.stop
    · obtain rfl := last tail
      simp only [List.map_nil, List.foldl_nil, List.filterMap_nil, List.nil_append, List.append_nil]
    · have nothing : part (·.after span) entry = none := by
        rw [part_after meetsEntry, if_neg tail]
      have onward : ∀ other ∈ front ++ (part (·.before span) entry).toList, ∀ next ∈ rest,
          other.1.start < next.1.start := by
        intro other member next later
        have behind := ascends.le (List.mem_append_left back later)
        cases List.mem_append.mp member with
        | inl kept =>
          have before := early other kept entry List.mem_cons_self
          omega
        | inr cut =>
          rw [part_before meetsEntry] at cut
          by_cases head : entry.1.start < span.start
          · rw [if_pos head, Option.toList_some, List.mem_singleton] at cut
            subst cut
            exact Nat.lt_of_lt_of_le inhabited behind
          · simp [head] at cut
      rw [nothing, Option.toList_none, List.nil_append, List.nil_append,
        ih ascends.tail meetsRest onward, List.append_assoc front]

end Tree

/-- The stored spans before the span written, those it meets, and those behind it. -/
structure Parted (span : Span) (front met back : List (Span × V)) : Prop where
  ascends : Ascends (front ++ (met ++ back))
  before : ∀ entry ∈ front, entry.1.stop ≤ span.start
  meets : ∀ entry ∈ met, Meets span entry
  after : ∀ entry ∈ back, span.stop ≤ entry.1.start

theorem Ascends.exists_parted {stored : List (Span × V)} (ascends : Ascends stored) (span : Span) :
    ∃ front met back, stored = front ++ (met ++ back) ∧ Parted span front met back := by
  induction stored with
  | nil => exact ⟨[], [], [], rfl, ascends, by simp, by simp, by simp⟩
  | cons entry rest ih =>
    have occupied := ascends.inhabited entry List.mem_cons_self
    by_cases behind : span.stop ≤ entry.1.start
    · refine ⟨[], [], entry :: rest, rfl, ascends, by simp, by simp,
        List.forall_mem_cons.mpr ⟨behind, fun other member => ?_⟩⟩
      have later := ascends.le member
      omega
    · obtain ⟨front, met, back, rfl, parted⟩ := ih ascends.tail
      by_cases reached : entry.1.stop ≤ span.start
      · exact ⟨entry :: front, met, back, rfl, ascends,
          List.forall_mem_cons.mpr ⟨reached, parted.before⟩, parted.meets, parted.after⟩
      · have nothing : front = [] := by
          apply List.eq_nil_iff_forall_not_mem.mpr
          intro other member
          have later := ascends.le (List.mem_append_left (met ++ back) member)
          have stops := parted.before other member
          have occupied := ascends.inhabited other (.tail _ (List.mem_append_left _ member))
          omega
        subst nothing
        exact ⟨[], entry :: met, back, rfl, ascends, by simp,
          List.forall_mem_cons.mpr ⟨⟨by omega, by omega⟩, parted.meets⟩, parted.after⟩

namespace Parted

variable {span : Span} {front met back : List (Span × V)}

theorem start_lt (parted : Parted span front met back) :
    ∀ entry ∈ front, entry.1.start < span.start := fun entry member =>
  Nat.lt_of_lt_of_le (parted.ascends.inhabited entry (List.mem_append_left _ member))
    (parted.before entry member)

theorem filterMap_before (parted : Parted span front met back)
    (inhabited : span.start < span.stop) :
    (front ++ (met ++ back)).filterMap (part (·.before span)) =
      front ++ met.filterMap (part (·.before span)) := by
  have frontKept : front.filterMap (part (·.before span)) = front := by
    apply filterMap_part_self parted.ascends.append_left.inhabited
    intro entry member
    rw [Span.before, Nat.min_eq_left (parted.before entry member)]
  have backGone : back.filterMap (part (·.before span)) = [] := by
    apply filterMap_part_nil
    intro entry member
    have behind := parted.after entry member
    simp only [Span.before]
    omega
  rw [List.filterMap_append, List.filterMap_append, frontKept, backGone, List.append_nil]

theorem filterMap_after (parted : Parted span front met back)
    (inhabited : span.start < span.stop) :
    (front ++ (met ++ back)).filterMap (part (·.after span)) =
      met.filterMap (part (·.after span)) ++ back := by
  have frontGone : front.filterMap (part (·.after span)) = [] := by
    apply filterMap_part_nil
    intro entry member
    have before := parted.before entry member
    simp only [Span.after]
    omega
  have backKept : back.filterMap (part (·.after span)) = back := by
    apply filterMap_part_self parted.ascends.append_right.append_right.inhabited
    intro entry member
    rw [Span.after, Nat.max_eq_left (parted.after entry member)]
  rw [List.filterMap_append, List.filterMap_append, frontGone, backKept, List.nil_append]

theorem filter_floor (parted : Parted span front met back) (inhabited : span.start < span.stop) :
    (front ++ (met ++ back)).filter (fun entry => entry.1.start ≤ span.start) =
      front ++ met.filter fun entry => entry.1.start ≤ span.start := by
  have frontKept : front.filter (fun entry => entry.1.start ≤ span.start) = front :=
    List.filter_eq_self.mpr fun entry member => by
      simpa using Nat.le_of_lt (parted.start_lt entry member)
  have backMissed : back.filter (fun entry => entry.1.start ≤ span.start) = [] :=
    List.filter_eq_nil_iff.mpr fun entry member => by
      simpa using Nat.lt_of_lt_of_le inhabited (parted.after entry member)
  rw [List.filter_append, List.filter_append, frontKept, backMissed, List.append_nil]

theorem filter_inside (parted : Parted span front met back) :
    (front ++ (met ++ back)).filter
        (fun entry => span.start ≤ entry.1.start ∧ entry.1.start < span.stop) =
      met.filter fun entry => span.start ≤ entry.1.start := by
  have frontMissed : front.filter (fun entry =>
      span.start ≤ entry.1.start ∧ entry.1.start < span.stop) = [] :=
    List.filter_eq_nil_iff.mpr fun entry member => by
      have starts := parted.start_lt entry member
      simp only [decide_eq_true_eq]
      omega
  have backMissed : back.filter (fun entry =>
      span.start ≤ entry.1.start ∧ entry.1.start < span.stop) = [] :=
    List.filter_eq_nil_iff.mpr fun entry member => by
      have starts := parted.after entry member
      simp only [decide_eq_true_eq]
      omega
  rw [List.filter_append, List.filter_append, frontMissed, backMissed, List.append_nil,
    List.nil_append]
  exact List.filter_congr fun entry member => by simp [(parted.meets entry member).1]

/-- At most the first entry met reaches over the start of the span. -/
theorem aligned_or_reaches (parted : Parted span front met back) :
    (∀ entry ∈ met, span.start ≤ entry.1.start) ∨
      ∃ entry rest, met = entry :: rest ∧ entry.1.start < span.start ∧
        ∀ other ∈ rest, span.start < other.1.start := by
  have ascends : Ascends met := parted.ascends.append_right.append_left
  cases met with
  | nil => exact .inl (List.forall_mem_nil _)
  | cons entry rest =>
    have later : ∀ other ∈ rest, span.start < other.1.start := fun other member =>
      Nat.lt_of_lt_of_le (parted.meets entry List.mem_cons_self).2 (ascends.le member)
    by_cases head : entry.1.start < span.start
    · exact .inr ⟨entry, rest, rfl, head, later⟩
    · exact .inl (List.forall_mem_cons.mpr
        ⟨Nat.le_of_not_lt head, fun other member => Nat.le_of_lt (later other member)⟩)

/-- The keys collected are those of the entries met: the floor is one of them if it reaches over
the start of the span, and all others begin inside it. -/
theorem metKeys_eq (parted : Parted span front met back) (inhabited : span.start < span.stop) :
    Tree.metKeys (front ++ (met ++ back)) span = met.map (·.1.start) := by
  rw [Tree.metKeys, Tree.floor?, parted.filter_floor inhabited, parted.filter_inside]
  apply congrArg (List.map _)
  cases parted.aligned_or_reaches with
  | inl aligned =>
    have noFloor : (front ++ met.filter fun entry => entry.1.start ≤ span.start).getLast?.filter
        (fun entry => entry.1.start < span.start ∧ span.start < entry.1.stop) = none := by
      refine Option.filter_eq_none_iff.mpr fun entry found => ?_
      simp only [decide_eq_true_eq]
      cases List.mem_append.mp (List.mem_of_getLast? found) with
      | inl member =>
        have stops := parted.before entry member
        omega
      | inr member =>
        have starts := aligned entry (List.mem_filter.mp member).1
        omega
    rw [noFloor, Option.toList_none, List.nil_append]
    exact List.filter_eq_self.mpr fun entry member => by simpa using aligned entry member
  | inr reaching =>
    obtain ⟨entry, rest, rfl, head, later⟩ := reaching
    have floor : (entry :: rest).filter (fun entry => entry.1.start ≤ span.start) = [entry] := by
      rw [List.filter_cons, if_pos (by simpa using Nat.le_of_lt head),
        List.filter_eq_nil_iff.mpr fun other member => by simpa using later other member]
    have inside : (entry :: rest).filter (fun entry => span.start ≤ entry.1.start) = rest := by
      rw [List.filter_cons, if_neg (by simpa using head)]
      exact List.filter_eq_self.mpr fun other member => by
        simpa using Nat.le_of_lt (later other member)
    have reaches := (parted.meets entry List.mem_cons_self).2
    simp [floor, inside, Option.filter_some, head, reaches]

theorem overwrite_eq (parted : Parted span front met back) (value : V)
    (inhabited : span.start < span.stop) :
    Tree.insert (span, value) ((Tree.metKeys (front ++ (met ++ back)) span).foldl (Tree.recut span)
        (front ++ (met ++ back))) =
      (front ++ (met ++ back)).filterMap (part (·.before span)) ++
        (span, value) :: (front ++ (met ++ back)).filterMap (part (·.after span)) := by
  have recut := Tree.foldl_recut parted.ascends.append_right parted.meets
    fun entry inFront other inMet =>
      Nat.lt_of_lt_of_le (parted.ascends.inhabited entry (List.mem_append_left _ inFront))
        ((List.pairwise_append.mp parted.ascends.ascending).2.2 entry inFront other
          (List.mem_append_left back inMet))
  rw [parted.metKeys_eq inhabited, recut, parted.filterMap_before inhabited,
    parted.filterMap_after inhabited]
  apply Tree.insert_append
  · exact List.forall_mem_append.mpr ⟨parted.start_lt, start_lt_of_mem_part_before parted.meets⟩
  · intro other member
    apply Nat.lt_of_lt_of_le inhabited
    exact List.forall_mem_append.mpr ⟨le_start_of_mem_part_after parted.meets, parted.after⟩ other
      member

end Parted

/-- Key by key the tree comes to the list that it should. -/
theorem overwriteKeys_eq {map : SparseMap V} (ascends : Ascends map.stored) (span : Span)
    (value : V) : map.overwriteKeys span value = map.overwrite span value := by
  cases nonempty : span.isEmpty with
  | true => simp [overwriteKeys, overwrite, nonempty]
  | false =>
    obtain ⟨front, met, back, split, parted⟩ := ascends.exists_parted span
    have written := parted.overwrite_eq value (Span.isEmpty_eq_false_iff.mp nonempty)
    simp [overwriteKeys, overwrite, nonempty, split, written]

end SparseMap

end LayoutTracking
