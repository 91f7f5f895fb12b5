/-!
# Spans

A span is a half-open interval of indices. Every interval of a span map, every run of a
selector and every query is one. Spans may be written with their stop before their start: such a
span is empty and keeps its two ends as given, which matters only for its text and its order.
-/

set_option autoImplicit false

namespace LayoutTracking

/-- The indices from `start` up to, and not including, `stop`. -/
structure Span where
  start : Nat
  stop : Nat
deriving DecidableEq, Repr, Inhabited

namespace Span

instance : Membership Nat Span := ⟨fun span index => span.start ≤ index ∧ index < span.stop⟩

theorem mem_iff {span : Span} {index : Nat} :
    index ∈ span ↔ span.start ≤ index ∧ index < span.stop :=
  Iff.rfl

instance (index : Nat) (span : Span) : Decidable (index ∈ span) :=
  inferInstanceAs (Decidable (span.start ≤ index ∧ index < span.stop))

def emptyAt (index : Nat) : Span := ⟨index, index⟩

def isEmpty (span : Span) : Bool := span.stop ≤ span.start

def length (span : Span) : Nat := span.stop - span.start

/-- The overlap of two spans. Spans without a common index overlap in an empty span at the later
of the two starts. -/
def intersect (left right : Span) : Span :=
  let start := max left.start right.start
  ⟨start, max (min left.stop right.stop) start⟩

def overlaps (left right : Span) : Bool := !(left.intersect right).isEmpty

/-- Whether every index of `inner` is an index of `outer`, read off the ends. An empty span is
covered by every span, wherever it sits. -/
def covers (outer inner : Span) : Bool :=
  inner.isEmpty || (outer.start ≤ inner.start && inner.stop ≤ outer.stop)

/-- What of `span` lies strictly before `other`; empty if nothing does. -/
def before (span other : Span) : Span := ⟨span.start, min span.stop other.start⟩

/-- What of `span` lies strictly after `other`; empty if nothing does. -/
def after (span other : Span) : Span := ⟨max span.start other.stop, span.stop⟩

def ends (span : Span) : Nat × Nat := (span.start, span.stop)

def ofEnds (ends : Nat × Nat) : Span := ⟨ends.1, ends.2⟩

/-- Spans are ordered by their start and, from the same start, by their stop. -/
def order (left right : Span) : Ordering :=
  (compare left.start right.start).then (compare left.stop right.stop)

/-- A span is written with a bracket at the end it includes and a parenthesis at the other. -/
def text (span : Span) : String :=
  "[" ++ toString span.start ++ ", " ++ toString span.stop ++ ")"

theorem isEmpty_iff {span : Span} : span.isEmpty = true ↔ span.stop ≤ span.start := by
  simp [isEmpty]

theorem isEmpty_eq_false_iff {span : Span} : span.isEmpty = false ↔ span.start < span.stop := by
  simp [isEmpty]

theorem mem_intersect {left right : Span} {index : Nat} :
    index ∈ left.intersect right ↔ index ∈ left ∧ index ∈ right := by
  simp only [mem_iff, intersect]
  omega

theorem mem_before {span other : Span} {index : Nat} :
    index ∈ span.before other ↔ index ∈ span ∧ index < other.start := by
  simp only [mem_iff, before]
  omega

theorem mem_after {span other : Span} {index : Nat} :
    index ∈ span.after other ↔ index ∈ span ∧ other.stop ≤ index := by
  simp only [mem_iff, after]
  omega

@[simp] theorem ofEnds_ends (span : Span) : ofEnds span.ends = span := rfl

end Span

end LayoutTracking
