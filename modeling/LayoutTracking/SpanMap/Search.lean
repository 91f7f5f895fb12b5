import LayoutTracking.SpanMap.Basic

/-!
# Searches

Looking through stored spans, one after the other, for one that satisfies a predicate. A search
also says what it looked at: the predicate is asked no further once it holds.
-/

set_option autoImplicit false

namespace LayoutTracking

/-- The outcome of a search: whether there was a hit, and everything looked at up to it. -/
structure Search (α : Type) where
  found : Bool
  seen : List α
deriving Inhabited

namespace Search

def through {α : Type} (holds : α → Bool) : List α → Search α
  | [] => ⟨false, []⟩
  | item :: rest =>
    if holds item then ⟨true, [item]⟩
    else
      let later := through holds rest
      ⟨later.found, item :: later.seen⟩

def nothing {α : Type} : Search α := ⟨false, []⟩

def orElse {α : Type} (first : Search α) (later : Unit → Search α) : Search α :=
  if first.found then first
  else
    let later := later ()
    ⟨later.found, first.seen ++ later.seen⟩

theorem found_through {α : Type} (holds : α → Bool) (items : List α) :
    (through holds items).found = items.any holds := by
  induction items with
  | nil => rfl
  | cons item rest ih => by_cases hit : holds item = true <;> simp [through, hit, ih]

/-- Looking through two lists is looking through the first, and then through the second. -/
theorem through_append {α : Type} (holds : α → Bool) (front back : List α) :
    through holds (front ++ back) = (through holds front).orElse fun _ => through holds back := by
  induction front with
  | nil => simp [through, orElse]
  | cons item rest ih =>
    by_cases hit : holds item = true
    · simp [through, orElse, hit]
    · by_cases later : (through holds rest).found = true <;>
        simp [through, orElse, hit, later, ih]

end Search

def SpanMap.search {M V : Type} [SpanMap M V] (map : M) (query : Span)
    (holds : Span × V → Bool) : Search (Span × V) :=
  .through holds (SpanMap.entriesIn map query)

end LayoutTracking
