import LayoutTracking.SpanMap.Search
import LayoutTracking.Subresource.SweepRun

/-!
# Searches along a sweep

Looking through what is stored at one span of a sweep after the other. The sweep is stepped no
further once there is a hit. What is stored at two of its spans is looked at twice.
-/

set_option autoImplicit false

namespace LayoutTracking

/-- What comes of a search that goes on to the end of the sweep unless there is a hit. -/
def Swept.settle {α : Type} (swept : Swept) (search : Search α) : Except WordFailure (Search α) :=
  if search.found then .ok search
  else
    match swept.failure with
    | some failure => .error failure
    | none => .ok search

namespace Sweep

/-- Runs a search at each span of the sweep, up to the first hit. -/
def search {α : Type} (sweep : Sweep) (look : Span → Search α) : Except WordFailure (Search α) :=
  match _stepped : sweep.next with
  | .error failure => .error failure
  | .ok (none, _) => .ok .nothing
  | .ok (some span, rest) =>
    let here := look span
    if here.found then .ok here
    else (rest.search look).map fun later => here.orElse fun _ => later
termination_by sweep.potential
decreasing_by exact potential_lt_of_next _stepped

variable {α : Type} {sweep rest : Sweep} {look : Span → Search α}

theorem search_of_error {failure : WordFailure} (failed : sweep.next = .error failure) :
    sweep.search look = .error failure := by
  rw [search]
  split
  · next other again =>
    obtain rfl := Except.error.inj (failed.symm.trans again)
    rfl
  · next again => cases failed.symm.trans again
  · next again => cases failed.symm.trans again

theorem search_of_none (finished : sweep.next = .ok (none, rest)) :
    sweep.search look = .ok .nothing := by
  rw [search]
  split
  · next again => cases finished.symm.trans again
  · rfl
  · next again => cases finished.symm.trans again

theorem search_of_some {span : Span} (stepped : sweep.next = .ok (some span, rest)) :
    sweep.search look =
      if (look span).found then .ok (look span)
      else (rest.search look).map fun later => (look span).orElse fun _ => later := by
  rw [search]
  split
  · next again => cases stepped.symm.trans again
  · next again => cases stepped.symm.trans again
  · next again =>
    cases stepped.symm.trans again
    rfl

/-- A sweep that produces a span first is looked through there before it goes on. -/
theorem settle_orElse (span : Span) (later : Swept) (first onward : Search α) :
    (if first.found then .ok first
      else (later.settle onward).map fun found => first.orElse fun _ => found) =
      (Swept.cons span later).settle (first.orElse fun _ => onward) := by
  obtain ⟨spans, failure⟩ := later
  by_cases here : first.found = true
  · simp [Swept.settle, Search.orElse, here]
  · by_cases there : onward.found = true
    · simp [Swept.settle, Search.orElse, Except.map, here, there]
    · cases failure <;> simp [Swept.settle, Swept.cons, Search.orElse, Except.map, here, there]

/-- Searching along a sweep is looking through all that is found at its spans. -/
theorem search_through (sweep : Sweep) (holds : α → Bool) (items : Span → List α) :
    sweep.search (fun span => .through holds (items span)) =
      sweep.run.settle (.through holds (sweep.run.spans.flatMap items)) := by
  induction sweep using run.induct with
  | case1 sweep failure failed =>
    rw [search_of_error failed, run_of_error failed]
    rfl
  | case2 sweep rest finished =>
    rw [search_of_none finished, run_of_none finished]
    rfl
  | case3 sweep span rest stepped ih =>
    rw [search_of_some stepped, run_of_some stepped, ih, settle_orElse span, Swept.cons,
      List.flatMap_cons, Search.through_append]

end Sweep

end LayoutTracking
