import LayoutTracking.SpanMap.Update

/-!
# Rules

Stock updaters for maps of 64-bit integers, named by what they do. Sums wrap around.
-/

set_option autoImplicit false

namespace LayoutTracking

inductive RuleKind where
  /-- Store the value everywhere. -/
  | prefer
  /-- Replace what differs from the value, and fill no gap. -/
  | updateOnly
  /-- Fill gaps with the value, and replace nothing. -/
  | insertOnly
  /-- Fill gaps with the value, and add it to what is stored. -/
  | add
  /-- Write what is stored once more, and fill no gap. -/
  | restate
  /-- Leave everything alone. -/
  | refuse
  /-- Fill the gaps that are long enough, and replace one chosen value. -/
  | filter
deriving DecidableEq, Repr, Inhabited

structure Rule where
  kind : RuleKind
  value : Int64
  /-- The value that `filter` replaces. -/
  only : Option Int64
  /-- The shortest gap that `filter` fills. -/
  minGap : Nat
deriving DecidableEq, Inhabited

namespace Rule

def fill (rule : Rule) (gap : Span) : Option Int64 :=
  match rule.kind with
  | .prefer | .insertOnly | .add => some rule.value
  | .updateOnly | .restate | .refuse => none
  | .filter => if rule.minGap ≤ gap.length then some rule.value else none

def replace (rule : Rule) (existing : Int64) : Option Int64 :=
  match rule.kind with
  | .prefer | .updateOnly => if existing = rule.value then none else some rule.value
  | .add => some (existing + rule.value)
  | .restate => some existing
  | .insertOnly | .refuse => none
  | .filter => if rule.only = some existing then some rule.value else none

def updater (rule : Rule) : Updater Int64 Unit where
  insert gap state := (rule.fill gap, state)
  update existing state := (rule.replace existing, state)

end Rule

end LayoutTracking
