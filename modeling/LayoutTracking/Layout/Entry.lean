import LayoutTracking.Layout.Snapshot

/-!
# Layout entries

What a recording knows of some subresources: the layout they must be in when it starts, the layout
they are in after its last command so far, and the snapshot of who settled the former. Each may be
unspecified. The first and the last are settled once; the current layout follows the commands.
-/

set_option autoImplicit false

namespace LayoutTracking

structure LayoutEntry where
  initial : Option ImageLayout
  current : Option ImageLayout
  snapshot : Option SnapshotId
deriving DecidableEq, Repr, Inhabited

namespace LayoutEntry

def unspecified : LayoutEntry := ⟨none, none, none⟩

/-- Whether a layout, if it is specified, differs from the current one. -/
def movesTo (entry : LayoutEntry) (layout : Option ImageLayout) : Bool :=
  layout.isSome && entry.current != layout

/-- The entry after another one was merged into it: the current layout follows the other where
that specifies one, and what was unspecified otherwise is taken over. -/
def merge (entry other : LayoutEntry) : LayoutEntry where
  initial := entry.initial <|> other.initial
  current := other.current <|> entry.current
  snapshot := entry.snapshot <|> other.snapshot

end LayoutEntry

end LayoutTracking
