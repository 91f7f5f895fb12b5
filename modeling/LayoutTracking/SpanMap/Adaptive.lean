import LayoutTracking.SpanMap.Flat
import LayoutTracking.SpanMap.Sparse

/-!
# Adaptive maps

An adaptive map is flat for a small domain and sparse for a large one. Which of the two it is
was settled when it was made and shows in no answer of the map.
-/

set_option autoImplicit false

namespace LayoutTracking

inductive AdaptiveMap (V : Type) where
  | flat (map : FlatMap V)
  | sparse (map : SparseMap V)
deriving Inhabited

/-- Domains of at most this many indices are flat unless a threshold says otherwise. -/
def defaultThreshold : Nat := 16

namespace AdaptiveMap

variable {V : Type}

/-- The empty map of the indices below `limit`, flat if these are at most `threshold`. -/
def empty (limit threshold : Nat) : AdaptiveMap V :=
  if limit ≤ threshold then .flat (.empty limit) else .sparse (.empty limit)

/-- The empty map of the same kind and limit, as if never written. -/
def emptied : AdaptiveMap V → AdaptiveMap V
  | .flat map => .flat (.empty map.limit)
  | .sparse map => .sparse (.empty map.limit)

def isFlat : AdaptiveMap V → Bool
  | .flat _ => true
  | .sparse _ => false

instance : SpanMap (AdaptiveMap V) V where
  limit
    | .flat map => SpanMap.limit map
    | .sparse map => SpanMap.limit map
  size
    | .flat map => SpanMap.size map
    | .sparse map => SpanMap.size map
  revision
    | .flat map => SpanMap.revision map
    | .sparse map => SpanMap.revision map
  locate
    | .flat map => SpanMap.locate map
    | .sparse map => SpanMap.locate map
  get?
    | .flat map => SpanMap.get? map
    | .sparse map => SpanMap.get? map
  overwrite
    | .flat map, span, value => .flat (SpanMap.overwrite map span value)
    | .sparse map, span, value => .sparse (SpanMap.overwrite map span value)
  clear
    | .flat map => .flat (SpanMap.clear map)
    | .sparse map => .sparse (SpanMap.clear map)

end AdaptiveMap

end LayoutTracking
