import LayoutTracking.Text.Digits

/-!
# Aspects

An image has aspects: colour, depth, stencil, metadata, or the planes of a multi-planar format.
A set of them is a 32-bit mask. Bits without a name are kept, since the meaning of a mask is not
ours to judge.
-/

set_option autoImplicit false

namespace LayoutTracking

/-- A set of image aspects, one bit each. -/
structure Aspects where
  bits : UInt32
deriving DecidableEq, Repr, Inhabited

namespace Aspects

def empty : Aspects := ⟨0⟩
def color : Aspects := ⟨1⟩
def depth : Aspects := ⟨2⟩
def stencil : Aspects := ⟨4⟩
def metadata : Aspects := ⟨8⟩
def plane0 : Aspects := ⟨16⟩
def plane1 : Aspects := ⟨32⟩
def plane2 : Aspects := ⟨64⟩

/-- Every aspect that has a name, in ascending order of the bits. -/
def named : List (String × Aspects) :=
  [("COLOR", color), ("DEPTH", depth), ("STENCIL", stencil), ("METADATA", metadata),
   ("PLANE_0", plane0), ("PLANE_1", plane1), ("PLANE_2", plane2)]

def isEmpty (aspects : Aspects) : Bool := aspects.bits == 0

def union (left right : Aspects) : Aspects := ⟨left.bits ||| right.bits⟩

def inter (left right : Aspects) : Aspects := ⟨left.bits &&& right.bits⟩

def without (left right : Aspects) : Aspects := ⟨left.bits &&& ~~~right.bits⟩

def contains (outer inner : Aspects) : Bool := outer.inter inner == inner

def allPlanes : Aspects := (plane0.union plane1).union plane2

/-- The aspects of a multi-planar image of so many planes; more than three are three. -/
def planes : UInt32 → Aspects
  | 0 => empty
  | 1 => plane0
  | 2 => plane0.union plane1
  | _ => allPlanes

def isMultiPlanar (aspects : Aspects) : Bool := !(aspects.inter allPlanes).isEmpty

def positions (aspects : Aspects) : List Nat :=
  (List.range 32).filter aspects.bits.toNat.testBit

/-- Whether exactly one bit is set, be it one with a name or not. -/
def isSingle (aspects : Aspects) : Bool := aspects.positions.length == 1

def namedMembers (aspects : Aspects) : List (String × Aspects) :=
  named.filter fun (_, aspect) => aspects.contains aspect

def unnamed (aspects : Aspects) : Aspects :=
  aspects.without (named.foldl (fun all (_, aspect) => all.union aspect) empty)

/-- The set in parts, in ascending order of the bits: each aspect that has a name, and last, if
there are any, all the bits without a name together. -/
def members (aspects : Aspects) : List Aspects :=
  aspects.namedMembers.map (·.2) ++ if aspects.unnamed.isEmpty then [] else [aspects.unnamed]

/-- The members that are one aspect. A bit without a name is one only if it is the sole such bit
of the set. -/
def singles (aspects : Aspects) : List Aspects := aspects.members.filter isSingle

/-- The written form: the names in ascending order of the bits, then the bits without a name as a
hexadecimal number, joined by bars. The empty set is the empty text. -/
def text (aspects : Aspects) : String :=
  " | ".intercalate (aspects.namedMembers.map (·.1) ++
    if aspects.unnamed.isEmpty then []
    else ["0x" ++ Text.hexadecimal aspects.unnamed.bits.toNat])

def inspect (aspects : Aspects) : String :=
  "ImageAspects(" ++ (if aspects.isEmpty then "0x0" else aspects.text) ++ ")"

end Aspects

end LayoutTracking
