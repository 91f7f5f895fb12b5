import LayoutTracking.Words

/-!
# Identities

Images, views, recorders and snapshot stores are told apart by numbers of 32 bits, never zero,
drawn from a counter each. A counter that has given out all its numbers starts over, and the
number it gives out then is one again. That draw is checked, and what needed it fails.
-/

set_option autoImplicit false

namespace LayoutTracking

structure ImageId where
  value : UInt32
deriving DecidableEq, Repr, Inhabited

structure ViewId where
  value : UInt32
deriving DecidableEq, Repr, Inhabited

structure RecorderId where
  value : UInt32
deriving DecidableEq, Repr, Inhabited

structure StoreId where
  value : UInt32
deriving DecidableEq, Repr, Inhabited

def ImageId.inspect (id : ImageId) : String := "ImageId(" ++ toString id.value ++ ")"

def ViewId.inspect (id : ViewId) : String := "ViewId(" ++ toString id.value ++ ")"

/-- A source of identities. -/
structure Counter where
  upcoming : UInt32
deriving DecidableEq, Repr, Inhabited

namespace Counter

def fresh : Counter := ⟨1⟩

/-- The next number, and the counter after it. Zero is no identity: where the counter passes it,
one is given out in its place. -/
def draw (counter : Counter) : UInt32 × Counter :=
  (if counter.upcoming = 0 then 1 else counter.upcoming, ⟨counter.upcoming + 1⟩)

/-- The failure of the next draw, if all numbers are given out. -/
def spent? (counter : Counter) : Option WordFailure :=
  if counter.upcoming = 0 then some .overflow else none

/-- How many numbers there are left to give out. -/
def left (counter : Counter) : Nat :=
  if counter.upcoming = 0 then 0 else UInt32.size - counter.upcoming.toNat

theorem spent?_eq_none_iff {counter : Counter} : counter.spent? = none ↔ 0 < counter.left := by
  have bound : counter.upcoming.toNat < UInt32.size := counter.upcoming.toNat_lt
  rw [spent?, left]
  split
  · exact ⟨nofun, nofun⟩
  · exact ⟨fun _ => Nat.sub_pos_of_lt bound, fun _ => rfl⟩

theorem left_draw {counter : Counter} (some : 0 < counter.left) :
    counter.draw.2.left + 1 = counter.left := by
  have bound : counter.upcoming.toNat < UInt32.size := counter.upcoming.toNat_lt
  have notZero : counter.upcoming ≠ 0 := by
    intro zero
    rw [left, if_pos zero] at some
    cases some
  have next : (counter.upcoming + 1).toNat = (counter.upcoming.toNat + 1) % UInt32.size :=
    UInt32.toNat_add _ _
  have positive : 0 < counter.upcoming.toNat :=
    Nat.pos_of_ne_zero fun zero => notZero (UInt32.toNat_inj.mp zero)
  rw [left, left, if_neg notZero, draw]
  dsimp only
  by_cases last : counter.upcoming.toNat + 1 = UInt32.size
  · rw [last, Nat.mod_self] at next
    rw [if_pos (UInt32.toNat_inj.mp next)]
    omega
  · rw [Nat.mod_eq_of_lt (by omega)] at next
    rw [if_neg fun zero => Nat.succ_ne_zero _ (next.symm.trans (congrArg UInt32.toNat zero)), next]
    omega

end Counter

end LayoutTracking
