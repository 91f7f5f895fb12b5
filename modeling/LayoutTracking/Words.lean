/-!
# Words

Arithmetic with numbers of 64 bits, and of 32 bits for mip levels and array layers. Nothing wraps:
what does not fit its word is a failure.
-/

set_option autoImplicit false

namespace LayoutTracking

inductive WordFailure where
  | overflow
  | underflow
deriving DecidableEq, Repr, Inhabited

theorem exists_of_bind {ε α β : Type} {first : Except ε α} {next : α → Except ε β} {result : β}
    (done : first >>= next = .ok result) : ∃ value, first = .ok value ∧ next value = .ok result := by
  cases first with
  | error failure => cases done
  | ok value => exact ⟨value, rfl, done⟩

namespace Words

def add (left right : UInt64) : Except WordFailure UInt64 :=
  if left.toNat + right.toNat < UInt64.size then .ok (left + right) else .error .overflow

def mul (left right : UInt64) : Except WordFailure UInt64 :=
  if left.toNat * right.toNat < UInt64.size then .ok (left * right) else .error .overflow

def sub (left right : UInt64) : Except WordFailure UInt64 :=
  if right ≤ left then .ok (left - right) else .error .underflow

/-- The sum of two levels or layers, in their narrower word. -/
def addPlaces (left right : UInt32) : Except WordFailure UInt32 :=
  if left.toNat + right.toNat < UInt32.size then .ok (left + right) else .error .overflow

theorem toNat_eq_of_add {left right sum : UInt64} (added : add left right = .ok sum) :
    sum.toNat = left.toNat + right.toNat := by
  unfold add at added
  split at added
  · next fits =>
    obtain rfl := Except.ok.inj added
    rw [UInt64.toNat_add]
    exact Nat.mod_eq_of_lt fits
  · cases added

theorem toNat_eq_of_mul {left right product : UInt64} (multiplied : mul left right = .ok product) :
    product.toNat = left.toNat * right.toNat := by
  unfold mul at multiplied
  split at multiplied
  · next fits =>
    obtain rfl := Except.ok.inj multiplied
    rw [UInt64.toNat_mul]
    exact Nat.mod_eq_of_lt fits
  · cases multiplied

theorem toNat_eq_of_addPlaces {left right sum : UInt32} (added : addPlaces left right = .ok sum) :
    sum = left + right ∧ sum.toNat = left.toNat + right.toNat := by
  unfold addPlaces at added
  split at added
  · next fits =>
    obtain rfl := Except.ok.inj added
    refine ⟨rfl, ?_⟩
    rw [UInt32.toNat_add]
    exact Nat.mod_eq_of_lt fits
  · cases added

end Words

end LayoutTracking
