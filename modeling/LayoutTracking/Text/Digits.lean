/-!
# Digits

Numbers as they are written in a base of at most sixteen.
-/

set_option autoImplicit false

namespace LayoutTracking.Text

def digit? (c : Char) : Option Nat :=
  if '0' ≤ c ∧ c ≤ '9' then some (c.toNat - 48)
  else if 'a' ≤ c ∧ c ≤ 'f' then some (c.toNat - 87)
  else if 'A' ≤ c ∧ c ≤ 'F' then some (c.toNat - 55)
  else none

/-- The number that the digits write in the base, most significant first, on top of the number
written so far. Every character has to be a digit of the base. -/
def readDigits? (base : Nat) : List Char → Nat → Option Nat
  | [], value => some value
  | c :: rest, value =>
    match digit? c with
    | some digit => if digit < base then readDigits? base rest (value * base + digit) else none
    | none => none

def hexadecimal (value : Nat) : String := String.ofList (Nat.toDigits 16 value)

end LayoutTracking.Text
