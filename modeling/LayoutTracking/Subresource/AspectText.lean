import LayoutTracking.Subresource.Aspects
import LayoutTracking.Text.Blank

/-!
# Reading aspects

The written form of an aspect set is read liberally: parts stand in any order and any number of
times, with blanks around them, and a part may give bits as a hexadecimal number.
-/

set_option autoImplicit false

namespace LayoutTracking.Aspects

/-- The bits after a `0x`: at least one hexadecimal digit, at most 32 bits, and a plus sign in
front if one likes. -/
def ofHexadecimal? (chars : List Char) : Option Aspects := do
  let digits := match chars with
    | '+' :: digits => digits
    | digits => digits
  if digits.isEmpty then none
  let value ← Text.readDigits? 16 digits 0
  if value < UInt32.size then some ⟨UInt32.ofNat value⟩ else none

def ofPart? (chars : List Char) : Option Aspects :=
  match chars with
  | '0' :: 'x' :: digits => ofHexadecimal? digits
  | name => (named.find? fun entry => entry.1.toList == name).map (·.2)

/-- The set that the characters write. Only a text of nothing but blanks may have an empty part. -/
def ofChars? (chars : List Char) : Option Aspects :=
  if (Text.trim chars).isEmpty then
    some empty
  else
    (chars.splitOn '|').foldlM (fun set part => (ofPart? (Text.trim part)).map set.union) empty

def ofText? (text : String) : Option Aspects := ofChars? text.toList

end LayoutTracking.Aspects
