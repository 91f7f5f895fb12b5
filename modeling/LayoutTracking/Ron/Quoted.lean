import LayoutTracking.Ron.Lexical
import LayoutTracking.Text.Digits
import LayoutTracking.Text.Visible

/-!
# Writing quoted texts

In a quoted text every character stands for itself that can be seen to do so. The others are
written as escapes.
-/

set_option autoImplicit false

namespace LayoutTracking.Ron

/-- The code point of a character in lower-case hexadecimal, in braces. -/
def unicodeEscape (c : Char) : List Char :=
  ['\\', 'u', '\x7b'] ++ (Text.hexadecimal c.toNat).toList ++ ['\x7d']

/-- How a character is written in quotation marks, whichever of the two kinds these are. -/
def escape (c : Char) : List Char :=
  match c with
  | '\x00' => ['\\', '0']
  | '\t' => ['\\', 't']
  | '\r' => ['\\', 'r']
  | '\n' => ['\\', 'n']
  | '\'' => ['\\', '\'']
  | '"' => ['\\', '"']
  | '\\' => ['\\', '\\']
  | c => if Text.isVisible c then [c] else unicodeEscape c

def quote (text : List Char) : List Char :=
  ['"'] ++ text.flatMap escape ++ ['"']

end LayoutTracking.Ron
