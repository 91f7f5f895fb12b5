import LayoutTracking.Text.GraphemeExtend
import LayoutTracking.Text.Unprintable

/-!
# Visible characters

The characters that show themselves wherever they stand in a text.
-/

set_option autoImplicit false

namespace LayoutTracking.Text

/-- The fillers of Hangul syllables and of half-width Hangul. They are letters, but blank ones. -/
def isHangulFiller (c : Char) : Bool :=
  c == '\u115f' || c == '\u1160' || c == '\u3164' || c == '\uffa0'

/-- The half-width voicing marks of kana. They belong to the character before them, but stand in a
cell of their own. -/
def isHalfwidthVoicing (c : Char) : Bool := c == '\uff9e' || c == '\uff9f'

/-- Whether a character can be seen and is not lost in the one before it. -/
def isVisible (c : Char) : Bool :=
  !isUnprintable c && !isHangulFiller c && (!isGraphemeExtend c || isHalfwidthVoicing c)

end LayoutTracking.Text
