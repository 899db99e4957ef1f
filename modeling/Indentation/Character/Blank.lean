import Indentation.Character.Range

/-!
# Blanks

White space in the sense of Unicode 14, together with the four information separators U+001C to
U+001F. The zero-width space and the byte order mark are no blanks.

## Main definitions

* `Character.isBlank` — whether a character is white space
-/

namespace Indentation.Character

/-- The code points of the blanks. -/
def blankRanges : CodeRanges := [
  (0x0009, 0x000D), (0x001C, 0x0020), (0x0085, 0x0085), (0x00A0, 0x00A0), (0x1680, 0x1680),
  (0x2000, 0x200A), (0x2028, 0x2029), (0x202F, 0x202F), (0x205F, 0x205F), (0x3000, 0x3000)]

/-- A character of white space. -/
def isBlank (c : Char) : Bool :=
  blankRanges.contains c.toNat

end Indentation.Character
