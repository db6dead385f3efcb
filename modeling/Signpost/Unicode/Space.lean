import Signpost.Unicode.Ranges

/-!
# Blank characters

`isSpace` holds of the characters that separate words: the control characters from tab to carriage
return and from file to unit separator, the next-line character, and every space and line or
paragraph separator.
-/

namespace Signpost.Unicode

/-- The blank characters beyond ASCII. -/
def spaceRanges : Ranges :=
  [(0x85, 0x85), (0xA0, 0xA0), (0x1680, 0x1680), (0x2000, 0x200A), (0x2028, 0x2029),
   (0x202F, 0x202F), (0x205F, 0x205F), (0x3000, 0x3000)]

/-- Spaces, separators and the control characters that act as such. -/
def isSpace (code : Nat) : Bool :=
  if code < 0x80 then
    (0x09 ≤ code && code ≤ 0x0D) || (0x1C ≤ code && code ≤ 0x20)
  else spaceRanges.contains code

end Signpost.Unicode
