import PatternForge.Text.Ranges

/-!
# Blank code points

Two sets of blanks differ by the four information separators: the property White_Space, by which
the fields of a description are trimmed, and the wider set by which numerals and the lines of a
settings file are trimmed.
-/

namespace PatternForge

/-- The code points with the property White_Space. -/
def whiteSpace : Ranges :=
  [(0x9, 0xD), (0x20, 0x20), (0x85, 0x85), (0xA0, 0xA0), (0x1680, 0x1680), (0x2000, 0x200A),
  (0x2028, 0x2029), (0x202F, 0x202F), (0x205F, 0x205F), (0x3000, 0x3000)]

def informationSeparators : Ranges :=
  [(0x1C, 0x1F)]

namespace CodePoint

/-- The property White_Space. -/
def isWhiteSpace (point : CodePoint) : Bool :=
  whiteSpace.covers point.val

/-- White space or an information separator. -/
def isBlank (point : CodePoint) : Bool :=
  point.isWhiteSpace || informationSeparators.covers point.val

end CodePoint

namespace Text

/-- The text without the code points of a set at either end. -/
def trim (drop : CodePoint → Bool) (text : Text) : Text :=
  ((text.dropWhile drop).reverse.dropWhile drop).reverse

end Text

end PatternForge
