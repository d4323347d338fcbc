/-
Which characters are blank, in any script, and texts without the blanks around them.
-/
import BufferScope.Text.Ranges

namespace BufferScope.Text

/-- The bounds of the blanks. -/
def blankBounds : Array Nat := #[
  0x9, 0xe, 0x20, 0x21, 0x85, 0x86, 0xa0, 0xa1, 0x1680, 0x1681, 0x2000, 0x200b, 0x2028, 0x202a, 0x202f,
  0x2030, 0x205f, 0x2060, 0x3000, 0x3001]

/-- Whether a character is blank. -/
def isBlank (c : Char) : Bool := isBetween blankBounds c

/-- The characters without the blanks in front and at the end. -/
def trimmed (cs : List Char) : List Char := ((cs.dropWhile isBlank).reverse.dropWhile isBlank).reverse

end BufferScope.Text
