import Hypertag.Text.Basic

/-!
# Blank characters

The white space of Unicode as selectors and settings see it: the five ASCII controls from tab to
carriage return, the four information separators, and every space, line and paragraph separator.
Zero-width characters are not blank.
-/

namespace Hypertag

def isBlank (c : Char) : Bool :=
  let n := c.toNat
  (0x9 ≤ n && n ≤ 0xD) || (0x1C ≤ n && n ≤ 0x20) || n == 0x85 || n == 0xA0 || n == 0x1680 ||
    (0x2000 ≤ n && n ≤ 0x200A) || n == 0x2028 || n == 0x2029 || n == 0x202F || n == 0x205F ||
    n == 0x3000

namespace Text

/-- Without the blanks at both ends. -/
def strip (t : Text) : Text :=
  ((t.dropWhile isBlank).reverse.dropWhile isBlank).reverse

end Text

end Hypertag
