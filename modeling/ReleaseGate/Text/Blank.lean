/-
ReleaseGate/Text/Blank.lean

White space, and cutting it from both ends of a text.

The class is that of Unicode together with the four ASCII separators
U+001C to U+001F.  The zero width space and the byte order mark are not in
it.
-/

namespace ReleaseGate.Text

/-- White space of any script. -/
def isBlank (c : Char) : Bool :=
  let n := c.toNat
  (9 ≤ n && n ≤ 13) || (28 ≤ n && n ≤ 32) || n == 0x85 || n == 0xA0 || n == 0x1680 ||
    (0x2000 ≤ n && n ≤ 0x200A) || n == 0x2028 || n == 0x2029 || n == 0x202F ||
    n == 0x205F || n == 0x3000

/-- A text without the blanks at its end. -/
def stripEnd (s : List Char) : List Char := (s.reverse.dropWhile isBlank).reverse

/-- A text without the blanks at its start and end. -/
def strip (s : List Char) : List Char := stripEnd (s.dropWhile isBlank)

/-- `strip` on strings. -/
def stripped (s : String) : String := String.ofList (strip s.toList)

end ReleaseGate.Text
