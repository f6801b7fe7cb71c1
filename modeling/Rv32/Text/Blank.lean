import Rv32.Text.CodePoints

/-!
# Blank characters

* `isBlank c` : the character `c` has the Unicode property White_Space;
* `trim cs` : the characters `cs` without the blanks at either end.
-/

namespace Rv32.Text

/-- The 25 code points with the property White_Space. -/
def blanks : CodePoints :=
  [(0x9, 0xD), (0x20, 0x20), (0x85, 0x85), (0xA0, 0xA0), (0x1680, 0x1680), (0x2000, 0x200A),
   (0x2028, 0x2029), (0x202F, 0x202F), (0x205F, 0x205F), (0x3000, 0x3000)]

def isBlank (c : Char) : Bool := blanks.has c

def trim (cs : List Char) : List Char :=
  ((cs.dropWhile isBlank).reverse.dropWhile isBlank).reverse

end Rv32.Text
