/-!
# Blank characters

Two sets of blank characters: the white space of running text, and the wider one that also
counts the four information separators.

* `isWhite`, `isBlank`: the two sets.
* `trimBoth`: a text without the characters of a set at its ends.
-/

namespace SearchKit

/-- White space: the characters with the Unicode property of that name. -/
def isWhite (c : Char) : Bool :=
  let n := c.toNat
  (0x09 ≤ n && n ≤ 0x0D) || n == 0x20 || n == 0x85 || n == 0xA0 || n == 0x1680 ||
    (0x2000 ≤ n && n ≤ 0x200A) || n == 0x2028 || n == 0x2029 || n == 0x202F || n == 0x205F ||
    n == 0x3000

/-- Blanks: white space and the information separators. -/
def isBlank (c : Char) : Bool :=
  isWhite c || (0x1C ≤ c.toNat && c.toNat ≤ 0x1F)

/-- The text without the characters of a set at its ends. -/
def trimBoth (blank : Char → Bool) (cs : List Char) : List Char :=
  ((cs.dropWhile blank).reverse.dropWhile blank).reverse

end SearchKit
