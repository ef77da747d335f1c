/-
TokenCustody.Text.Blank — the white space of written settings and headers.

A character is blank when Unicode gives it the property White_Space.
That is a larger set than the space, tab and line ends: it holds the
no-break space, the line separators and the ideographic space, and it
does NOT hold the zero-width space.
-/
import TokenCustody.Text.Split

namespace TokenCustody.Text

/-- The characters with the property White_Space. -/
def isBlank (c : Char) : Bool :=
  let n := c.toNat
  (0x09 ≤ n && n ≤ 0x0D) || n == 0x20 || n == 0x85 || n == 0xA0 || n == 0x1680 ||
    (0x2000 ≤ n && n ≤ 0x200A) || n == 0x2028 || n == 0x2029 || n == 0x202F ||
    n == 0x205F || n == 0x3000

/-- The text without the blanks it starts with. -/
def trimStart (cs : List Char) : List Char := cs.dropWhile isBlank

/-- The text without the characters of a class that it starts or ends with. -/
def trimBoth (drop : Char → Bool) (cs : List Char) : List Char :=
  ((cs.dropWhile drop).reverse.dropWhile drop).reverse

/-- The text without the blanks it starts or ends with. -/
def trim (cs : List Char) : List Char := trimBoth isBlank cs

/-- The words of a text: its longest stretches without a blank. -/
def words (cs : List Char) : List (List Char) := (split isBlank cs).filter (· ≠ [])

end TokenCustody.Text
