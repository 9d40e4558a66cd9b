/-!
# Blank characters

The characters of the Unicode property `White_Space`, and text without the blanks at
its ends.
-/

namespace LspClient.Text

/-- A character of the property `White_Space`. -/
def isBlank (c : Char) : Bool :=
  let n := c.toNat
  (9 ≤ n && n ≤ 13) || n == 0x20 || n == 0x85 || n == 0xA0 || n == 0x1680 ||
    (0x2000 ≤ n && n ≤ 0x200A) || n == 0x2028 || n == 0x2029 || n == 0x202F || n == 0x205F ||
    n == 0x3000

/-- A list without the items satisfying `p` at its end. -/
def dropEnd (p : α → Bool) (items : List α) : List α := (items.reverse.dropWhile p).reverse

/-- Text without the blanks at both ends. -/
def trim (text : List Char) : List Char := dropEnd isBlank (text.dropWhile isBlank)

end LspClient.Text
