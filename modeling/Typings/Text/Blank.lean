/-!
# Blank Characters

The white space of the Unicode standard: the characters with the property
`White_Space`, twenty-five in number. It is wider than the four characters a
data format allows between its tokens, and it is what trimming removes.

## Main definitions

* `isBlank`: Membership in `White_Space`.
* `trim`: A text without the blanks at either end.
* `isBlankText`: A text that trimming leaves empty.
-/

namespace Typings

namespace Text

/-- The property `White_Space`. -/
def isBlank (c : Char) : Bool :=
  let n := c.toNat
  (0x9 ≤ n && n ≤ 0xD) || n = 0x20 || n = 0x85 || n = 0xA0 || n = 0x1680 ||
    (0x2000 ≤ n && n ≤ 0x200A) || n = 0x2028 || n = 0x2029 || n = 0x202F ||
    n = 0x205F || n = 0x3000

/-- A list of characters without the blanks at either end. -/
def trimChars (cs : List Char) : List Char :=
  ((cs.dropWhile isBlank).reverse.dropWhile isBlank).reverse

/-- A text without the blanks at either end. -/
def trim (text : String) : String :=
  String.ofList (trimChars text.toList)

/-- A text that trimming leaves empty. -/
def isBlankText (text : String) : Bool :=
  text.toList.all isBlank

end Text

end Typings
