/-!
# Blanks

The characters that count as white space in names, images and settings: those with the Unicode
property White_Space, twenty-five in all.
-/

namespace Fleet.Text

/-- Whether a character has the property White_Space. -/
def isBlank (c : Char) : Bool :=
  let n := c.toNat
  (9 ≤ n && n ≤ 13) || n == 0x20 || n == 0x85 || n == 0xA0 || n == 0x1680
    || (0x2000 ≤ n && n ≤ 0x200A) || n == 0x2028 || n == 0x2029 || n == 0x202F || n == 0x205F
    || n == 0x3000

/-- The text without the blanks it starts and ends with. -/
def trim (text : String) : String :=
  let core := text.toList.dropWhile isBlank
  String.ofList (core.reverse.dropWhile isBlank).reverse

/-- Whether a text is empty or all blank. -/
def isBlankText (text : String) : Bool :=
  text.toList.all isBlank

end Fleet.Text
