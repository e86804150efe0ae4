/-!
# Blank characters

Two notions of blank are in use: the wide one of Unicode, for values that people type, and the
narrow one of ASCII, for numerals. Trimming drops blanks at both ends and nothing else.
-/

namespace ParamBinding.Text

/-- The blanks of Unicode: white space, line and paragraph separators, and the four information
separators `U+001C` to `U+001F`. -/
def isBlank (c : Char) : Bool :=
  let n := c.toNat
  (9 ≤ n && n ≤ 13) || (28 ≤ n && n ≤ 32) || n == 0x85 || n == 0xA0 || n == 0x1680 ||
    (0x2000 ≤ n && n ≤ 0x200A) || n == 0x2028 || n == 0x2029 || n == 0x202F || n == 0x205F ||
    n == 0x3000

/-- The blanks of ASCII: tab, the four line breaks and the space. -/
def isAsciiBlank (c : Char) : Bool :=
  let n := c.toNat
  (9 ≤ n && n ≤ 13) || n == 32

/-- Drop the characters with property `p` at the end of a text. -/
def trimRight (p : Char → Bool) (cs : List Char) : List Char :=
  (cs.reverse.dropWhile p).reverse

/-- Drop the characters with property `p` at both ends of a text. -/
def trim (p : Char → Bool) (cs : List Char) : List Char :=
  trimRight p (cs.dropWhile p)

/-- Drop the blanks of Unicode at both ends. -/
def strip (s : String) : String :=
  String.ofList (trim isBlank s.toList)

end ParamBinding.Text
