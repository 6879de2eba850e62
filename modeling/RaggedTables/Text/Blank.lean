/-! Blank characters: what trimming, splitting into words and the class of blanks in a pattern
take for white space. -/

namespace RaggedTables.Text

/-- The characters with the bidirectional class of white space or the property White_Space, and the
four information separators. -/
def isBlank (c : Char) : Bool :=
  let n := c.toNat
  (9 ≤ n && n ≤ 13) || (0x1c ≤ n && n ≤ 0x20) || n == 0x85 || n == 0xa0 || n == 0x1680 ||
    (0x2000 ≤ n && n ≤ 0x200a) || n == 0x2028 || n == 0x2029 || n == 0x202f || n == 0x205f ||
    n == 0x3000

/-- The blanks of ASCII that a pattern in verbose form skips. -/
def isPlainBlank (c : Char) : Bool :=
  let n := c.toNat
  n == 0x20 || (9 ≤ n && n ≤ 13)

/-- Without the blanks at the front. -/
def trimLeft (cs : List Char) : List Char := cs.dropWhile isBlank

/-- Without the blanks at the back. -/
def trimRight (cs : List Char) : List Char := (cs.reverse.dropWhile isBlank).reverse

/-- Without the blanks at both ends. -/
def trim (cs : List Char) : List Char := trimRight (trimLeft cs)

/-- `trim` on strings. -/
def strip (s : String) : String := String.ofList (trim s.toList)

/-- Only blanks, or nothing at all. -/
def isBlankText (s : String) : Bool := s.toList.all isBlank

end RaggedTables.Text
