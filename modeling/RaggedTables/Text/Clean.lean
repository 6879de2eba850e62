import RaggedTables.Text.Blank
import RaggedTables.Text.Letter

/-! Cleaning the text of a cell: decorating glyphs go, blanks at the ends go, and a run of two or
more blanks becomes one space. -/

namespace RaggedTables.Text

/-- The glyphs that some pages use as decoration. -/
def isDecoration (c : Char) : Bool := c == '▣'

/-- Blank runs of two or more characters as one space; a single blank stays as it is. -/
def squeeze : List Char → List Char
  | [] => []
  | c :: rest =>
    if isBlank c then
      if (rest.takeWhile isBlank).isEmpty then c :: squeeze rest
      else ' ' :: squeeze (rest.dropWhile isBlank)
    else c :: squeeze rest
termination_by cs => cs.length
decreasing_by
  · simp
  · have := (List.dropWhile_sublist isBlank (l := rest)).length_le
    simp; omega
  · simp

/-- The cleaned text of a cell. -/
def clean (cs : List Char) : List Char := squeeze (trim (cs.filter fun c => !isDecoration c))

/-- `clean` on strings. -/
def sanitise (s : String) : String := String.ofList (clean s.toList)

/-- Only the letters, digits and underscores of a text. -/
def wordsOnly (s : String) : String := String.ofList (s.toList.filter isWord)

end RaggedTables.Text
