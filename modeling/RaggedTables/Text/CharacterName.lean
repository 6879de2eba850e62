import RaggedTables.Text.CharacterTable
import RaggedTables.Text.CodeRange

/-! Names of characters, as an escape in a pattern may spell them. Covered are the characters up to
the Arabic ones (U+0000 to U+06FF), more Latin letters with marks (U+1E00 to U+1EFF), punctuation
and currency signs, signs like letters, arrows, mathematical operators, geometric shapes, Japanese
syllables (U+2000, U+20A0, U+2100, U+2190, U+2200, U+25A0, U+3000, each with its block), a few
symbols, all unified ideographs and all Korean syllables. A character outside these has no name
here. -/

namespace RaggedTables.Text

/-- The fronts of names that a line gives: where it has a caret, one for capital letters and one for
small ones. -/
def nameFronts (front : String) : List String :=
  match front.splitOn "^" with
  | [before, after] => [before ++ "CAPITAL" ++ after, before ++ "SMALL" ++ after]
  | _ => [front]

/-- The characters of a line of the tables, by name. -/
def namedOn (line : String) : List (String × Nat) :=
  match line.splitOn "|" with
  | [start, rests] =>
    match start.splitOn " " with
    | code :: words =>
      let fronts := nameFronts (" ".intercalate words)
      let names := (rests.splitOn ";").flatMap fun rest => fronts.map (· ++ rest)
      names.mapIdx fun i name => (name, hexValue code.toList + i)
    | [] => []
  | _ => []

/-- The named characters, by name. -/
def characterNames : List (String × Nat) :=
  [latinNames, markNames, greekNames, semiticNames, latinAdditionalNames, punctuationNames,
    letterlikeNames, mathematicalNames, shapeNames, kanaNames, aliasNames].flatMap fun lines =>
      lines.flatMap namedOn

/-- The unified ideographs. -/
def ideographs : CodeSet :=
  .ofLines ["3400-4dbf 4e00-9fff 20000-2a6df 2a700-2b738 2b740-2b81d 2b820-2cea1 2ceb0-2ebe0",
    "30000-3134a"]

/-- The ideograph that a name ends with the code point of, in four or five capital digits. -/
def ideographNamed? (name : String) : Option Nat :=
  let lead := "CJK UNIFIED IDEOGRAPH-"
  if name.startsWith lead then
    let digits := name.toList.drop lead.length
    let n := hexValue digits
    let spelled := (digits.length == 4 || digits.length == 5) &&
      digits.all fun c => (hexDigit? c).isSome && !c.isLower
    if spelled && ideographs.contains n then some n else none
  else none

/-! ### Korean syllables -/

/-- The leading consonants, the vowels and the trailing consonants. -/
def leadingSounds : List String :=
  ["G", "GG", "N", "D", "DD", "R", "M", "B", "BB", "S", "SS", "", "J", "JJ", "C", "K",
    "T", "P", "H"]

def vowelSounds : List String :=
  ["A", "AE", "YA", "YAE", "EO", "E", "YEO", "YE", "O", "WA", "WAE", "OE", "YO", "U", "WEO", "WE",
    "WI", "YU", "EU", "YI", "I"]

def trailingSounds : List String :=
  ["", "G", "GG", "GS", "N", "NJ", "NH", "D", "L", "LG", "LM", "LB", "LS", "LT", "LP", "LH", "M",
    "B", "BS", "S", "SS", "NG", "J", "C", "K", "T", "P", "H"]

/-- The number of the longest sound that a text starts with, and the text behind it. No sound has
more than three letters. -/
def soundOf? (sounds : List String) (cs : List Char) : Option (Nat × List Char) :=
  [3, 2, 1, 0].findSome? fun n =>
    (sounds.idxOf? (String.ofList (cs.take n))).map fun i => (i, cs.drop n)

/-- The syllable that a name ends with the sounds of. -/
def syllableNamed? (name : String) : Option Nat := do
  let lead := "HANGUL SYLLABLE "
  if name.startsWith lead then
    let (leading, rest) ← soundOf? leadingSounds (name.toList.drop lead.length)
    let (vowel, rest) ← soundOf? vowelSounds rest
    let (trailing, rest) ← soundOf? trailingSounds rest
    if rest.isEmpty then
      some (0xac00 + (leading * vowelSounds.length + vowel) * trailingSounds.length + trailing)
    else none
  else none

/-- The character with a name, in letters of either case but for ideographs and syllables. -/
def codeNamed? (name : String) : Option Nat :=
  ((characterNames.lookup name.toUpper).or (ideographNamed? name)).or (syllableNamed? name)

end RaggedTables.Text
