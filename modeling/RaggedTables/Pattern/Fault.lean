import RaggedTables.Text.Quoted

/-! Why a pattern's text is refused, and the wording of each reason. -/

namespace RaggedTables.Pattern

/-- What is wrong with a pattern's text. -/
inductive Problem where
  | escapeAtEnd
  | badEscape (escape : String)
  | incompleteEscape (escape : String)
  | largeOctal (escape : String)
  | missingBrace
  | missingName (what : String)
  | unendedName (terminator : String)
  | unknownCharacter (name : String)
  | openGroup
  | lookbehindGroup
  | badReference (index : Nat)
  | unendedClass
  | badRange (first last : String)
  | fallingRepeat
  | nothingToRepeat
  | multipleRepeat
  | unexpectedEnd
  | unknownExtension (text : String)
  | unknownGroup (name : String)
  | badGroupName (name : String)
  | zeroGroup
  | repeatedGroupName (name : String) (index earlier : Nat)
  | threeBranches
  | unendedGroup
  | unendedComment
  | lateFlags
  | localeFlag
  | clashingFlags
  | unknownFlag
  | missingFlagEnd
  | missingFlag
  | missingColon
  | turnedOnGlobal
  | turnedOffGlobal
  | turnedOffAlphabet
  | turnedOnAndOff
  | unbalanced
  | variableLookbehind
  | deepLookbehind
  | templateRepeat (operator : String)
deriving Repr, DecidableEq, Inhabited

/-- The wording of a problem. -/
def Problem.message : Problem → String
  | .escapeAtEnd => "bad escape (end of pattern)"
  | .badEscape escape => "bad escape " ++ escape
  | .incompleteEscape escape => "incomplete escape " ++ escape
  | .largeOctal escape => "octal escape value " ++ escape ++ " outside of range 0-0o377"
  | .missingBrace => "missing \x7b"
  | .missingName what => "missing " ++ what
  | .unendedName terminator => "missing " ++ terminator ++ ", unterminated name"
  | .unknownCharacter name => "undefined character name " ++ Text.quoted name
  | .openGroup => "cannot refer to an open group"
  | .lookbehindGroup => "cannot refer to group defined in the same lookbehind subpattern"
  | .badReference index => "invalid group reference " ++ toString index
  | .unendedClass => "unterminated character set"
  | .badRange first last => "bad character range " ++ first ++ "-" ++ last
  | .fallingRepeat => "min repeat greater than max repeat"
  | .nothingToRepeat => "nothing to repeat"
  | .multipleRepeat => "multiple repeat"
  | .unexpectedEnd => "unexpected end of pattern"
  | .unknownExtension text => "unknown extension " ++ text
  | .unknownGroup name => "unknown group name " ++ Text.quoted name
  | .badGroupName name => "bad character in group name " ++ Text.quoted name
  | .zeroGroup => "bad group number"
  | .repeatedGroupName name index earlier =>
    "redefinition of group name " ++ Text.quoted name ++ " as group " ++ toString index ++
      "; was group " ++ toString earlier
  | .threeBranches => "conditional backref with more than two branches"
  | .unendedGroup => "missing ), unterminated subpattern"
  | .unendedComment => "missing ), unterminated comment"
  | .lateFlags => "global flags not at the start of the expression"
  | .localeFlag => "bad inline flags: cannot use 'L' flag with a str pattern"
  | .clashingFlags => "bad inline flags: flags 'a', 'u' and 'L' are incompatible"
  | .unknownFlag => "unknown flag"
  | .missingFlagEnd => "missing -, : or )"
  | .missingFlag => "missing flag"
  | .missingColon => "missing :"
  | .turnedOnGlobal => "bad inline flags: cannot turn on global flag"
  | .turnedOffGlobal => "bad inline flags: cannot turn off global flag"
  | .turnedOffAlphabet => "bad inline flags: cannot turn off flags 'a', 'u' and 'L'"
  | .turnedOnAndOff => "bad inline flags: flag turned on and off"
  | .unbalanced => "unbalanced parenthesis"
  | .variableLookbehind => "look-behind requires fixed-width pattern"
  | .deepLookbehind => "looks too much behind"
  | .templateRepeat operator => "internal: unsupported template operator " ++ operator

/-- Why no pattern came of a text: a problem, with its place where it has one; a repetition count
past the limit, or of too many digits; or two alphabets at once. -/
inductive Fault where
  | malformed (problem : Problem) (position : Option Nat)
  | hugeRepeat
  | longCount (digits : Nat)
  | twoAlphabets
deriving Repr, DecidableEq, Inhabited

/-- The wording of a fault in the pattern `text`; the place is also given as line and column when
there are several lines. -/
def Fault.message (text : String) : Fault → String
  | .malformed problem none => problem.message
  | .malformed problem (some position) =>
    let start := problem.message ++ " at position " ++ toString position
    if '\n' ∈ text.toList then
      let before := text.toList.take position
      let line := before.count '\n' + 1
      let column := (before.reverse.takeWhile (· != '\n')).length + 1
      start ++ " (line " ++ toString line ++ ", column " ++ toString column ++ ")"
    else start
  | .hugeRepeat => "the repetition number is too large"
  | .longCount digits =>
    "Exceeds the limit (4300 digits) for integer string conversion: value has " ++
      toString digits ++ " digits; use sys.set_int_max_str_digits() to increase the limit"
  | .twoAlphabets => "ASCII and UNICODE flags are incompatible"

end RaggedTables.Pattern
