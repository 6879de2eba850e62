import RaggedTables.Text.Blank
import RaggedTables.Text.Letter

/-! Control sequences of terminals: an introducer, marks, numbers between semicolons and a final
character. -/

namespace RaggedTables.Text

/-- Escape, and the control sequence introducer. -/
def isIntroducer (c : Char) : Bool := c == '\x1b' || c == '\u009b'

def isMark (c : Char) : Bool := "[()#;?".toList.contains c

/-- What may end a control sequence. -/
def isFinal (c : Char) : Bool :=
  isAsciiDigit c || ('A' ≤ c && c ≤ 'O') || ('f' ≤ c && c ≤ 'n') ||
    "RZcqry=><".toList.contains c

/-- The text after the digits at its front, at most `count` of them. -/
def afterDigits : (count : Nat) → List Char → List Char
  | 0, cs => cs
  | _, [] => []
  | count + 1, c :: rest => if isAsciiDigit c then afterDigits count rest else c :: rest

/-- The text after numbers of at most four digits, each with a semicolon in front, and a final
character. Without a final character the last digit counts as one; `end` is the text after it. -/
def afterNumbers (fuel : Nat) (fallback : List Char) (cs : List Char) : List Char :=
  match fuel, cs with
  | fuel + 1, ';' :: rest =>
    let more := afterDigits 4 rest
    afterNumbers fuel (if more.length < rest.length then more else fallback) more
  | _, c :: rest => if isFinal c then rest else fallback
  | _, [] => fallback

/-- The text after a control sequence whose introducer has been read. -/
def afterSequence? (cs : List Char) : Option (List Char) :=
  match cs.dropWhile isMark with
  | [] => none
  | c :: rest =>
    if isAsciiDigit c then
      let more := afterDigits 3 rest
      some (afterNumbers more.length more more)
    else if isFinal c then some rest
    else none

/-- A text without its control sequences. -/
def withoutSequences (fuel : Nat) (cs : List Char) : List Char :=
  match fuel, cs with
  | _, [] => []
  | 0, cs => cs
  | fuel + 1, c :: rest =>
    match if isIntroducer c then afterSequence? rest else none with
    | some after => withoutSequences fuel after
    | none => c :: withoutSequences fuel rest

/-- The visible characters of a text. -/
def visible (cs : List Char) : List Char := withoutSequences cs.length cs

/-- A text without control sequences and without blanks at its ends. -/
def stripAnsi (s : String) : String := String.ofList (trim (visible s.toList))

/-- Letters, which end the sequences that colours and cursor moves use. -/
def isSequenceParameter (c : Char) : Bool := c == ';' || c == '?' || isAsciiDigit c

/-- A text without colours and cursor moves: escape, an opening bracket, parameters and a letter. -/
def withoutColours (fuel : Nat) (cs : List Char) : List Char :=
  match fuel, cs with
  | _, [] => []
  | 0, cs => cs
  | fuel + 1, '\x1b' :: '[' :: rest =>
    match rest.dropWhile isSequenceParameter with
    | c :: after =>
      if isAsciiLetter c then withoutColours fuel after
      else '\x1b' :: withoutColours fuel ('[' :: rest)
    | [] => '\x1b' :: withoutColours fuel ('[' :: rest)
  | fuel + 1, c :: rest => c :: withoutColours fuel rest

/-- What a device that is no terminal receives for a text. -/
def plainOutput (s : String) : String :=
  String.ofList (withoutColours s.length s.toList)

end RaggedTables.Text
