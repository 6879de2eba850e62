import RaggedTables.Pattern.Expr
import RaggedTables.Pattern.Fault
import RaggedTables.Text.CharacterName
import RaggedTables.Text.Letter
import RaggedTables.Text.Blank

/-! Reading a pattern's text. The reader looks one token ahead, a token being a character or a
backslash with the character after it, and every fault carries its place in the text. -/

namespace RaggedTables.Pattern

/-- Where the reader stands: `next` is the token ahead, empty at the end, and `index` the place
after it. Besides, what is known of the pattern so far: its flags, the names of groups, the width of
each closed group, the number of groups before the outermost lookbehind, and where conditions name a
group by number. -/
structure ReaderState where
  text : Array Char
  index : Nat := 0
  next : List Char := []
  flags : Flags := {}
  names : List (String × Nat) := []
  widths : Array (Option Width) := #[none]
  lookbehind : Option Nat := none
  conditions : List (Nat × Nat) := []
deriving Inhabited

abbrev Reader := StateT ReaderState (Except Fault)

namespace Reader

/-- The place of the token ahead. -/
def tell : Reader Nat := do
  let s ← get
  return s.index - s.next.length

/-- Stops with a problem at `position`. -/
def failAt (problem : Problem) (position : Nat) : Reader α :=
  throw (.malformed problem (some position))

/-- Stops with a problem `back` characters before the token ahead. -/
def fail (problem : Problem) (back : Nat := 0) : Reader α := do
  failAt problem ((← tell) - back)

/-- Takes the next token into view. -/
def load : Reader Unit := do
  let s ← get
  match s.text[s.index]? with
  | none => set { s with next := [] }
  | some '\\' =>
    match s.text[s.index + 1]? with
    | none => failAt .escapeAtEnd (s.text.size - 1)
    | some c => set { s with next := ['\\', c], index := s.index + 2 }
  | some c => set { s with next := [c], index := s.index + 1 }

/-- The token ahead, which is passed. -/
def take : Reader (List Char) := do
  let token := (← get).next
  load
  return token

/-- Passes the token ahead if it is `c`. -/
def accept (c : Char) : Reader Bool := do
  if (← get).next == [c] then
    load
    return true
  else return false

/-- Goes back to a place. -/
def seek (index : Nat) : Reader Unit := do
  modify fun s => { s with index }
  load

/-- At most `count` single characters that satisfy `p`. -/
def takeWhile (p : Char → Bool) : Nat → Reader (List Char)
  | 0 => return []
  | count + 1 => do
    match (← get).next with
    | [c] =>
      if p c then
        load
        return c :: (← takeWhile p count)
      else return []
    | _ => return []

/-- The characters up to `terminator`, which is passed; `what` names them in a fault. -/
def takeUntil (terminator : Char) (what : String) : (fuel : Nat) → (taken : List Char) →
    Reader (List Char)
  | 0, taken => return taken
  | fuel + 1, taken => do
    let token ← take
    if token.isEmpty then
      if taken.isEmpty then fail (.missingName what)
      else fail (.unendedName (String.ofList [terminator])) taken.length
    else if token == [terminator] then
      if taken.isEmpty then fail (.missingName what) 1 else return taken
    else takeUntil terminator what fuel (taken ++ token)

/-- A bracketed name. -/
def name (terminator : Char) (what : String) : Reader (List Char) := do
  takeUntil terminator what ((← get).text.size + 1) []

/-- A name that a group may have. -/
def groupName (terminator : Char) : Reader String := do
  let cs ← name terminator "group name"
  if Text.isName cs then return String.ofList cs
  else fail (.badGroupName (String.ofList cs)) (cs.length + 1)

/-! ### Groups -/

def isClosed (index : Nat) : Reader Bool := do
  return ((← get).widths[index]?).join.isSome

/-- Refuses a reference to group `index` that a lookbehind could not match backwards. -/
def checkLookbehind (index : Nat) : Reader Unit := do
  match (← get).lookbehind with
  | none => return
  | some before =>
    if !(← isClosed index) then fail .openGroup
    if before ≤ index then fail .lookbehindGroup

/-- Opens a group and gives its number. -/
def openGroup (name : Option String) : Reader Nat := do
  let s ← get
  let index := s.widths.size
  match name with
  | none => set { s with widths := s.widths.push none }
  | some name =>
    match s.names.lookup name with
    | some earlier => fail (.repeatedGroupName name index earlier) (name.length + 1)
    | none =>
      set { s with widths := s.widths.push none, names := (name, index) :: s.names }
  return index

def widthOf (s : ReaderState) (index : Nat) : Width := ((s.widths[index]?).join).getD .zero

def closeGroup (index : Nat) (body : Expr) : Reader Unit :=
  modify fun s => { s with widths := s.widths.setIfInBounds index (some (body.width (widthOf s))) }

/-! ### Escapes -/

def isOctal (c : Char) : Bool := '0' ≤ c && c ≤ '7'

def isHex (c : Char) : Bool := (Text.hexDigit? c).isSome

def octalValue (digits : List Char) : Nat :=
  digits.foldl (fun n c => 8 * n + (c.toNat - '0'.toNat)) 0

/-- The control that a letter after a backslash stands for. -/
def control? : Char → Option Nat
  | 'a' => some 7
  | 'b' => some 8
  | 'f' => some 12
  | 'n' => some 10
  | 'r' => some 13
  | 't' => some 9
  | 'v' => some 11
  | '\\' => some 92
  | _ => none

/-- The class of characters that a letter after a backslash stands for. -/
def category? : Char → Option ClassItem
  | 'd' => some (.category .digit false)
  | 'D' => some (.category .digit true)
  | 's' => some (.category .blank false)
  | 'S' => some (.category .blank true)
  | 'w' => some (.category .word false)
  | 'W' => some (.category .word true)
  | _ => none

/-- The anchor that a letter after a backslash stands for. -/
def anchor? : Char → Option Anchor
  | 'A' => some .textStart
  | 'b' => some .boundary
  | 'B' => some .notBoundary
  | 'Z' => some .textEnd
  | _ => none

def escapeText (cs : List Char) : String := String.ofList ('\\' :: cs)

/-- Exactly `count` hexadecimal digits after `\c`, which write a code point. -/
def hexEscape (c : Char) (count : Nat) : Reader Nat := do
  let digits ← takeWhile isHex count
  let back := digits.length + 2
  if digits.length != count then fail (.incompleteEscape (escapeText (c :: digits))) back
  let n := Text.hexValue digits
  if n < 0x110000 then return n else fail (.badEscape (escapeText (c :: digits))) back

/-- The code point that an escape spells alike inside and outside of a class. -/
def spelledCode? (c : Char) : Reader (Option Nat) := do
  match c with
  | 'x' => return some (← hexEscape c 2)
  | 'u' => return some (← hexEscape c 4)
  | 'U' => return some (← hexEscape c 8)
  | 'N' =>
    if !(← accept '\x7b') then fail .missingBrace
    let name ← name '\x7d' "character name"
    match Text.codeNamed? (String.ofList name) with
    | some n => return some n
    | none => fail (.unknownCharacter (String.ofList name)) (name.length + 4)
  | _ => return none

/-- An escape of a letter that has no meaning is refused; any other character stands for itself. -/
def plainEscape (c : Char) : Reader Nat :=
  if Text.isAsciiLetter c then fail (.badEscape (escapeText [c])) 2 else return c.toNat

/-- An escape inside a class. -/
def classEscape (c : Char) : Reader ClassItem := do
  if let some n := control? c then return .code n
  if let some item := category? c then return item
  if let some n ← spelledCode? c then return .code n
  if isOctal c then
    let digits := c :: (← takeWhile isOctal 2)
    let n := octalValue digits
    if n ≤ 0o377 then return .code n
    else fail (.largeOctal (escapeText digits)) (digits.length + 1)
  if Text.isAsciiDigit c then fail (.badEscape (escapeText [c])) 2
  return .code (← plainEscape c)

/-- A group reference, or a character given by three octal digits. -/
def numberEscape (c : Char) : Reader Expr := do
  let reference (digits : List Char) : Reader Expr := do
    let index := digits.foldl (fun n c => 10 * n + (c.toNat - '0'.toNat)) 0
    if index < (← get).widths.size then
      if !(← isClosed index) then fail .openGroup (digits.length + 1)
      checkLookbehind index
      return .reference index
    else fail (.badReference index) digits.length
  match (← get).next with
  | [d] =>
    if Text.isAsciiDigit d then
      load
      match (← get).next with
      | [e] =>
        if isOctal c && isOctal d && isOctal e then
          load
          let n := octalValue [c, d, e]
          if n ≤ 0o377 then return .code n
          else fail (.largeOctal (escapeText [c, d, e])) 4
        else reference [c, d]
      | _ => reference [c, d]
    else reference [c]
  | _ => reference [c]

/-- An escape outside of a class. -/
def escape (c : Char) : Reader Expr := do
  if let some kind := anchor? c then return .anchor kind
  if let some item := category? c then return .oneOf false [item]
  if let some n := control? c then return .code n
  if let some n ← spelledCode? c then return .code n
  if c == '0' then
    return .code (octalValue (← takeWhile isOctal 2))
  if Text.isAsciiDigit c then numberEscape c
  else return .code (← plainEscape c)

/-! ### Classes -/

/-- A member of a class whose token is `token`. -/
def classMember : List Char → Reader ClassItem
  | ['\\', c] => classEscape c
  | c :: _ => return .code c.toNat
  | [] => return .code 0

/-- The members of a class that opened at `start`, up to its closing bracket. -/
def classMembers (start : Nat) : (fuel : Nat) → (items : List ClassItem) →
    Reader (List ClassItem)
  | 0, items => return items
  | fuel + 1, items => do
    let this ← take
    if this.isEmpty then failAt .unendedClass start
    if this == [']'] && !items.isEmpty then return items
    let first ← classMember this
    if ← accept '-' then
      let that ← take
      if that.isEmpty then failAt .unendedClass start
      if that == [']'] then return items ++ [first, .code '-'.toNat]
      let last ← classMember that
      let bad : Reader (List ClassItem) :=
        fail (.badRange (String.ofList this) (String.ofList that)) (this.length + 1 + that.length)
      match first, last with
      | .code low, .code high =>
        if high < low then bad else classMembers start fuel (items ++ [.range low high])
      | _, _ => bad
    else classMembers start fuel (items ++ [first])

/-- A class after its opening bracket. -/
def characterClass : Reader Expr := do
  let start := (← tell) - 1
  let negated ← accept '^'
  let items ← classMembers start ((← get).text.size + 1) []
  match negated, items.eraseDups with
  | false, [.code n] => return .code n
  | negated, items => return .oneOf negated items

/-! ### Flags -/

/-- Letters of flags after the first, `token`, up to `)`, `-` or `:`. -/
def flagsOn : (fuel : Nat) → (token : List Char) → (on : Flags) → Reader (Flags × Char)
  | 0, _, on => return (on, ')')
  | fuel + 1, token, on => do
    match token with
    | [c] =>
      if c == 'L' then fail .localeFlag
      let flag := (Flags.ofLetter? c).getD {}
      let on := on.union flag
      if on.ascii && on.unicode then fail .clashingFlags
      let after ← take
      match after with
      | [] => fail .missingFlagEnd
      | [d] =>
        if d == ')' || d == '-' || d == ':' then return (on, d)
        else if (Flags.ofLetter? d).isSome || d == 'L' then flagsOn fuel after on
        else fail (if Text.isLetter d then .unknownFlag else .missingFlagEnd) 1
      | _ => fail .missingFlagEnd after.length
    | _ => return (on, ')')

/-- Letters of flags that are turned off, up to `:`. -/
def flagsOff : (fuel : Nat) → (token : List Char) → (off : Flags) → Reader Flags
  | 0, _, off => return off
  | fuel + 1, token, off => do
    match token with
    | [c] =>
      let flag := (Flags.ofLetter? c).getD {}
      if flag.isAlphabet || c == 'L' then fail .turnedOffAlphabet
      let off := off.union flag
      let after ← take
      match after with
      | [] => fail .missingColon
      | [d] =>
        if d == ':' then return off
        else if (Flags.ofLetter? d).isSome || d == 'L' then flagsOff fuel after off
        else fail (if Text.isLetter d then .unknownFlag else .missingColon) 1
      | _ => fail .missingColon after.length
    | _ => return off

/-- Inline flags whose first token is `c`: flags for the whole pattern are kept in the state and
give nothing; flags for a group are given as those turned on and off. -/
def inlineFlags (c : Char) : Reader (Option (Flags × Flags)) := do
  let fuel := (← get).text.size + 1
  let (on, stop) ← if c == '-' then pure ({}, '-') else flagsOn fuel [c] {}
  if stop == ')' then
    modify fun s => { s with flags := s.flags.union on }
    return none
  if on.template then fail .turnedOnGlobal 1
  let off ←
    if stop == '-' then do
      let token ← take
      match token with
      | [] => fail .missingFlag
      | [d] =>
        if (Flags.ofLetter? d).isSome || d == 'L' then flagsOff fuel token {}
        else fail (if Text.isLetter d then .unknownFlag else .missingFlag) 1
      | _ => fail .missingFlag token.length
    else pure {}
  if off.template then fail .turnedOffGlobal 1
  if !(on.inter off).isEmpty then fail .turnedOnAndOff 1
  return some (on, off)

/-! ### Repetition -/

/-- A repetition, or the literal brace that is none. -/
inductive Quantifier where
  | times (least : Nat) (most : Option Nat)
  | literalBrace
deriving Repr, DecidableEq

def decimalValue (digits : List Char) : Nat :=
  digits.foldl (fun n c => 10 * n + (c.toNat - '0'.toNat)) 0

/-- The bound of a repetition that digits write. -/
def bound (digits : List Char) : Reader Nat := do
  if Text.digitLimit < digits.length then throw (.longCount digits.length)
  let n := decimalValue digits
  if repeatLimit ≤ n then throw .hugeRepeat
  return n

/-- The counts after an opening brace. -/
def braceCounts : Reader Quantifier := do
  let start ← tell
  if (← get).next == ['\x7d'] then return .literalBrace
  let fuel := (← get).text.size
  let low ← takeWhile Text.isAsciiDigit fuel
  let high ← if ← accept ',' then takeWhile Text.isAsciiDigit fuel else pure low
  if !(← accept '\x7d') then
    seek start
    return .literalBrace
  let least ← bound low
  if high.isEmpty then return .times least none
  let most ← bound high
  if most < least then failAt .fallingRepeat start
  return .times least (some most)

/-- What a repetition applies to: the last item read, unless there is none, it is an anchor, or it
is a repetition itself. -/
def repeatable (items : List Expr) (place : Nat) : Reader Expr :=
  match items with
  | [] => failAt .nothingToRepeat place
  | .anchor _ :: _ => failAt .nothingToRepeat place
  | .repeated .. :: _ => failAt .multipleRepeat place
  | item :: _ => return item

/-- How a repetition that was just read chooses its rounds. -/
def greed : Reader Greed := do
  if ← accept '?' then return .reluctant
  if ← accept '+' then return .possessive
  return .greedy

/-! ### Groups and sequences -/

/-- Skips a comment of verbose form, up to the end of its line. -/
def skipLine : (fuel : Nat) → Reader Unit
  | 0 => return
  | fuel + 1 => do
    let token ← take
    if token.isEmpty || token == ['\n'] then return else skipLine fuel

/-- Skips a comment group that opened at `start`. -/
def skipComment (start : Nat) : (fuel : Nat) → Reader Unit
  | 0 => return
  | fuel + 1 => do
    if (← get).next.isEmpty then failAt .unendedComment start
    if (← take) == [')'] then return else skipComment start fuel

/-- The closing parenthesis of the group that opened at `start`. -/
def close (start : Nat) : Reader Unit := do
  if !(← accept ')') then failAt .unendedGroup start

/-- The whole number that a condition's text writes: blanks around it, a sign, and underscores
between digits are allowed, but not too many digits. -/
def conditionNumber? (cs : List Char) : Option Int :=
  let cs := Text.trim cs
  let (negative, digits) :=
    match cs with
    | '-' :: rest => (true, rest)
    | '+' :: rest => (false, rest)
    | _ => (false, cs)
  let parts := digits.splitOn '_'
  if parts.all (fun part => !part.isEmpty && part.all Text.isDigit) &&
      parts.flatten.length ≤ Text.digitLimit then
    let n := (parts.flatten).foldl (fun n c => 10 * n + (Text.digitValue? c).getD 0) 0
    some (if negative then -n else n)
  else none

/-- The group that a condition names. -/
def conditionGroup : Reader Nat := do
  let cs ← name ')' "group name"
  let text := String.ofList cs
  let back := cs.length + 1
  if Text.isName cs then
    match (← get).names.lookup text with
    | some index => return index
    | none => fail (.unknownGroup text) back
  else
    match conditionNumber? cs with
    | none => fail (.badGroupName text) back
    | some n =>
      if n < 0 then fail (.badGroupName text) back
      let index := n.toNat
      if index == 0 then fail .zeroGroup back
      if Nat.pow 2 30 ≤ index + 1 then fail (.badReference index) back
      let place := (← tell) - back
      modify fun s =>
        if (s.conditions.lookup index).isSome then s
        else { s with conditions := s.conditions ++ [(index, place)] }
      return index

/-- The kinds of parenthesis. -/
inductive Opening where
  | nothing
  | capture (name : Option String)
  | scoped (on off : Flags)
  | atomic
  | look (behind negated : Bool)
  | conditional
  | reference (index : Nat)
deriving Repr, DecidableEq

/-- What follows `(?P`. -/
def namedOpening : Reader Opening := do
  if ← accept '<' then return .capture (some (← groupName '>'))
  if ← accept '=' then
    let name ← groupName ')'
    match (← get).names.lookup name with
    | none => fail (.unknownGroup name) (name.length + 1)
    | some index =>
      if !(← isClosed index) then fail .openGroup (name.length + 1)
      checkLookbehind index
      return .reference index
  let token ← take
  if token.isEmpty then fail .unexpectedEnd
  fail (.unknownExtension ("?P" ++ String.ofList token)) (token.length + 2)

/-- What kind of parenthesis opened at `start`; `atStart` says that nothing stands before it in the
pattern, so that it may set flags for the whole of it. -/
def opening (start : Nat) (atStart : Bool) : Reader Opening := do
  if !(← accept '?') then return .capture none
  let token ← take
  match token with
  | [] => fail .unexpectedEnd
  | ['P'] => namedOpening
  | [':'] => return .scoped {} {}
  | ['#'] =>
    skipComment start ((← get).text.size + 1)
    return .nothing
  | ['='] => return .look false false
  | ['!'] => return .look false true
  | ['<'] =>
    match ← take with
    | [] => fail .unexpectedEnd
    | ['='] => return .look true false
    | ['!'] => return .look true true
    | token => fail (.unknownExtension ("?<" ++ String.ofList token)) (token.length + 2)
  | ['('] => return .conditional
  | ['>'] => return .atomic
  | [c] =>
    if (Flags.ofLetter? c).isSome || c == 'L' || c == '-' then
      match ← inlineFlags c with
      | some (on, off) => return .scoped on off
      | none => if atStart then return .nothing else failAt .lateFlags start
    else fail (.unknownExtension ("?" ++ String.ofList [c])) 2
  | token => fail (.unknownExtension ("?" ++ String.ofList token)) (token.length + 1)

/-- What stands between parentheses that were opened at `place`; nothing if it only sets flags or is
a comment. `alternatives` reads the body of a group, in verbose form or not, and `branch` one of the
two that a condition chooses from. -/
def construct (alternatives : Bool → Reader Expr) (branch : Reader Expr) (verbose : Bool)
    (place : Nat) : Opening → Reader (Option Expr)
  | .nothing => return none
  | .reference index => return some (.reference index)
  | .look behind negated => do
    let before := (← get).lookbehind
    if behind && before.isNone then
      modify fun s => { s with lookbehind := some s.widths.size }
    let body ← alternatives verbose
    if behind && before.isNone then
      modify fun s => { s with lookbehind := none }
    close place
    return some (.look behind negated body)
  | .conditional => do
    let index ← conditionGroup
    checkLookbehind index
    let yes ← branch
    let no ←
      if ← accept '|' then do
        let no ← branch
        if (← get).next == ['|'] then fail .threeBranches
        pure no
      else pure .empty
    close place
    return some (.conditional index yes no)
  | .atomic => do
    let body ← alternatives verbose
    close place
    return some (.atomic body)
  | .scoped on off => do
    let body ← alternatives ((verbose || on.verbose) && !off.verbose)
    close place
    return some (.scoped on off body)
  | .capture name => do
    let index ← openGroup name
    let body ← alternatives verbose
    close place
    closeGroup index body
    return some (.group index body)

/-- The counts of a repetition, if a character can start one. -/
def quantifier? : Char → Option (Reader Quantifier)
  | '?' => some (return .times 0 (some 1))
  | '*' => some (return .times 0 none)
  | '+' => some (return .times 1 none)
  | '\x7b' => some braceCounts
  | _ => none

mutual

/-- Alternatives up to a closing parenthesis or the end. At the outermost level each alternative
after the first takes verbose form from the flags of the whole pattern. -/
def alternatives (outer verbose : Bool) : (fuel : Nat) → (read : List Expr) → Reader Expr
  | 0, read => return .ofAlternatives read
  | fuel + 1, read => do
    let verbose ←
      if outer && !read.isEmpty then pure (← get).flags.verbose else pure verbose
    let item ← sequence (outer && read.isEmpty) verbose fuel []
    if ← accept '|' then alternatives outer verbose fuel (read ++ [item])
    else return .ofAlternatives (read ++ [item])

/-- A sequence of items; `items` are those read, the last one first. -/
def sequence (first verbose : Bool) : (fuel : Nat) → (items : List Expr) → Reader Expr
  | 0, items => return .ofList items.reverse
  | fuel + 1, items => do
    let next := (← get).next
    if next.isEmpty || next == ['|'] || next == [')'] then return .ofList items.reverse
    let place ← tell
    load
    match next with
    | [c] =>
      if verbose && Text.isPlainBlank c then sequence first verbose fuel items
      else if verbose && c == '#' then
        skipLine ((← get).text.size + 1)
        sequence first verbose fuel items
      else
        match c with
        | '[' => sequence first verbose fuel ((← characterClass) :: items)
        | '.' => sequence first verbose fuel (.any :: items)
        | '^' => sequence first verbose fuel (.anchor .lineStart :: items)
        | '$' => sequence first verbose fuel (.anchor .lineEnd :: items)
        | '(' =>
          let kind ← opening place (first && items.isEmpty)
          let body := fun verbose => alternatives false verbose fuel []
          match ← construct body (sequence false verbose fuel []) verbose place kind with
          | none =>
            let flags := (← get).flags
            sequence first (verbose || (first && items.isEmpty && flags.verbose)) fuel items
          | some item => sequence first verbose fuel (item :: items)
        | _ =>
          match quantifier? c with
          | none => sequence first verbose fuel (.code c.toNat :: items)
          | some quantifier =>
            match ← quantifier with
            | .literalBrace => sequence first verbose fuel (.code c.toNat :: items)
            | .times least most =>
              let item ← repeatable items place
              let repetition := Expr.repeated item least most (← greed)
              sequence first verbose fuel (repetition :: items.tail)
    | ['\\', c] => sequence first verbose fuel ((← escape c) :: items)
    | _ => sequence first verbose fuel items

end

/-- A condition may name a group that opens after it, but not one that never does. -/
def checkConditions : List (Nat × Nat) → Reader Unit
  | [] => return
  | (index, place) :: rest => do
    if (← get).widths.size ≤ index then failAt (.badReference index) place
    checkConditions rest

/-- A whole pattern. -/
def pattern : Reader Expr := do
  load
  let body ← alternatives true false (4 * (← get).text.size + 4) []
  let flags := (← get).flags
  if flags.ascii && flags.unicode then throw .twoAlphabets
  if !(← get).next.isEmpty then fail .unbalanced
  checkConditions (← get).conditions
  return body

end Reader

/-- The expression that a text spells, and what was learnt of it on the way. -/
def read (text : String) : Except Fault (Expr × ReaderState) :=
  Reader.pattern.run { text := text.toList.toArray }

end RaggedTables.Pattern
