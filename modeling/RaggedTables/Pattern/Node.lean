import RaggedTables.Pattern.Expr
import RaggedTables.Pattern.Fault
import RaggedTables.Text.Blank
import RaggedTables.Text.CaseMap
import RaggedTables.Text.Letter

/-! Patterns ready for matching. Every flag has been carried to the places it changes, and every
lookbehind knows how far it looks back. -/

namespace RaggedTables.Pattern

/-- Which letters count as equal. -/
inductive CaseRule where
  | exact
  | ascii
  | unicode
deriving Repr, DecidableEq, Inhabited

/-- The lower case of a letter of ASCII. -/
def lowerAscii (n : Nat) : Nat := if 0x41 ≤ n ∧ n ≤ 0x5a then n + 32 else n

/-- Equal under the rule. -/
def CaseRule.same : CaseRule → Nat → Nat → Bool
  | .exact, a, b => a == b
  | .ascii, a, b => lowerAscii a == lowerAscii b
  | .unicode, a, b => Text.sameLetter a b

/-- The lower case that a repeated group is compared by. -/
def CaseRule.fold : CaseRule → Nat → Nat
  | .exact, a => a
  | .ascii, a => lowerAscii a
  | .unicode, a => Text.lowerCode a

/-- Some character from `first` to `last` equals `n` under the rule. -/
def CaseRule.inRange (rule : CaseRule) (first last n : Nat) : Bool :=
  (first ≤ n && n ≤ last) ||
    match rule with
    | .exact => false
    | .ascii =>
      let low := lowerAscii n
      (first ≤ low && low ≤ last) ||
        (0x61 ≤ low && low ≤ 0x7a && first ≤ low - 32 && low - 32 ≤ last)
    | .unicode => (Text.letterClass n).any fun m => first ≤ m && m ≤ last

/-- Whether `c` is of a category, among the characters of ASCII alone or among all. -/
def Category.holds (ascii : Bool) : Category → Char → Bool
  | .digit, c => if ascii then Text.isAsciiDigit c else Text.isDigit c
  | .blank, c => if ascii then Text.isPlainBlank c else Text.isBlank c
  | .word, c => if ascii then Text.isAsciiWord c else Text.isWord c

/-- A code point with another case, in one alphabet or the other. -/
def isCasedCode (ascii : Bool) (n : Nat) : Bool :=
  if ascii then lowerAscii n != n || (0x61 ≤ n && n ≤ 0x7a) else Text.isCased n

/-- A member of a class that may match letters of two cases. -/
def ClassItem.isCased (ascii : Bool) : ClassItem → Bool
  | .code n => isCasedCode ascii n
  | .range first last =>
    0xffff < last || (List.range (last - first + 1)).any fun i => isCasedCode ascii (first + i)
  | .category .. => false

/-- A test on one character. -/
structure OneChar where
  negated : Bool := false
  items : List ClassItem
  rule : CaseRule := .exact
  ascii : Bool := false
deriving Repr, DecidableEq, Inhabited

def ClassItem.holds (rule : CaseRule) (ascii : Bool) (c : Char) : ClassItem → Bool
  | .code n => rule.same c.toNat n
  | .range first last => rule.inRange first last c.toNat
  | .category kind negated => kind.holds ascii c != negated

def OneChar.accepts (test : OneChar) (c : Char) : Bool :=
  test.items.any (ClassItem.holds test.rule test.ascii c) != test.negated

/-- A pattern ready for matching. -/
inductive Node where
  | empty
  | one (test : OneChar)
  | any (newline : Bool)
  | anchor (kind : Anchor) (multiline ascii : Bool)
  | seq (first second : Node)
  | alt (first second : Node)
  | group (index : Nat) (body : Node)
  | repeated (body : Node) (least : Nat) (most : Option Nat) (greed : Greed)
  | reference (index : Nat) (rule : CaseRule)
  | ahead (negated : Bool) (body : Node)
  | behind (negated : Bool) (distance : Nat) (body : Node)
  | atomic (body : Node)
  | conditional (index : Nat) (whenSet whenUnset : Node)
deriving Repr, DecidableEq, Inhabited

def Flags.caseRule (flags : Flags) : CaseRule :=
  if !flags.ignoreCase then .exact else if flags.ascii then .ascii else .unicode

/-- The name of a repetition in the refusal of the template flag. -/
def Greed.operator : Greed → String
  | .greedy => "MAX_REPEAT"
  | .reluctant => "MIN_REPEAT"
  | .possessive => "POSSESSIVE_REPEAT"

/-- The distance that a lookbehind of a width looks back. -/
def Width.distance (w : Width) : Except Problem Nat :=
  if Nat.pow 2 32 ≤ w.least then .error .deepLookbehind
  else if w.least ≠ w.most then .error .variableLookbehind
  else .ok w.least

/-- The node of an expression under `flags`, its groups having the widths `groups`. -/
def Expr.toNode (groups : Nat → Width) : Flags → Expr → Except Problem Node
  | _, .empty => .ok .empty
  | flags, .code n =>
    .ok (.one { items := [.code n], rule := flags.caseRule, ascii := flags.ascii })
  | flags, .oneOf negated items =>
    .ok (.one { negated, items, rule := flags.caseRule, ascii := flags.ascii })
  | flags, .any => .ok (.any flags.dotAll)
  | flags, .anchor kind => .ok (.anchor kind flags.multiline flags.ascii)
  | flags, .seq a b => do return .seq (← a.toNode groups flags) (← b.toNode groups flags)
  | flags, .alt a b => do return .alt (← a.toNode groups flags) (← b.toNode groups flags)
  | flags, .group index body => do return .group index (← body.toNode groups flags)
  | flags, .scoped on off body => body.toNode groups (flags.enter on off)
  | flags, .repeated body least most greed => do
    if flags.template then throw (.templateRepeat greed.operator)
    return .repeated (← body.toNode groups flags) least most greed
  | flags, .reference index => .ok (.reference index flags.caseRule)
  | flags, .look false negated body => do return .ahead negated (← body.toNode groups flags)
  | flags, .look true negated body => do
    let distance ← (body.width groups).distance
    return .behind negated distance (← body.toNode groups flags)
  | flags, .atomic body => do return .atomic (← body.toNode groups flags)
  | flags, .conditional index a b => do
    return .conditional index (← a.toNode groups flags) (← b.toNode groups flags)

end RaggedTables.Pattern
