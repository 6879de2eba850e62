/-! Patterns as they are written: the expression that a pattern's text spells, its flags, and how
many characters it can match. -/

namespace RaggedTables.Pattern

/-- A class of characters with a letter of its own. -/
inductive Category where
  | digit
  | blank
  | word
deriving Repr, DecidableEq, Inhabited

/-- A member of a character class. Characters are code points: a pattern can name a surrogate, which
no text holds. -/
inductive ClassItem where
  | code (n : Nat)
  | range (first last : Nat)
  | category (kind : Category) (negated : Bool)
deriving Repr, DecidableEq, Inhabited

/-- A condition on a place in the text. -/
inductive Anchor where
  | lineStart
  | lineEnd
  | textStart
  | textEnd
  | boundary
  | notBoundary
deriving Repr, DecidableEq, Inhabited

/-- How a repetition chooses its number of rounds. -/
inductive Greed where
  | greedy
  | reluctant
  | possessive
deriving Repr, DecidableEq, Inhabited

/-- The letters of inline flags, without the one that text patterns refuse. -/
structure Flags where
  ignoreCase : Bool := false
  multiline : Bool := false
  dotAll : Bool := false
  verbose : Bool := false
  ascii : Bool := false
  unicode : Bool := false
  template : Bool := false
deriving Repr, DecidableEq, Inhabited

namespace Flags

/-- The flags of either. -/
def union (a b : Flags) : Flags where
  ignoreCase := a.ignoreCase || b.ignoreCase
  multiline := a.multiline || b.multiline
  dotAll := a.dotAll || b.dotAll
  verbose := a.verbose || b.verbose
  ascii := a.ascii || b.ascii
  unicode := a.unicode || b.unicode
  template := a.template || b.template

/-- The flags of both. -/
def inter (a b : Flags) : Flags where
  ignoreCase := a.ignoreCase && b.ignoreCase
  multiline := a.multiline && b.multiline
  dotAll := a.dotAll && b.dotAll
  verbose := a.verbose && b.verbose
  ascii := a.ascii && b.ascii
  unicode := a.unicode && b.unicode
  template := a.template && b.template

def isEmpty (a : Flags) : Bool := a == {}

/-- Says which characters are letters and digits. -/
def isAlphabet (a : Flags) : Bool := a.ascii || a.unicode

/-- The flags inside a group that turns `on` and `off`; a new alphabet replaces the old one. -/
def enter (a on off : Flags) : Flags :=
  let base := if on.isAlphabet then { a with ascii := false, unicode := false } else a
  let all := base.union on
  { ignoreCase := all.ignoreCase && !off.ignoreCase
    multiline := all.multiline && !off.multiline
    dotAll := all.dotAll && !off.dotAll
    verbose := all.verbose && !off.verbose
    ascii := all.ascii && !off.ascii
    unicode := all.unicode && !off.unicode
    template := all.template && !off.template }

/-- The flag of a letter. -/
def ofLetter? : Char → Option Flags
  | 'i' => some { ignoreCase := true }
  | 'm' => some { multiline := true }
  | 's' => some { dotAll := true }
  | 'x' => some { verbose := true }
  | 'a' => some { ascii := true }
  | 't' => some { template := true }
  | 'u' => some { unicode := true }
  | _ => none

end Flags

/-- A pattern as it is written. -/
inductive Expr where
  | empty
  | code (n : Nat)
  | oneOf (negated : Bool) (items : List ClassItem)
  | any
  | anchor (kind : Anchor)
  | seq (first second : Expr)
  | alt (first second : Expr)
  | group (index : Nat) (body : Expr)
  | scoped (on off : Flags) (body : Expr)
  | repeated (body : Expr) (least : Nat) (most : Option Nat) (greed : Greed)
  | reference (index : Nat)
  | look (behind negated : Bool) (body : Expr)
  | atomic (body : Expr)
  | conditional (index : Nat) (whenSet whenUnset : Expr)
deriving Repr, DecidableEq, Inhabited

namespace Expr

/-- One expression after another. -/
def ofList : List Expr → Expr
  | [] => .empty
  | [e] => e
  | e :: rest => .seq e (ofList rest)

/-- A choice between alternatives. -/
def ofAlternatives : List Expr → Expr
  | [] => .empty
  | [e] => e
  | e :: rest => .alt e (ofAlternatives rest)

end Expr

/-- The least and the greatest number of characters that an expression matches. -/
structure Width where
  least : Nat
  most : Nat
deriving Repr, DecidableEq, Inhabited

/-- Stands for "no limit" in a width. -/
def unlimited : Nat := Nat.pow 2 64

/-- Repetition counts are below this number. -/
def repeatLimit : Nat := Nat.pow 2 32 - 1

namespace Width

def zero : Width := ⟨0, 0⟩
def one : Width := ⟨1, 1⟩

def cap (w : Width) : Width := ⟨min w.least unlimited, min w.most unlimited⟩

def add (a b : Width) : Width := cap ⟨a.least + b.least, a.most + b.most⟩

def union (a b : Width) : Width := ⟨min a.least b.least, max a.most b.most⟩

/-- The width of `least` to `most` rounds. -/
def times (w : Width) (least : Nat) (most : Option Nat) : Width :=
  cap ⟨w.least * least,
    match most with
    | none => if w.most = 0 then 0 else unlimited
    | some n => w.most * n⟩

end Width

/-- The width of an expression whose groups have the widths `groups`. -/
def Expr.width (groups : Nat → Width) : Expr → Width
  | .empty | .anchor _ | .look .. => .zero
  | .code _ | .oneOf .. | .any => .one
  | .seq a b => (a.width groups).add (b.width groups)
  | .alt a b => (a.width groups).union (b.width groups)
  | .group _ body | .scoped _ _ body | .atomic body => body.width groups
  | .repeated body least most _ => (body.width groups).times least most
  | .reference index => groups index
  | .conditional _ a b => (a.width groups).union (b.width groups)

end RaggedTables.Pattern
