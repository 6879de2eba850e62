import RaggedTables.Pattern.Node

/-! Matching a node against a text by trying its choices in order. A node is run with what is to
match after it, so that a later failure goes back to the nearest choice that is left. -/

namespace RaggedTables.Pattern

/-- The characters from `start` up to, not including, `stop`. -/
structure Span where
  start : Nat
  stop : Nat
deriving Repr, DecidableEq, Inhabited

/-- A place in the text, and the spans of the groups matched on the way, the latest first. -/
structure Progress where
  place : Nat
  groups : List (Nat × Span) := []
deriving Repr, DecidableEq, Inhabited

/-- What is to match after a node. -/
abbrev Rest := Progress → Option Progress

/-- A character before or after a place is a letter, digit or underscore. -/
def wordAt (ascii : Bool) (text : Array Char) (i : Nat) : Bool :=
  match text[i]? with
  | some c => Category.word.holds ascii c
  | none => false

/-- The word characters on the two sides of a place differ. -/
def atBoundary (ascii : Bool) (text : Array Char) (place : Nat) : Bool :=
  (0 < place && wordAt ascii text (place - 1)) != wordAt ascii text place

/-- Whether an anchor holds at a place. In an empty text no place is a boundary and none is not. -/
def Anchor.holds (kind : Anchor) (multiline ascii : Bool) (text : Array Char) (place : Nat) :
    Bool :=
  match kind with
  | .textStart => place == 0
  | .textEnd => place == text.size
  | .lineStart => place == 0 || (multiline && text[place - 1]? == some '\n')
  | .lineEnd =>
    place == text.size ||
      (text[place]? == some '\n' && (multiline || place + 1 == text.size))
  | .boundary => !text.isEmpty && atBoundary ascii text place
  | .notBoundary => !text.isEmpty && !atBoundary ascii text place

/-- One more round is within the limit. -/
def below : Option Nat → Nat → Bool
  | none, _ => true
  | some most, count => count < most

/-- Rounds of `step` before `rest`. After the required rounds a further one is tried only where the
last such round did not start, so that empty rounds end. -/
def iterate (step : Rest → Progress → Option Progress) (least : Nat) (most : Option Nat)
    (greed : Greed) (rest : Rest) : (fuel count : Nat) → (last : Option Nat) → Rest
  | 0, _, _, _ => none
  | fuel + 1, count, last, p =>
    if count < least then
      match greed with
      | .possessive => (step some p).bind (iterate step least most greed rest fuel (count + 1) last)
      | _ => step (iterate step least most greed rest fuel (count + 1) last) p
    else
      let open? := below most count && last != some p.place
      let again := iterate step least most greed rest fuel (count + 1) (some p.place)
      match greed with
      | .greedy =>
        if open? then
          match step again p with
          | some q => some q
          | none => rest p
        else rest p
      | .reluctant =>
        match rest p with
        | some q => some q
        | none => if open? then step again p else none
      | .possessive =>
        if open? then
          match step some p with
          | some q => again q
          | none => rest p
        else rest p

/-- The text at `place` repeats a span of it. -/
def repeats (rule : CaseRule) (text : Array Char) (span : Span) (place : Nat) : Bool :=
  place + (span.stop - span.start) ≤ text.size &&
    (List.range (span.stop - span.start)).all fun i =>
      match text[span.start + i]?, text[place + i]? with
      | some a, some b => rule.fold a.toNat == rule.fold b.toNat
      | _, _ => false

/-- Runs a node and then `rest`. -/
def Node.run (text : Array Char) : Node → Rest → Progress → Option Progress
  | .empty, rest, p => rest p
  | .one test, rest, p =>
    match text[p.place]? with
    | some c => if test.accepts c then rest { p with place := p.place + 1 } else none
    | none => none
  | .any newline, rest, p =>
    match text[p.place]? with
    | some c => if newline || c != '\n' then rest { p with place := p.place + 1 } else none
    | none => none
  | .anchor kind multiline ascii, rest, p =>
    if kind.holds multiline ascii text p.place then rest p else none
  | .seq a b, rest, p => a.run text (b.run text rest) p
  | .alt a b, rest, p =>
    match a.run text rest p with
    | some q => some q
    | none => b.run text rest p
  | .group index body, rest, p =>
    body.run text (fun q => rest { q with groups := (index, ⟨p.place, q.place⟩) :: q.groups }) p
  | .repeated body least most greed, rest, p =>
    iterate (body.run text) least most greed rest (least + text.size + 2 - p.place) 0 none p
  | .reference index rule, rest, p =>
    match p.groups.lookup index with
    | some span =>
      if repeats rule text span p.place then
        rest { p with place := p.place + (span.stop - span.start) }
      else none
    | none => none
  | .ahead negated body, rest, p =>
    match body.run text some p with
    | some q => if negated then none else rest { q with place := p.place }
    | none => if negated then rest p else none
  | .behind negated distance body, rest, p =>
    if distance ≤ p.place then
      match body.run text some { p with place := p.place - distance } with
      | some q => if negated then none else rest { q with place := p.place }
      | none => if negated then rest p else none
    else if negated then rest p
    else none
  | .atomic body, rest, p => (body.run text some p).bind rest
  | .conditional index a b, rest, p =>
    match p.groups.lookup index with
    | some _ => a.run text rest p
    | none => b.run text rest p

/-- A match: what it spans and what its groups do. -/
structure Found where
  span : Span
  groups : List (Nat × Span)
deriving Repr, DecidableEq, Inhabited

/-- The match that starts at `start`; `advance` refuses an empty one. -/
def Node.matchAt? (node : Node) (text : Array Char) (start : Nat) (advance : Bool) :
    Option Found :=
  (node.run text (fun p => if advance && p.place == start then none else some p)
    { place := start }).map fun p => ⟨⟨start, p.place⟩, p.groups⟩

/-- The first match at `start` or after; `advance` refuses an empty one at `start` itself. -/
def Node.searchFrom (node : Node) (text : Array Char) : (fuel start : Nat) → (advance : Bool) →
    Option Found
  | 0, _, _ => none
  | fuel + 1, start, advance =>
    match node.matchAt? text start advance with
    | some found => some found
    | none => if start < text.size then node.searchFrom text fuel (start + 1) false else none

/-- All matches that `split` cuts at: each search starts where the last match ended, and an empty
match there is refused when the last one was empty. -/
def Node.cutsFrom (node : Node) (text : Array Char) : (fuel start : Nat) → (advance : Bool) →
    List Found
  | 0, _, _ => []
  | fuel + 1, start, advance =>
    match node.searchFrom text (text.size + 1 - start) start advance with
    | none => []
    | some found =>
      found :: node.cutsFrom text fuel found.span.stop (found.span.stop == found.span.start)

end RaggedTables.Pattern
