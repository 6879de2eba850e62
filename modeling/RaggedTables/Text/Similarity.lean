/-! How alike two texts are. The longest part that they have in common is matched, then in the same
way what stands before it and what stands after it; the matched characters are counted. -/

namespace RaggedTables.Text

/-- How many characters two texts have in common at their fronts. -/
def commonFront : List Char → List Char → Nat
  | a :: as, b :: bs => if a = b then commonFront as bs + 1 else 0
  | _, _ => 0

/-- A part that two texts have in common: where it starts in each, and its length. -/
structure Common where
  first : Nat
  second : Nat
  length : Nat
deriving Repr, DecidableEq

/-- The longest common part, the earliest in the first text and then in the second. -/
def longestCommon (a b : List Char) : Common :=
  let starts := (List.range a.length).flatMap fun i => (List.range b.length).map fun j => (i, j)
  starts.foldl (fun best (i, j) =>
    let length := commonFront (a.drop i) (b.drop j)
    if best.length < length then ⟨i, j, length⟩ else best) ⟨0, 0, 0⟩

/-- How many characters of two texts are matched. -/
def matched : (fuel : Nat) → List Char → List Char → Nat
  | 0, _, _ => 0
  | fuel + 1, a, b =>
    let common := longestCommon a b
    if common.length = 0 then 0
    else
      common.length + matched fuel (a.take common.first) (b.take common.second) +
        matched fuel (a.drop (common.first + common.length))
          (b.drop (common.second + common.length))

/-- How alike two texts are: of all their characters, how many are matched. -/
structure Likeness where
  hits : Nat
  total : Nat
deriving Repr, DecidableEq

def likeness (a b : String) : Likeness where
  hits := 2 * matched (a.length + 1) a.toList b.toList
  total := a.length + b.length

/-- Whether three characters in five are matched. -/
def Likeness.isClose (l : Likeness) : Bool := 3 * l.total ≤ 5 * l.hits

/-- Whether one likeness is greater than another. -/
def Likeness.exceeds (a b : Likeness) : Bool := b.hits * a.total < a.hits * b.total

/-- The three choices that are most like a word, as far as they are close to it, the closest first.
-/
def closeMatches (word : String) (choices : List String) : List String :=
  let close := (choices.map fun choice => (likeness choice word, choice)).filter fun entry =>
    entry.1.isClose
  ((close.mergeSort fun a b => a.1.exceeds b.1 || (!b.1.exceeds a.1 && b.2 ≤ a.2)).take 3).map
    Prod.snd

end RaggedTables.Text
