import RaggedTables.Markup.Tree

/-! Sets of places in document order. -/

namespace RaggedTables.Markup

/-- A list whose neighbours differ. -/
def withoutRepeats [DecidableEq α] : List α → List α
  | a :: b :: rest => if a = b then withoutRepeats (b :: rest) else a :: withoutRepeats (b :: rest)
  | items => items

/-- Items in the order of `le`, each once. -/
def arrange [DecidableEq α] (le : α → α → Bool) (items : List α) : List α :=
  withoutRepeats (items.mergeSort le)

/-- Whether a place comes no later than another. -/
def noLater (a b : Place) : Bool := comparePlaces a b != .gt

/-- Places in document order, each once. -/
def inOrder (places : List Place) : List Place := arrange noLater places

/-- The elements among placed nodes. -/
def elementsOf (found : List (Place × Node)) : List (Place × Node) :=
  found.filter fun entry => entry.2.isElement

end RaggedTables.Markup
