import RaggedTables.Page.Element
import RaggedTables.Selector.Matching
import RaggedTables.XPath.Evaluation

/-! Lookups that state how many matches they expect. A table that has moved or vanished shows up as
a wrong number of matches where it is looked for. A selector that cannot be read counts as one
without matches, and is always refused. -/

namespace RaggedTables

/-- The fewest and the most matches that are accepted. -/
structure Bounds where
  least : Int := 1
  most : Option Int := none
deriving Repr, DecidableEq, Inhabited

/-- Whether a number of matches is accepted. -/
def Bounds.allows (bounds : Bounds) (count : Nat) : Bool :=
  decide (bounds.least ≤ count) && bounds.most.all fun most => decide ((count : Int) ≤ most)

/-- What is looked for, and in which language. -/
structure Wanted where
  selector : String
  language : String
  description : String
  bounds : Bounds
deriving Repr, DecidableEq, Inhabited

/-- The report of a wrong number of matches. -/
def Wanted.missed (wanted : Wanted) (count : Nat) (url : String) : Fault :=
  .report (.structure wanted.selector wanted.language wanted.description wanted.bounds.least
    wanted.bounds.most count url)

/-- The matches, if their number is accepted. -/
def Wanted.check (wanted : Wanted) (url : String) (found : Option (List α)) :
    Except Fault (List α) :=
  match found with
  | none => .error (wanted.missed 0 url)
  | some found =>
    if wanted.bounds.allows found.length then .ok found else .error (wanted.missed found.length url)

theorem Wanted.check_least (selector language description url : String) (found : List α) :
    Wanted.check ⟨selector, language, description, { least := 0 }⟩ url (some found) =
      .ok found := by
  rw [Wanted.check, if_pos]
  simp [Bounds.allows]

namespace PageElement

/-- The elements that a CSS selector selects from an element, in document order. -/
def select? (e : PageElement) (selector : String) : Option (List PageElement) :=
  (Selector.read? selector).map fun selector =>
    e.others (selector.select e.document e.place)

/-- The elements that a CSS selector selects, as many as expected. -/
def select (e : PageElement) (selector description : String) (bounds : Bounds) :
    Except Fault (List PageElement) :=
  Wanted.check ⟨selector, "css", description, bounds⟩ e.url (e.select? selector)

/-- The elements that an XPath expression finds from an element. -/
def find? (e : PageElement) (path : String) : Option (List PageElement) :=
  (XPath.Expr.read? path).bind fun expr => (expr.elements? e.document e.place).map e.others

/-- The elements that an XPath expression finds, as many as expected. -/
def find (e : PageElement) (path description : String) (bounds : Bounds) :
    Except Fault (List PageElement) :=
  Wanted.check ⟨path, "xpath", description, bounds⟩ e.url (e.find? path)

/-- The texts that an XPath expression finds from an element. -/
def findText? (e : PageElement) (path : String) : Option (List String) :=
  (XPath.Expr.read? path).bind fun expr => expr.texts? e.document e.place

/-- The texts that an XPath expression finds, as many as expected. -/
def findText (e : PageElement) (path description : String) (bounds : Bounds) :
    Except Fault (List String) :=
  Wanted.check ⟨path, "xpath", description, bounds⟩ e.url (e.findText? path)

end PageElement

end RaggedTables
