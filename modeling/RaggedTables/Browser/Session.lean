import RaggedTables.Browser.Page

/-! Sessions. A session keeps the page that lookups use when they are given none, and closes the
browser early when it is asked to, unless the browser shows a window. -/

namespace RaggedTables.Browser

/-- What is asked of the browser. -/
inductive Call where
  | start
  | launch (browserType : Value) (headless : Value)
  | newContext (options : Fields String Value)
  | goTo (url : String)
  | close
  | stop
deriving Inhabited

/-- A session: whether the browser is without a window, the current page, whether the session has
closed the browser, the pages opened so far, and the calls that the session has made. -/
structure Session where
  headless : Value
  current : Option LivePage := none
  closed : Bool := false
  pages : List LivePage := []
  calls : List Call := []
deriving Inhabited

/-- How a step names where to search: an opened page by its number among those opened, or the first
element that a selector reaches on it. -/
inductive Ancestor where
  | page (number : Int)
  | element (number : Int) (selector : String)
deriving Repr, DecidableEq, Inhabited

/-- One step of a session. Pages are named by their number among those opened. -/
inductive Step where
  | fetchPage (url : String) (setCurrent : Bool)
  | withPage (page : Int)
  | getElement (selector : String) (ancestor : Option Ancestor)
  | getElements (selector : String) (ancestor : Option Ancestor)
  | findElement (element : Option String) (page : Option Int)
  | getAttribute (element : Option String) (name : String) (page : Option Int)
  | getText (element : Option String) (page : Option Int)
  | snapshot (page : Option Int)
  | snapshotSelect (selector : String) (page : Option Int)
  | done
deriving Repr, DecidableEq, Inhabited

/-- What something is asked of: an element, or a selector for one, or nothing at all. -/
inductive Target where
  | nothing
  | selector (selector : String)
  | element (e : LiveElement)
deriving Inhabited

/-- What a step answers. -/
inductive Answer where
  | nothing
  | address (url : String)
  | element (e : LiveElement)
  | elements (found : List LiveElement)
  | value (v : Value)
  | parsed (e : PageElement)
  | selected (found : List PageElement)
deriving Inhabited

namespace Session

def refuse (message : String) : Except Fault α := .error (.report (.session message []))

/-- An opened page by its number; a negative number counts from the last one. -/
def page (session : Session) (number : Int) : Except Fault LivePage :=
  let i := if number < 0 then number + session.pages.length else number
  match if i < 0 then none else session.pages[i.toNat]? with
  | some page => .ok page
  | none => .error .outOfRange

/-- An opened page, if one is named. -/
def page? (session : Session) : Option Int → Except Fault (Option LivePage)
  | none => .ok none
  | some number => do return some (← session.page number)

/-- Where to search, if a step names it; an element that is not found counts as not named. -/
def ancestor? (session : Session) : Option Ancestor → Except Fault (Option SearchRoot)
  | none => .ok none
  | some (.page number) => do return some (.page (← session.page number))
  | some (.element number selector) => do
    return ((← session.page number).query? selector).map .element

/-- Where a lookup searches: what it is given, else the current page. -/
def searchRoot (session : Session) (given : Option SearchRoot) : Except Fault SearchRoot :=
  match given, session.current with
  | some root, _ => .ok root
  | none, some page => .ok (.page page)
  | none, none => refuse "No ancestor given and no current page set"

/-- Every element that a selector reaches. -/
def getElements (session : Session) (selector : String) (given : Option SearchRoot) :
    Except Fault (List LiveElement) :=
  if selector.isEmpty then refuse "No selector given"
  else do return (← session.searchRoot given).queryAll selector

/-- The first element that a selector reaches. -/
def getElement (session : Session) (selector : String) (given : Option SearchRoot) :
    Except Fault (Option LiveElement) := do
  return (← session.getElements selector given).head?

/-- The element that is meant: an element itself, or the one that a selector reaches on the current
page, where it has to be. -/
def findElement (session : Session) : Target → Except Fault LiveElement
  | .nothing => refuse "No element given"
  | .element e => .ok e
  | .selector selector =>
    if selector.isEmpty then refuse "No element given"
    else do
      match ← session.getElement selector none with
      | some e => return e
      | none => throw (.report (.noElement selector))

/-- A property of an element. -/
def getAttribute (session : Session) (target : Target) (name : String) : Except Fault Value := do
  return (← session.findElement target).property name

/-- What a step names: a selector, or on a page that is named too the element that is found there.
-/
def target (session : Session) (element : Option String) (page : Option Int) :
    Except Fault Target := do
  match ← session.page? page, element with
  | none, some selector => return .selector selector
  | some page, some selector => return ((page.query? selector).map .element).getD .nothing
  | _, none => return .nothing

/-- The rendered page, the current one if none is given, parsed. -/
def snapshot (session : Session) (given : Option LivePage) : Except Fault PageElement :=
  match given, session.current with
  | some page, _ => page.snapshot
  | none, some page => page.snapshot
  | none, none => refuse "No page given and no current page set"

/-- Records a call. -/
def record (session : Session) (call : Call) : Session :=
  { session with calls := session.calls ++ [call] }

/-- Opens an address in a new page. -/
def fetchPage (site : Site) (session : Session) (url : String) (setCurrent : Bool) :
    Session × Except Fault Answer :=
  let session := session.record (.goTo url)
  let found := (site.get? url).getD {}
  if found.fails then (session, .error (.stopped "navigation failed"))
  else
    let page := LivePage.ofSite url found
    let session := { session with pages := session.pages ++ [page] }
    (if setCurrent then { session with current := some page } else session, .ok (.address url))

/-- Closes the browser early. -/
def finish (session : Session) : Session :=
  if session.headless.isTruthy && !session.closed then
    { session.record .close with closed := true }
  else session

/-- What a step that changes nothing answers. -/
def look (session : Session) : Step → Except Fault Answer
  | .getElement selector ancestor => do
    match ← session.getElement selector (← session.ancestor? ancestor) with
    | some e => return .element e
    | none => return .nothing
  | .getElements selector ancestor => do
    return .elements (← session.getElements selector (← session.ancestor? ancestor))
  | .findElement element page => do
    return .element (← session.findElement (← session.target element page))
  | .getAttribute element name page => do
    return .value (← session.getAttribute (← session.target element page) name)
  | .getText element page => do
    return .value (← session.getAttribute (← session.target element page) "textContent")
  | .snapshot page => do return .parsed (← session.snapshot (← session.page? page))
  | .snapshotSelect selector page => do
    let e ← session.snapshot (← session.page? page)
    return .selected (← e.select selector "things" {})
  | _ => .ok .nothing

/-- Takes a step. -/
def step (site : Site) (session : Session) : Step → Session × Except Fault Answer
  | .fetchPage url setCurrent => fetchPage site session url setCurrent
  | .withPage number =>
    match session.page number with
    | .ok page => ({ session with current := some page }, .ok .nothing)
    | .error fault => (session, .error fault)
  | .done => (session.finish, .ok .nothing)
  | other => (session, session.look other)

end Session

end RaggedTables.Browser
