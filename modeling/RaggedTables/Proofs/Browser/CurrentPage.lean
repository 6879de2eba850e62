import Mathlib.Data.List.Induction
import RaggedTables.Proofs.Browser.Lifecycle
import RaggedTables.Proofs.Outcome
import RaggedTables.Proofs.Page.Parsing

/-! The current page of a session. It is the page of the last step that turned to one: an address
that was opened for it, or a page that was chosen. Whoever asks for elements or for the parsed page
without naming a page is answered on the current one. -/

namespace RaggedTables.Browser

/-! ### Steps that turn to a page -/

/-- The page that an address opens, unless opening it fails. -/
def open? (site : Site) (url : String) : Option LivePage :=
  let found := (site.get? url).getD {}
  if found.fails then none else some (LivePage.ofSite url found)

/-- The pages that steps open, in order. -/
def opened (site : Site) (steps : List Step) : List LivePage :=
  steps.filterMap fun step =>
    match step with
    | .fetchPage url _ => open? site url
    | _ => none

/-- A page by its number, from the first one on, or from the last one back. -/
inductive Numbered (pages : List LivePage) : Int → LivePage → Prop
  | front {n : Nat} {page : LivePage} (there : pages[n]? = some page) : Numbered pages n page
  | back {n : Nat} {page : LivePage} (there : pages.reverse[n]? = some page) :
      Numbered pages (Int.negSucc n) page

/-- A step makes a page the current one, when `pages` have been opened before it. -/
inductive Turns (site : Site) (pages : List LivePage) : Step → LivePage → Prop
  | fetched {url : String} {page : LivePage} (opens : open? site url = some page) :
      Turns site pages (.fetchPage url true) page
  | chosen {number : Int} {page : LivePage} (there : Numbered pages number page) :
      Turns site pages (.withPage number) page

/-- The page that the last of the steps that turn to one turns to. -/
inductive LastTurned (site : Site) : List Step → LivePage → Prop
  | now {steps : List Step} {step : Step} {page : LivePage}
      (turns : Turns site (opened site steps) step page) : LastTurned site (steps ++ [step]) page
  | before {steps : List Step} {step : Step} {page : LivePage} (turned : LastTurned site steps page)
      (other : ∀ page', ¬ Turns site (opened site steps) step page') :
      LastTurned site (steps ++ [step]) page

section

variable {site : Site} {pages : List LivePage} {steps : List Step} {step : Step}
  {page page' : LivePage}

theorem opened_concat (site : Site) (steps : List Step) (step : Step) :
    opened site (steps ++ [step]) = opened site steps ++ opened site [step] := by
  rw [opened, List.filterMap_append]
  rfl

theorem numbered_front {n : Nat} : Numbered pages n page ↔ pages[n]? = some page := by
  constructor
  · intro h
    cases h with
    | front there => exact there
  · exact .front

theorem numbered_back {n : Nat} :
    Numbered pages (Int.negSucc n) page ↔ pages.reverse[n]? = some page := by
  constructor
  · intro h
    cases h with
    | back there => exact there
  · exact .back

theorem Numbered.unique {number : Int} (h : Numbered pages number page)
    (h' : Numbered pages number page') :
    page = page' := by
  cases h with
  | front there =>
    cases h' with
    | front there' => exact Option.some.inj (there.symm.trans there')
  | back there =>
    cases h' with
    | back there' => exact Option.some.inj (there.symm.trans there')

theorem Turns.unique (h : Turns site pages step page) (h' : Turns site pages step page') :
    page = page' := by
  cases h with
  | fetched opens =>
    cases h' with
    | fetched opens' => exact Option.some.inj (opens.symm.trans opens')
  | chosen there =>
    cases h' with
    | chosen there' => exact there.unique there'

theorem lastTurned_concat :
    LastTurned site (steps ++ [step]) page ↔
      Turns site (opened site steps) step page ∨
        LastTurned site steps page ∧ ∀ page', ¬ Turns site (opened site steps) step page' := by
  constructor
  · intro h
    generalize whole : steps ++ [step] = all at h
    cases h with
    | now turns =>
      obtain ⟨rfl, ⟨⟩⟩ := List.append_inj' whole rfl
      exact .inl turns
    | before turned other =>
      obtain ⟨rfl, ⟨⟩⟩ := List.append_inj' whole rfl
      exact .inr ⟨turned, other⟩
  · rintro (turns | ⟨turned, other⟩)
    · exact .now turns
    · exact .before turned other

theorem not_lastTurned_nil : ¬ LastTurned site [] page := by
  intro h
  generalize nothing : ([] : List Step) = steps at h
  cases h <;> simp at nothing

/-- Some step has turned to a page exactly if a last one has. -/
theorem exists_lastTurned (site : Site) (steps : List Step) :
    (∃ page, LastTurned site steps page) ↔
      ∃ earlier step later page, steps = earlier ++ step :: later ∧
        Turns site (opened site earlier) step page := by
  induction steps using List.reverseRecOn with
  | nil => simp [not_lastTurned_nil]
  | append_singleton steps step ih =>
    constructor
    · rintro ⟨page, h⟩
      rcases lastTurned_concat.mp h with turns | ⟨turned, -⟩
      · exact ⟨steps, step, [], page, rfl, turns⟩
      · obtain ⟨earlier, other, later, page', rfl, turns⟩ := ih.mp ⟨page, turned⟩
        exact ⟨earlier, other, later ++ [step], page', by simp, turns⟩
    · rintro ⟨earlier, other, later, page, split, turns⟩
      by_cases last : ∃ page', Turns site (opened site steps) step page'
      · obtain ⟨page', turns'⟩ := last
        exact ⟨page', .now turns'⟩
      · rcases List.eq_nil_or_concat later with rfl | ⟨later, step', rfl⟩
        · obtain ⟨rfl, ⟨⟩⟩ := List.append_inj' split rfl
          exact absurd ⟨page, turns⟩ last
        · rw [List.concat_eq_append, ← List.cons_append, ← List.append_assoc] at split
          obtain ⟨rfl, ⟨⟩⟩ := List.append_inj' split rfl
          obtain ⟨page', turned⟩ := ih.mpr ⟨earlier, other, later, page, rfl, turns⟩
          exact ⟨page', .before turned (not_exists.mp last)⟩

end

namespace Session

variable {site : Site} {session : Session} {steps : List Step} {step : Step} {page : LivePage}

theorem page_ok {number : Int} :
    session.page number = .ok page ↔ Numbered session.pages number page := by
  unfold Session.page
  dsimp only
  cases number with
  | ofNat n =>
    have number : Int.ofNat n = (n : Int) := rfl
    rw [number, if_neg (by omega), if_neg (by omega), Int.toNat_natCast, numbered_front]
    cases session.pages[n]? <;> simp
  | negSucc n =>
    have back : (if Int.negSucc n + (session.pages.length : Int) < 0 then none
        else session.pages[(Int.negSucc n + (session.pages.length : Int)).toNat]?) =
          session.pages.reverse[n]? := by
      by_cases inside : n < session.pages.length
      · rw [if_neg (by omega), List.getElem?_reverse inside]
        congr 1
        omega
      · rw [if_pos (by omega), List.getElem?_eq_none (by simpa using inside)]
    rw [if_pos (Int.negSucc_lt_zero n), back, numbered_back]
    cases session.pages.reverse[n]? <;> simp

/-- Opening an address appends its page to those that were opened. -/
theorem fetchPage_eq (site : Site) (session : Session) (url : String) (setCurrent : Bool) :
    (session.fetchPage site url setCurrent).1.pages = session.pages ++ (open? site url).toList ∧
      (session.fetchPage site url setCurrent).1.current =
        if setCurrent then (open? site url).or session.current else session.current := by
  unfold fetchPage open?
  dsimp only
  split
  · cases setCurrent <;> simp [record]
  · cases setCurrent <;> simp [record]

theorem pages_step (site : Site) (session : Session) (step : Step) :
    (session.step site step).1.pages = session.pages ++ opened site [step] := by
  cases step with
  | fetchPage url setCurrent =>
    have opening : opened site [.fetchPage url setCurrent] = (open? site url).toList := by
      unfold opened
      cases h : open? site url <;> simp [h]
    rw [opening]
    exact (fetchPage_eq site session url setCurrent).1
  | withPage number =>
    rw [Session.step]
    cases session.page number <;> exact (List.append_nil _).symm
  | done =>
    rw [Session.step, finish]
    split <;> exact (List.append_nil _).symm
  | _ => exact (List.append_nil _).symm

/-- A step that turns to no page leaves the current one. -/
theorem current_step_of_not_turns (none : ∀ page, ¬ Turns site session.pages step page) :
    (session.step site step).1.current = session.current := by
  cases step with
  | fetchPage url setCurrent =>
    rw [Session.step, (fetchPage_eq site session url setCurrent).2]
    cases setCurrent with
    | false => rfl
    | true =>
      cases opens : open? site url with
      | none => rfl
      | some page => exact absurd (.fetched opens) (none page)
  | withPage number =>
    rw [Session.step]
    cases there : session.page number with
    | ok page => exact absurd (.chosen (page_ok.mp there)) (none page)
    | error fault => rfl
  | done =>
    rw [Session.step, finish]
    split <;> rfl
  | _ => rfl

theorem current_step_of_turns (turns : Turns site session.pages step page) :
    (session.step site step).1.current = some page := by
  cases turns with
  | @fetched url page opens =>
    rw [Session.step, (fetchPage_eq site session url true).2, opens]
    rfl
  | chosen there =>
    rw [Session.step, page_ok.mpr there]

/-- What is known of a session in which the steps `taken` have been taken. -/
structure Current (site : Site) (taken : List Step) (session : Session) : Prop where
  pages : session.pages = opened site taken
  turned : ∀ page, session.current = some page ↔ LastTurned site taken page
  open_ : ∀ page, session.current = some page → page ∈ session.pages

theorem Current.next (now : session.Current site steps) (step : Step) :
    (session.step site step).1.Current site (steps ++ [step]) := by
  have pages : (session.step site step).1.pages = opened site (steps ++ [step]) := by
    rw [pages_step, now.pages, opened_concat]
  by_cases turns : ∃ page, Turns site session.pages step page
  · obtain ⟨page, turns⟩ := turns
    have current := current_step_of_turns turns
    refine ⟨pages, fun other => ?_, fun other h => ?_⟩
    · rw [current, lastTurned_concat, ← now.pages]
      constructor
      · rintro ⟨⟩
        exact .inl turns
      · rintro (turns' | ⟨-, none⟩)
        · rw [turns.unique turns']
        · exact absurd turns (none page)
    · rw [current] at h
      obtain rfl := Option.some.inj h
      rw [pages_step, List.mem_append]
      cases turns with
      | fetched opens =>
        right
        simp [opened, opens]
      | chosen there =>
        left
        cases there with
        | front there => exact List.mem_of_getElem? there
        | back there => exact List.mem_reverse.mp (List.mem_of_getElem? there)
  · have none := not_exists.mp turns
    have current := current_step_of_not_turns none
    refine ⟨pages, fun page => ?_, fun page h => ?_⟩
    · rw [current, now.turned, lastTurned_concat, ← now.pages]
      simp [none]
    · rw [pages_step]
      exact List.mem_append_left _ (now.open_ page (current ▸ h))

/-- After each step of a run the current page is known. -/
theorem Current.during (now : session.Current site steps) (rest : List Step) {i : Nat}
    {later : Session}
    {answer : Except Fault Answer} (h : (takeSteps site session rest)[i]? = some (later, answer)) :
    later.Current site (steps ++ rest.take (i + 1)) := by
  induction rest generalizing session steps i with
  | nil => simp [takeSteps] at h
  | cons step rest ih =>
    have next := now.next step
    cases i with
    | zero =>
      obtain ⟨rfl, -⟩ := Prod.mk.inj (Option.some.inj h)
      exact next
    | succ i =>
      have later := ih next h
      rwa [List.append_assoc, List.singleton_append] at later

/-! ### Looking things up -/

/-- The faults of a session: something cannot be asked of it, or an element is not there. -/
def isSessionFault : Fault → Bool
  | .report (.session ..) | .report (.noElement _) => true
  | _ => false

/-- A session refuses to answer. -/
def Refused {α : Type} (outcome : Except Fault α) : Prop :=
  ∃ fault, outcome = .error fault ∧ isSessionFault fault = true

/-- What is found on a page by a selector, if anything is, gives the answer; otherwise the element
is missing. -/
def onPage (page : LivePage) (selector : String) (present : LiveElement → Answer) :
    Except Fault Answer :=
  match page.queryAll selector with
  | e :: _ => .ok (present e)
  | [] => .error (.report (.noElement selector))

/-- Whoever names no page is answered as on this one. -/
structure AnswersOn (session : Session) (page : LivePage) : Prop where
  getElement : ∀ selector,
    session.getElement selector none = session.getElement selector (some (.page page))
  getElements : ∀ selector,
    session.getElements selector none = session.getElements selector (some (.page page))
  snapshot : session.snapshot none = session.snapshot (some page)
  findElement : ∀ selector, selector ≠ "" →
    session.look (.findElement (some selector) none) = onPage page selector .element
  getAttribute : ∀ selector name, selector ≠ "" →
    session.look (.getAttribute (some selector) name none) =
      onPage page selector fun e => .value (e.property name)
  getText : ∀ selector, selector ≠ "" →
    session.look (.getText (some selector) none) =
      onPage page selector fun e => .value (e.property "textContent")

theorem onPage_error {selector : String} {present : LiveElement → Answer} {fault : Fault} :
    onPage page selector present = .error fault ↔
      page.queryAll selector = [] ∧ fault = .report (.noElement selector) := by
  unfold onPage
  cases page.queryAll selector with
  | nil => simp [eq_comm]
  | cons e rest => simp

theorem searchRoot_none (h : session.current = some page) :
    session.searchRoot none = session.searchRoot (some (.page page)) := by
  unfold searchRoot
  rw [h]

theorem getElements_none (h : session.current = some page) (selector : String) :
    session.getElements selector none = session.getElements selector (some (.page page)) := by
  rw [getElements, searchRoot_none h, getElements]

theorem getElement_none (h : session.current = some page) (selector : String) :
    session.getElement selector none = session.getElement selector (some (.page page)) := by
  rw [getElement, getElements_none h, getElement]

theorem snapshot_none (h : session.current = some page) :
    session.snapshot none = session.snapshot (some page) := by
  unfold snapshot
  rw [h]

/-- Whoever names a page or an element is answered there, whatever the current page is. -/
theorem getElements_some {root : SearchRoot} {selector : String} (filled : selector ≠ "") :
    session.getElements selector (some root) = .ok (root.queryAll selector) := by
  have notEmpty : selector.isEmpty = false := by simpa using filled
  rw [getElements, notEmpty]
  rfl

theorem findElement_current (h : session.current = some page) {selector : String}
    (filled : selector ≠ "") :
    session.findElement (.selector selector) =
      match page.queryAll selector with
      | e :: _ => .ok e
      | [] => .error (.report (.noElement selector)) := by
  have notEmpty : selector.isEmpty = false := by simpa using filled
  rw [findElement, notEmpty, getElement_none h, getElement, getElements_some filled,
    SearchRoot.queryAll]
  cases page.queryAll selector <;> rfl

theorem target_none (selector : String) :
    session.target (some selector) none = .ok (.selector selector) := rfl

theorem answersOn_current (h : session.current = some page) : session.AnswersOn page where
  getElement := getElement_none h
  getElements := getElements_none h
  snapshot := snapshot_none h
  findElement selector filled := by
    rw [look, target_none, ok_bind, findElement_current h filled, onPage]
    cases page.queryAll selector <;> rfl
  getAttribute selector name filled := by
    rw [look, target_none, ok_bind, Session.getAttribute, findElement_current h filled, onPage]
    cases page.queryAll selector <;> rfl
  getText selector filled := by
    rw [look, target_none, ok_bind, Session.getAttribute, findElement_current h filled, onPage]
    cases page.queryAll selector <;> rfl

/-- To name the current page by its number is to name none. -/
theorem look_numbered (h : session.current = some page) {number : Int}
    (there : Numbered session.pages number page) (selector : String) :
    session.look (.getElement selector none) =
        session.look (.getElement selector (some (.page number))) ∧
      session.look (.getElements selector none) =
        session.look (.getElements selector (some (.page number))) ∧
      session.look (.snapshot none) = session.look (.snapshot (some number)) := by
  have named : session.page number = .ok page := page_ok.mpr there
  have ancestor : session.ancestor? (some (.page number)) = .ok (some (.page page)) := by
    rw [ancestor?, named]
    rfl
  have shown : session.page? (some number) = .ok (some page) := by
    rw [page?, named]
    rfl
  have nowhere : session.ancestor? none = .ok none := rfl
  have unnamed : session.page? none = .ok none := rfl
  refine ⟨?_, ?_, ?_⟩
  · rw [look, look, ancestor, nowhere, ok_bind, ok_bind, getElement_none h]
  · rw [look, look, ancestor, nowhere, ok_bind, ok_bind, getElements_none h]
  · rw [look, look, shown, unnamed, ok_bind, ok_bind, snapshot_none h]

theorem refused_refuse {α : Type} (message : String) : Refused (refuse message : Except Fault α) :=
  ⟨_, rfl, rfl⟩

theorem not_refused_ok {α : Type} (a : α) : ¬ Refused (.ok a) := by
  rintro ⟨fault, h, -⟩
  cases h

theorem refused_getElements (selector : String) :
    Refused (session.getElements selector none) ↔ session.current = none ∨ selector = "" := by
  by_cases filled : selector = ""
  · subst filled
    exact iff_of_true (refused_refuse _) (.inr rfl)
  · cases current : session.current with
    | none =>
      have notEmpty : selector.isEmpty = false := by simpa using filled
      rw [getElements, notEmpty]
      unfold searchRoot
      rw [current]
      exact iff_of_true (refused_refuse _) (.inl rfl)
    | some page =>
      rw [getElements_none current, getElements_some filled]
      exact iff_of_false (not_refused_ok _) (by simp [filled])

theorem refused_getElement (selector : String) :
    Refused (session.getElement selector none) ↔ session.current = none ∨ selector = "" := by
  rw [← refused_getElements, getElement]
  cases session.getElements selector none with
  | error fault => simp [Refused]
  | ok found => simp [Refused]

theorem refused_snapshot : Refused (session.snapshot none) ↔ session.current = none := by
  cases current : session.current with
  | none =>
    unfold snapshot
    rw [current]
    exact iff_of_true (refused_refuse _) rfl
  | some page =>
    rw [snapshot_none current, snapshot, LivePage.snapshot]
    refine iff_of_false ?_ (by simp)
    rintro ⟨fault, h, refused⟩
    obtain ⟨-, rfl⟩ | ⟨-, -, rfl⟩ := PageElement.parse_error.mp h <;> cases refused

end Session

/-- At every step of a run the current page is the one that the last step turned to that turned to
any, if there was one, and it is one of those that were opened. No other step changes it. Where
there is one, whoever names no page is answered as on it, and an element is missing exactly if it is
found by nothing there; without one, and without a selector, a session refuses. -/
theorem run_currentPage (site : Site) (settings : Settings) (script : Script) :
    let r := run site .none settings script
    (∀ i session answer, r.answers[i]? = some (session, answer) →
      (∀ page, session.current = some page ↔ LastTurned site (script.steps.take (i + 1)) page) ∧
      (session.current = none ↔ ∀ earlier step later page,
        script.steps.take (i + 1) = earlier ++ step :: later →
        ¬ Turns site (opened site earlier) step page) ∧
      session.pages = opened site (script.steps.take (i + 1)) ∧
      ∀ page, session.current = some page → ∃ number, Numbered session.pages number page) ∧
    ∀ session : Session,
      (∀ step, (∀ page, ¬ Turns site session.pages step page) →
        (session.step site step).1.current = session.current) ∧
      (∀ page, session.current = some page → session.AnswersOn page) ∧
      (∀ page number selector, session.current = some page → Numbered session.pages number page →
        session.look (.getElement selector none) =
            session.look (.getElement selector (some (.page number))) ∧
          session.look (.getElements selector none) =
            session.look (.getElements selector (some (.page number))) ∧
          session.look (.snapshot none) = session.look (.snapshot (some number))) ∧
      (∀ page selector present fault, Session.onPage page selector present = .error fault ↔
        page.queryAll selector = [] ∧ fault = .report (.noElement selector)) ∧
      (∀ selector, Session.Refused (session.getElement selector none) ↔
        session.current = none ∨ selector = "") ∧
      (∀ selector, Session.Refused (session.getElements selector none) ↔
        session.current = none ∨ selector = "") ∧
      (Session.Refused (session.snapshot none) ↔ session.current = none) := by
  intro r
  constructor
  · intro i session answer h
    have start : Session.Current site [] { headless := settingOf settings "headless" } :=
      ⟨rfl, fun page => iff_of_false nofun not_lastTurned_nil, nofun⟩
    rw [show r = _ from run_none] at h
    have now := start.during script.steps h
    rw [List.nil_append] at now
    refine ⟨now.turned, ?_, now.pages, fun page current => ?_⟩
    · have some_turned := exists_lastTurned site (script.steps.take (i + 1))
      rw [← not_iff_not, ← ne_eq, Option.ne_none_iff_exists']
      simp only [now.turned, some_turned, not_forall, not_not, exists_prop]
    · obtain ⟨n, there⟩ := List.mem_iff_getElem?.mp (now.open_ page current)
      exact ⟨n, .front there⟩
  · intro session
    exact ⟨fun step none => Session.current_step_of_not_turns none,
      fun page current => Session.answersOn_current current,
      fun page number selector current there => Session.look_numbered current there selector,
      fun page selector present fault => Session.onPage_error,
      Session.refused_getElement, Session.refused_getElements, Session.refused_snapshot⟩

/-- A page with one element. -/
def onePage : SitePage := { elements := [("td", [.mk [("textContent", .text "Ant")] []])] }

/-- Two pages, one of them with an element, and an address that cannot be opened. -/
def twoPages : Site := [("a", {}), ("b", onePage), ("c", { fails := true })]

/-- The second page is opened aside and chosen, and opening the third fails. -/
def turnedBack : Script :=
  { steps := [.fetchPage "a" true, .fetchPage "b" false, .withPage (-1), .fetchPage "c" true,
      .getText (some "td") none] }

theorem run_currentPage_turnedBack :
    ∃ session page, (run twoPages .none [] turnedBack).answers[4]? =
      some (session, .ok (.value (.text "Ant"))) ∧
      session.current = some page ∧ page.url = "b" ∧ LastTurned twoPages turnedBack.steps page ∧
      session.AnswersOn page ∧ ¬ Session.Refused (session.getElement "td" none) := by
  have law := run_currentPage twoPages [] turnedBack
  refine ⟨_, LivePage.ofSite "b" onePage, rfl, rfl, rfl, ((law.1 4 _ _ rfl).1 _).mp rfl,
    (law.2 _).2.1 _ rfl, ?_⟩
  rw [(law.2 _).2.2.2.2.1]
  exact fun h => h.elim nofun (by decide)

end RaggedTables.Browser
