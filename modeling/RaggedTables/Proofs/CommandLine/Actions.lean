import RaggedTables.CommandLine.Commands
import RaggedTables.Proofs.Table.Recording
import RaggedTables.Proofs.Web.Footprint

/-! The steps of a command. Loading a source and reading its table print nothing, and of the files
they touch those of the cache alone. -/

namespace RaggedTables.CommandLine

open FileTree (KeptOrMade)

namespace Action

variable {α β : Type}

section

variable {x : Action α} {f : α → Action β} {shell between after : Shell}

theorem run_bind_ok {a : α} (h : x.run shell = (between, .ok a)) (f : α → Action β) :
    (x >>= f).run shell = (f a).run between := by
  show (bind x f).run shell = _
  simp only [bind, h]

theorem run_bind_error {fault : Fault} (h : x.run shell = (between, .error fault))
    (f : α → Action β) : (x >>= f).run shell = (between, .error fault) := by
  show (bind x f).run shell = _
  simp only [bind, h]

/-- Two actions in a row succeed when the first does, and the second from there. -/
theorem run_bind_eq_ok {b : β} :
    (x >>= f).run shell = (after, .ok b) ↔
      ∃ between a, x.run shell = (between, .ok a) ∧ (f a).run between = (after, .ok b) := by
  rcases hx : x.run shell with ⟨between, fault | a⟩
  · simp [run_bind_error hx]
  · simp [run_bind_ok hx]

/-- Two actions in a row fail when the first does, or the second from there. -/
theorem run_bind_eq_error {fault : Fault} :
    (x >>= f).run shell = (after, .error fault) ↔
      x.run shell = (after, .error fault) ∨
        ∃ between a, x.run shell = (between, .ok a) ∧
        (f a).run between = (after, .error fault) := by
  rcases hx : x.run shell with ⟨between, fault | a⟩
  · simp [run_bind_error hx]
  · simp [run_bind_ok hx]

end

section

variable {path text : String} {shell after : Shell}

theorem writeFile_ok (h : (writeFile path text).run shell = (after, .ok ())) :
    ∃ files, shell.world.files.write path text shell.world.now = .ok files ∧
      after = { shell with world := { shell.world with files } } := by
  unfold writeFile at h
  dsimp only at h
  cases hfiles : shell.world.files.write path text shell.world.now with
  | error fault =>
    rw [hfiles] at h
    cases (Prod.mk.inj h).2
  | ok files =>
    rw [hfiles] at h
    exact ⟨files, rfl, (Prod.mk.inj h).1.symm⟩

/-- A file that cannot be written is not touched. -/
theorem writeFile_error {fault : Fault}
    (h : (writeFile path text).run shell = (after, .error fault)) : after = shell := by
  unfold writeFile at h
  dsimp only at h
  cases hfiles : shell.world.files.write path text shell.world.now with
  | error fault =>
    rw [hfiles] at h
    exact (Prod.mk.inj h).1.symm
  | ok files =>
    rw [hfiles] at h
    cases (Prod.mk.inj h).2

end

/-- An action that prints nothing and leaves a place as it is, but for directories that are made on
a way. -/
structure Spares (way : Option String) (place : List String) (x : Action α) : Prop where
  files : ∀ shell, KeptOrMade way place shell.world.files (x.run shell).1.world.files
  printed : ∀ shell, (x.run shell).1.output = shell.output ∧ (x.run shell).1.errors = shell.errors

variable {way : Option String} {place : List String}

theorem spares_lift (outcome : Except Fault α) : (lift outcome).Spares way place :=
  ⟨fun _ => .refl _ _ _, fun _ => ⟨rfl, rfl⟩⟩

theorem spares_pure (a : α) : (pure a : Action α).Spares way place :=
  ⟨fun _ => .refl _ _ _, fun _ => ⟨rfl, rfl⟩⟩

theorem spares_files : files.Spares way place := ⟨fun _ => .refl _ _ _, fun _ => ⟨rfl, rfl⟩⟩

theorem spares_traced (x : Traced α) : (traced x).Spares way place :=
  ⟨fun _ => .refl _ _ _, fun _ => ⟨rfl, rfl⟩⟩

theorem spares_browse (script : Browser.Script) : (browse script).Spares way place :=
  ⟨fun _ => .refl _ _ _, fun _ => ⟨rfl, rfl⟩⟩

theorem spares_fetch {step : Web.World → Web.Fetched α}
    (h : ∀ world, KeptOrMade way place world.files (step world).world.files) :
    (fetch step).Spares way place :=
  ⟨fun shell => h shell.world, fun _ => ⟨rfl, rfl⟩⟩

theorem Spares.bind {x : Action α} {f : α → Action β} (first : x.Spares way place)
    (second : ∀ a, (f a).Spares way place) : (x >>= f).Spares way place := by
  constructor
  · intro shell
    have before := first.files shell
    rcases hx : x.run shell with ⟨between, fault | a⟩
    · rw [run_bind_error hx]
      rwa [hx] at before
    · rw [run_bind_ok hx]
      rw [hx] at before
      exact before.trans ((second a).files between)
  · intro shell
    obtain ⟨output, errors⟩ := first.printed shell
    rcases hx : x.run shell with ⟨between, fault | a⟩
    · rw [hx] at output errors
      rw [run_bind_error hx]
      exact ⟨output, errors⟩
    · rw [hx] at output errors
      rw [run_bind_ok hx]
      obtain ⟨output', errors'⟩ := (second a).printed between
      exact ⟨output'.trans output, errors'.trans errors⟩

end Action

/-! ### Sources -/

/-- The directory in which the page of a source is kept, if it is. -/
def sourceCache? (given : Given) (source : String) (browser : Bool) : Option String :=
  if isAddress source && !browser then (fetchSettings given).cache? none else none

variable {way : Option String} {place : List String}

theorem run_filePage (path : String) (shell : Shell) :
    (filePage path).run shell =
      (shell, shell.world.files.read path >>= fun text => PageElement.parse text) := by
  have files : Action.files.run shell = (shell, .ok shell.world.files) := rfl
  rw [filePage, Action.run_bind_ok files]
  cases read : shell.world.files.read path with
  | error fault => rfl
  | ok text => rfl

theorem spares_filePage (path : String) : (filePage path).Spares way place :=
  Action.spares_files.bind fun _ => (Action.spares_lift _).bind fun _ => Action.spares_lift _

theorem spares_renderedPage (url : String) : (renderedPage url).Spares way place :=
  (Action.spares_browse _).bind fun answer => by
    cases answer with
    | parsed e => exact Action.spares_pure e
    | _ => exact Action.spares_lift _

theorem spares_fetchedPage (given : Given) (url : String)
    (outside : ∀ cache ∈ (fetchSettings given).cache? none, ∀ name,
      place ≠ Path.spot cache ++ [name]) :
    (fetchedPage given url).Spares ((fetchSettings given).cache? none) place :=
  (Action.spares_fetch fun world =>
    Web.keptOrMade_fetchText (fetchSettings given) world url none outside).bind
    fun _ => Action.spares_lift _

/-- A source is loaded without a trace in the files, but for those of the cache. -/
theorem spares_loadSource (given : Given) (source : String) (browser : Bool)
    (outside : ∀ cache ∈ sourceCache? given source browser, ∀ name,
      place ≠ Path.spot cache ++ [name]) :
    (loadSource given source browser).Spares (sourceCache? given source browser) place := by
  unfold loadSource
  cases address : isAddress source with
  | false => exact spares_filePage source
  | true =>
    cases browser with
    | true => exact spares_renderedPage source
    | false =>
      have cached : sourceCache? given source false = (fetchSettings given).cache? none := by
        rw [sourceCache?, address]
        rfl
      rw [cached] at outside ⊢
      exact spares_fetchedPage given source outside

/-! ### Tables -/

theorem outcome_elementRecords (table : PageElement) (templates : List (Option String))
    (rows : Option String) :
    (Table.elementRecords table templates rows).outcome =
      Table.plainTable (.element table) templates none rows :=
  Table.outcome_recordsOf

/-- The number of records of the table of a source, and their text. -/
def readTable (given : Given) (source : String) : Action (Nat × String) := do
  let page ← loadSource given source (given.has "--browser")
  Action.traced (tableText (.ofGiven given) page)

/-- The table is read, and then it is delivered. -/
theorem run_tableCommand (given : Given) (source : String) (shell : Shell) :
    (tableCommand given source).run shell =
      (readTable given source >>= fun read =>
        deliver (.ofGiven given) read.1 read.2).run shell := by
  rcases hload : (loadSource given source (given.has "--browser")).run shell with
    ⟨between, fault | page⟩
  · rw [tableCommand, Action.run_bind_error hload, readTable,
      Action.run_bind_error (Action.run_bind_error hload _)]
  · have read := Action.run_bind_ok hload fun page =>
      Action.traced (tableText (.ofGiven given) page)
    rw [tableCommand, Action.run_bind_ok hload, readTable]
    rcases htext : (Action.traced (tableText (.ofGiven given) page)).run between with
      ⟨traced, fault | ⟨count, text⟩⟩
    · rw [Action.run_bind_error htext, Action.run_bind_error (read.trans htext)]
    · rw [Action.run_bind_ok htext, Action.run_bind_ok (read.trans htext)]

theorem spares_readTable (given : Given) (source : String) {place : List String}
    (outside : ∀ cache ∈ sourceCache? given source (given.has "--browser"), ∀ name,
      place ≠ Path.spot cache ++ [name]) :
    (readTable given source).Spares (sourceCache? given source (given.has "--browser")) place :=
  (spares_loadSource given source _ outside).bind fun _ => Action.spares_traced _

end RaggedTables.CommandLine
