import RaggedTables.CommandLine.Program
import RaggedTables.Proofs.Files.Tree

/-! Calls of the program taken apart: what is refused for its usage, how a command ends, and what a
trace file changes. -/

namespace RaggedTables.CommandLine

/-! ### Checked calls -/

section

variable {files : FileTree} {given : Given}

/-- A call that is checked gives what the command takes, and nothing else. -/
theorem check_arguments {spec : CommandSpec} (mixed : spec.mixed = true)
    (checked : check files spec given = .ok ()) :
    checkArguments spec.arguments given.arguments = .ok [] := by
  unfold check at checked
  dsimp only at checked
  obtain ⟨_, -, checked⟩ := bind_eq_ok.mp checked
  rw [if_pos mixed] at checked
  obtain ⟨extra, arguments, checked⟩ := bind_eq_ok.mp checked
  obtain ⟨_, -, checked⟩ := bind_eq_ok.mp checked
  cases extra with
  | nil => exact arguments
  | cons => simp at checked

theorem single_of_checked {name : String} {spec : CommandSpec} (mixed : spec.mixed = true)
    (single : spec.arguments = [{ name }]) (checked : check files spec given = .ok ()) :
    ∃ argument, given.arguments = [argument] := by
  have arguments := check_arguments mixed checked
  rw [single] at arguments
  cases found : given.arguments with
  | nil => simp [found, checkArguments] at arguments
  | cons argument rest =>
    simp only [found, checkArguments, Except.ok.injEq] at arguments
    exact ⟨argument, by rw [arguments]⟩

theorem run_table {source : String} (arguments : given.arguments = [source]) :
    Command.table.run given = tableCommand given source := by
  unfold Command.run
  rw [arguments]

theorem run_fetch {url : String} (arguments : given.arguments = [url]) :
    Command.fetch.run given = fetchCommand given url := by
  unfold Command.run
  rw [arguments]

end

/-! ### Endings -/

theorem code_ending (explained : Explained) (outcome : Except Fault Unit) :
    (explained.ending outcome).code = 0 ↔ outcome = .ok () := by
  cases outcome with
  | ok => exact iff_of_true rfl rfl
  | error fault =>
    rw [Explained.ending]
    split <;> simp [Ending.code]

theorem ending_uncaught {explained : Explained} {outcome : Except Fault Unit} {fault : Fault} :
    explained.ending outcome = .uncaught fault ↔
      outcome = .error fault ∧ explained.covers fault = false := by
  cases outcome with
  | ok => exact ⟨nofun, fun h => nomatch h.1⟩
  | error own =>
    rw [Explained.ending]
    split
    · rename_i covered
      refine ⟨nofun, fun ⟨same, uncovered⟩ => ?_⟩
      rw [Except.error.inj same, uncovered] at covered
      cases covered
    · rename_i uncovered
      refine ⟨fun same => ?_, fun ⟨same, _⟩ => by rw [Except.error.inj same]⟩
      obtain rfl := Ending.uncaught.inj same
      exact ⟨rfl, by simpa using uncovered⟩

theorem ending_ne_misuse (explained : Explained) (outcome : Except Fault Unit)
    (wrong : UsageFault) : explained.ending outcome ≠ .misuse wrong := by
  cases outcome with
  | ok => nofun
  | error own =>
    rw [Explained.ending]
    split <;> nofun

@[simp] theorem world_finish (spec : CommandSpec) (shell : Shell) (ending : Ending) :
    (finish spec shell ending).1.world = shell.world := by
  cases ending <;> rfl

@[simp] theorem output_finish (spec : CommandSpec) (shell : Shell) (ending : Ending) :
    (finish spec shell ending).1.output = shell.output := by
  cases ending <;> rfl

/-! ### Calls -/

/-- A call that can be read is refused, or its command runs. -/
theorem runCommand_read {command : Command} {arguments : List String} {given : Given}
    (call : read command.spec arguments = .ok given)
    (calm : given.has helpName = false) (shell : Shell) :
    (∃ fault, runCommand command arguments shell = finish command.spec shell (.misuse fault)) ∨
      check shell.world.files command.spec given = .ok () ∧
        runCommand command arguments shell =
          finish command.spec ((command.run given).run shell).1
            (command.explained.ending ((command.run given).run shell).2) := by
  unfold runCommand
  dsimp only
  rw [call]
  dsimp only
  rw [calm, if_neg (by decide)]
  cases checked : check shell.world.files command.spec given with
  | error fault => exact .inl ⟨fault, rfl⟩
  | ok =>
    dsimp only
    cases command.misuse? given with
    | some fault => exact .inl ⟨fault, rfl⟩
    | none => exact .inr ⟨rfl, rfl⟩

/-! ### Trace files -/

/-- The shell in which a command begins: with an empty trace file, if one is asked for. -/
def withTrace (trace : Option String) (shell : Shell) : Shell × Except Fault Unit :=
  match trace with
  | none => (shell, .ok ())
  | some file => openTrace file shell

section

variable {place : List String} {file : String}

theorem node?_openTrace (shell : Shell) (apart : place ≠ Path.spot file) :
    (openTrace file shell).1.world.files.node? place = shell.world.files.node? place := by
  unfold openTrace
  split
  · rename_i written
    exact FileTree.node?_writeBytes_of_ne written apart
  · rfl

theorem node?_closeTrace (shell : Shell) (apart : place ≠ Path.spot file) :
    (closeTrace file shell).world.files.node? place = shell.world.files.node? place := by
  unfold closeTrace
  dsimp only
  split
  · rename_i written
    exact FileTree.node?_writeBytes_of_ne written apart
  · rfl

theorem output_closeTrace (file : String) (shell : Shell) :
    (closeTrace file shell).output = shell.output := by
  unfold closeTrace
  dsimp only
  split <;> rfl

end

section

variable {command : Command} {arguments : List String} {file : String} {shell opened : Shell}

theorem runTraced_refused {fault : Fault}
    (opens : openTrace file shell = (opened, .error fault)) :
    runTraced (some file) command arguments shell = (opened, .uncaught fault) := by
  unfold runTraced
  dsimp only
  rw [opens]

theorem runTraced_opened (opens : openTrace file shell = (opened, .ok ())) :
    runTraced (some file) command arguments shell =
      (closeTrace file (runCommand command arguments opened).1,
        (runCommand command arguments opened).2) := by
  unfold runTraced
  dsimp only
  rw [opens]

end

/-! ### The program -/

/-- A call of the program that can be read: with a trace file or without, it names a command and
says what is given to it, and it does not ask for help. -/
inductive Invokes (arguments : List String) : Option String → Command → Given → Prop
  | intro {options name rest command given} (before : read programSpec arguments = .ok options)
      (calm : options.has helpName = false) (version : options.has "--version" = false)
      (named : options.arguments = name :: rest)
      (known : Command.named.lookup name = some command)
      (call : read command.spec rest = .ok given) (quiet : given.has helpName = false) :
      Invokes arguments ((options.value? "--trace-file").filter fun path => !path.isEmpty) command
        given

theorem run_of_invokes {arguments : List String} {trace : Option String} {command : Command}
    {given : Given} (h : Invokes arguments trace command given) (shell : Shell) :
    (∃ fault, run arguments shell = finish programSpec shell (.misuse fault)) ∨
      ∃ rest, read command.spec rest = .ok given ∧ given.has helpName = false ∧
        run arguments shell = runTraced trace command rest shell := by
  obtain ⟨before, calm, version, named, known, call, quiet⟩ := h
  rename_i options name rest
  have filled : arguments.isEmpty = false := by
    cases arguments with
    | nil =>
      obtain rfl := Except.ok.inj before
      cases named
    | cons => rfl
  unfold run
  dsimp only
  rw [before]
  dsimp only
  rw [filled, calm, version, named, if_neg (by decide)]
  cases check shell.world.files programSpec options with
  | error fault => exact .inl ⟨fault, rfl⟩
  | ok =>
    dsimp only
    rw [known]
    exact .inr ⟨rest, call, quiet, rfl⟩

/-- A page in a file, and nothing else. -/
def pageInFile (text : String) : Shell where
  world := { files := [(["p"], .file (Utf8.encode text.toList) 0)], now := 0, site := [] }

end RaggedTables.CommandLine
