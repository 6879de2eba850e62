import RaggedTables.Proofs.CommandLine.Actions
import RaggedTables.Proofs.CommandLine.Calls

/-! The file that a command is to write. A command that succeeds has written the whole of it, and
one that fails has not touched it, whatever it was that failed; but a directory on the way to the
cache may have been made where no file was yet. -/

namespace RaggedTables.CommandLine

open FileTree (KeptOrMade)

/-! ### What is asked for -/

/-- The file that a call asks to be written; an empty name is none. -/
def Given.outputFile? (given : Given) : Option String :=
  (given.value? "--output").filter fun path => !path.isEmpty

/-- The directory in which a command keeps the page that it fetches, if it does. -/
def Command.cache? (command : Command) (given : Given) : Option String :=
  match command, given.arguments with
  | .table, source :: _ => sourceCache? given source (given.has "--browser")
  | .fetch, _ :: _ => (fetchSettings given).cache? none
  | _, _ => none

/-- The table command reads these records from a page, one for each of the rows. -/
inductive TableRecords (options : TableOptions) (page : PageElement) (rows : List PageElement)
    (records : List Record) : Prop
  | read {table headers} (single : theTable page options.tableSelector = .ok table)
      (compiled : Header.compileAll options.templates = .ok headers)
      (selected : Table.selectRows table options.rows = .ok rows)
      (each : List.Forall₂ (fun row record => Table.plainRow row headers none = .ok record)
        rows records)

/-- Records as the text of a file: as CSV, or as JSON indented by tabs. -/
inductive WrittenAs (options : TableOptions) (records : List Record) (text : String) : Prop
  | csv {document} (format : options.json = false)
      (blocks : CsvDocument.fromRecords (records.map .ofFields)
        (.map [(.text "qualifier", .text options.qualifier),
          (.text "delimiter", .text options.delimiter)]) = .ok document)
      (encoded : document.toText.outcome = .ok text)
  | json (format : options.json = true)
      (encoded : Json.write .tabbed (.list (records.map .ofFields)) = .ok text)

/-- What a command that succeeds leaves in the file that it writes, and what it prints in the end.
-/
inductive Delivers (given : Given) (path : String) (before after : Shell) : Command → Prop
  | table {source page rows records text modified} (arguments : given.arguments = [source])
      (loaded : ((loadSource given source (given.has "--browser")).run before).2 = .ok page)
      (read : TableRecords (.ofGiven given) page rows records)
      (written : WrittenAs (.ofGiven given) records text)
      (holds : after.world.files.node? (Path.spot path) =
        some (.file (Utf8.encode text.toList) modified))
      (printed : after.output = before.output ++
        Console.echo ("Wrote " ++ toString rows.length ++ " records to " ++ path)) :
      Delivers given path before after .table
  | fetch {url text modified} (arguments : given.arguments = [url])
      (fetched : ((fetchSettings given).fetchText before.world url none).outcome = .ok text)
      (holds : after.world.files.node? (Path.spot path) =
        some (.file (Utf8.encode text.toList) modified))
      (printed : after.output = before.output ++
        Console.echo ("Saved " ++ url ++ " to " ++ path)) :
      Delivers given path before after .fetch

/-! ### The text of a table -/

theorem recordsText_ok {options : TableOptions} {records : List Record} {text : String}
    (filed : options.output.isSome = true) :
    (recordsText options (records.map .ofFields)).outcome = .ok text ↔
      WrittenAs options records text := by
  unfold recordsText
  cases format : options.json with
  | true =>
    rw [if_pos rfl, filed, if_pos rfl, Traced.outcome_lift]
    refine ⟨fun encoded => .json format encoded, ?_⟩
    rintro (⟨csv, -, -⟩ | ⟨-, encoded⟩)
    · rw [format] at csv
      cases csv
    · exact encoded
  | false =>
    rw [if_neg (by decide), Traced.outcome_bind]
    refine Iff.trans bind_eq_ok ⟨?_, ?_⟩
    · rintro ⟨document, blocks, encoded⟩
      exact .csv format blocks encoded
    · rintro (⟨-, blocks, encoded⟩ | ⟨json, -⟩)
      · exact ⟨_, blocks, encoded⟩
      · rw [format] at json
        cases json

theorem tableText_ok {options : TableOptions} {page : PageElement} {count : Nat} {text : String}
    (filed : options.output.isSome = true)
    (h : (tableText options page).outcome = .ok (count, text)) :
    ∃ rows records, TableRecords options page rows records ∧ WrittenAs options records text ∧
      count = rows.length := by
  rw [tableText, Traced.outcome_bind] at h
  obtain ⟨table, single, h⟩ := bind_eq_ok.mp h
  rw [Traced.outcome_bind] at h
  obtain ⟨records, read, h⟩ := bind_eq_ok.mp h
  rw [Traced.outcome_bind] at h
  obtain ⟨written, encoded, h⟩ := bind_eq_ok.mp h
  obtain ⟨rfl, rfl⟩ := Prod.mk.inj (Except.ok.inj h)
  rw [outcome_elementRecords, Table.plainTable_ok] at read
  obtain ⟨headers, _, rows, compiled, ⟨⟩, selected, each⟩ := read
  exact ⟨rows, records, .read single compiled selected each, (recordsText_ok filed).mp encoded,
    each.length_eq.symm⟩

/-! ### Running a command -/

section

variable {given : Given} {source url path : String} {shell after : Shell} {fault : Fault}

theorem deliver_file {options : TableOptions} (filed : options.output = some path) (count : Nat)
    (text : String) :
    deliver options count text = (do
      Action.writeFile path text
      Action.print ("Wrote " ++ toString count ++ " records to " ++ path)) := by
  rw [deliver, filed]

theorem writeThenPrint_ok {text line : String}
    (h : (Action.writeFile path text >>= fun _ => Action.print line).run shell = (after, .ok ())) :
    after.world.files.node? (Path.spot path) =
        some (.file (Utf8.encode text.toList) shell.world.now) ∧
      after.output = shell.output ++ Console.echo line := by
  obtain ⟨between, _, write, print⟩ := Action.run_bind_eq_ok.mp h
  obtain ⟨files, hfiles, rfl⟩ := Action.writeFile_ok write
  obtain ⟨rfl, -⟩ := Prod.mk.inj print
  exact ⟨FileTree.node?_of_write hfiles, rfl⟩

theorem writeThenPrint_error {text line : String}
    (h : (Action.writeFile path text >>= fun _ => Action.print line).run shell =
      (after, .error fault)) : after = shell := by
  rcases Action.run_bind_eq_error.mp h with write | ⟨between, _, -, print⟩
  · exact Action.writeFile_error write
  · cases (Prod.mk.inj print).2

theorem readTable_ok {count : Nat} {text : String} (filed : given.outputFile? = some path)
    (h : (readTable given source).run shell = (after, .ok (count, text))) :
    ∃ page rows records,
      ((loadSource given source (given.has "--browser")).run shell).2 = .ok page ∧
        TableRecords (.ofGiven given) page rows records ∧ WrittenAs (.ofGiven given) records text ∧
        count = rows.length := by
  obtain ⟨between, page, load, traced⟩ := Action.run_bind_eq_ok.mp h
  have filed : (TableOptions.ofGiven given).output = some path := filed
  obtain ⟨rows, records, read, written, counted⟩ :=
    tableText_ok (by rw [filed]; rfl) (Prod.mk.inj traced).2
  exact ⟨page, rows, records, by rw [load], read, written, counted⟩

/-- A table command that fails has not come to write its file, or could not. -/
theorem tableCommand_error (filed : given.outputFile? = some path)
    (outside : ∀ cache ∈ sourceCache? given source (given.has "--browser"), ∀ name,
      Path.spot path ≠ Path.spot cache ++ [name])
    (h : (tableCommand given source).run shell = (after, .error fault)) :
    KeptOrMade (sourceCache? given source (given.has "--browser")) (Path.spot path)
      shell.world.files after.world.files := by
  have spares := (spares_readTable given source outside).files shell
  rw [run_tableCommand] at h
  rcases Action.run_bind_eq_error.mp h with read | ⟨between, ⟨count, text⟩, read, deliver⟩
  · rwa [read] at spares
  · rw [deliver_file filed] at deliver
    rw [writeThenPrint_error deliver]
    rwa [read] at spares

theorem tableCommand_ok (arguments : given.arguments = [source])
    (filed : given.outputFile? = some path)
    (outside : ∀ cache ∈ sourceCache? given source (given.has "--browser"), ∀ name,
      Path.spot path ≠ Path.spot cache ++ [name])
    (h : (tableCommand given source).run shell = (after, .ok ())) :
    Delivers given path shell after .table := by
  have silent := ((spares_readTable given source outside).printed shell).1
  rw [run_tableCommand] at h
  obtain ⟨between, ⟨count, text⟩, read, deliver⟩ := Action.run_bind_eq_ok.mp h
  rw [read] at silent
  obtain ⟨page, rows, records, loaded, tableRecords, written, rfl⟩ := readTable_ok filed read
  rw [deliver_file filed] at deliver
  obtain ⟨holds, printed⟩ := writeThenPrint_ok deliver
  rw [silent] at printed
  exact .table arguments loaded tableRecords written holds printed

theorem fetchCommand_file (filed : given.outputFile? = some path) (url : String) :
    fetchCommand given url = (do
      Action.fetch fun world => (fetchSettings given).fetchFile world url path
      Action.print ("Saved " ++ url ++ " to " ++ path)) := by
  have filed : (given.value? "--output").filter (fun path => !path.isEmpty) = some path := filed
  rw [fetchCommand, filed]

theorem fetchCommand_error (filed : given.outputFile? = some path)
    (outside : ∀ cache ∈ (fetchSettings given).cache? none, ∀ name,
      Path.spot path ≠ Path.spot cache ++ [name])
    (h : (fetchCommand given url).run shell = (after, .error fault)) :
    KeptOrMade ((fetchSettings given).cache? none) (Path.spot path)
      shell.world.files after.world.files := by
  rw [fetchCommand_file filed] at h
  rcases Action.run_bind_eq_error.mp h with fetch | ⟨between, _, -, print⟩
  · obtain ⟨rfl, failed⟩ := Prod.mk.inj fetch
    dsimp only
    rw [Web.fetchFile_error failed]
    exact Web.keptOrMade_fetchText _ _ _ _ outside
  · cases (Prod.mk.inj print).2

theorem fetchCommand_ok (arguments : given.arguments = [url])
    (filed : given.outputFile? = some path)
    (h : (fetchCommand given url).run shell = (after, .ok ())) :
    Delivers given path shell after .fetch := by
  rw [fetchCommand_file filed] at h
  obtain ⟨between, _, fetch, print⟩ := Action.run_bind_eq_ok.mp h
  obtain ⟨rfl, -⟩ := Prod.mk.inj print
  obtain ⟨rfl, done⟩ := Prod.mk.inj fetch
  obtain ⟨text, fetched, modified, holds⟩ := Web.fetchFile_ok done
  exact .fetch arguments fetched holds rfl

end

/-! ### Checked calls -/

section

variable {files : FileTree} {command : Command} {given : Given} {path : String}
  {shell after : Shell}

theorem cache?_table {source : String} (arguments : given.arguments = [source]) :
    Command.table.cache? given = sourceCache? given source (given.has "--browser") := by
  unfold Command.cache?
  rw [arguments]

theorem cache?_fetch {url : String} (arguments : given.arguments = [url]) :
    Command.fetch.cache? given = (fetchSettings given).cache? none := by
  unfold Command.cache?
  rw [arguments]

section

variable (writes : command = .table ∨ command = .fetch)
  (checked : check files command.spec given = .ok ()) (filed : given.outputFile? = some path)
  (outside : ∀ cache ∈ command.cache? given, ∀ name, Path.spot path ≠ Path.spot cache ++ [name])

include writes checked filed outside

theorem command_error {fault : Fault}
    (h : (command.run given).run shell = (after, .error fault)) :
    KeptOrMade (command.cache? given) (Path.spot path) shell.world.files after.world.files := by
  rcases writes with rfl | rfl
  · obtain ⟨source, arguments⟩ := single_of_checked rfl rfl checked
    rw [cache?_table arguments] at outside ⊢
    rw [run_table arguments] at h
    exact tableCommand_error filed outside h
  · obtain ⟨url, arguments⟩ := single_of_checked rfl rfl checked
    rw [cache?_fetch arguments] at outside ⊢
    rw [run_fetch arguments] at h
    exact fetchCommand_error filed outside h

theorem command_ok (h : (command.run given).run shell = (after, .ok ())) :
    Delivers given path shell after command := by
  rcases writes with rfl | rfl
  · obtain ⟨source, arguments⟩ := single_of_checked rfl rfl checked
    rw [cache?_table arguments] at outside
    rw [run_table arguments] at h
    exact tableCommand_ok arguments filed outside h
  · obtain ⟨url, arguments⟩ := single_of_checked rfl rfl checked
    rw [run_fetch arguments] at h
    exact fetchCommand_ok arguments filed h

end

end

/-! ### Endings -/

/-- What a command has delivered stays in its file when nothing is printed any more. -/
theorem Delivers.mono {given : Given} {path : String} {before after later : Shell}
    {command : Command} (h : Delivers given path before after command)
    (same : later.world.files.node? (Path.spot path) = after.world.files.node? (Path.spot path))
    (silent : later.output = after.output) : Delivers given path before later command := by
  cases h with
  | table arguments loaded read written holds printed =>
    exact .table arguments loaded read written (same.trans holds) (silent.trans printed)
  | fetch arguments fetched holds printed =>
    exact .fetch arguments fetched (same.trans holds) (silent.trans printed)

/-! ### Calls -/

section

variable {command : Command} {arguments : List String} {given : Given} {path : String}

theorem runCommand_delivers (writes : command = .table ∨ command = .fetch)
    (call : read command.spec arguments = .ok given) (calm : given.has helpName = false)
    (filed : given.outputFile? = some path)
    (outside : ∀ cache ∈ command.cache? given, ∀ name, Path.spot path ≠ Path.spot cache ++ [name])
    (shell : Shell) :
    ((runCommand command arguments shell).2.code ≠ 0 →
      KeptOrMade (command.cache? given) (Path.spot path) shell.world.files
        (runCommand command arguments shell).1.world.files) ∧
    ((runCommand command arguments shell).2.code = 0 →
      Delivers given path shell (runCommand command arguments shell).1 command) := by
  rcases runCommand_read call calm shell with ⟨fault, refused⟩ | ⟨checked, ran⟩
  · rw [refused, world_finish]
    exact ⟨fun _ => .refl _ _ _, fun done => absurd done (Nat.succ_ne_zero 1)⟩
  · rw [ran]
    rcases h : (command.run given).run shell with ⟨after, fault | done⟩
    · refine ⟨fun _ => ?_, fun done => ?_⟩
      · rw [world_finish]
        exact command_error writes checked filed outside h
      · have succeeded := (code_ending command.explained (.error fault)).mp done
        cases succeeded
    · refine ⟨fun failed => absurd rfl failed, fun _ => ?_⟩
      refine (command_ok writes checked filed outside h).mono ?_ ?_
      · rw [world_finish]
      · rw [output_finish]

end

section

variable {command : Command} {arguments : List String} {given : Given} {path : String}
  {trace : Option String}

theorem runTraced_delivers (writes : command = .table ∨ command = .fetch)
    (call : read command.spec arguments = .ok given) (calm : given.has helpName = false)
    (filed : given.outputFile? = some path)
    (outside : ∀ cache ∈ command.cache? given, ∀ name, Path.spot path ≠ Path.spot cache ++ [name])
    (apart : ∀ file ∈ trace, Path.spot path ≠ Path.spot file) (shell : Shell) :
    ((runTraced trace command arguments shell).2.code ≠ 0 →
      KeptOrMade (command.cache? given) (Path.spot path) shell.world.files
        (runTraced trace command arguments shell).1.world.files) ∧
    ((runTraced trace command arguments shell).2.code = 0 →
      ∃ opened, withTrace trace shell = (opened, .ok ()) ∧
        Delivers given path opened (runTraced trace command arguments shell).1 command) := by
  cases trace with
  | none =>
    obtain ⟨fails, succeeds⟩ := runCommand_delivers writes call calm filed outside shell
    exact ⟨fails, fun done => ⟨shell, rfl, succeeds done⟩⟩
  | some file =>
    have apart := apart file rfl
    have before : KeptOrMade (command.cache? given) (Path.spot path) shell.world.files
        (openTrace file shell).1.world.files := .inl (node?_openTrace shell apart)
    rw [withTrace]
    rcases opens : openTrace file shell with ⟨opened, fault | _⟩
    · rw [opens] at before
      rw [runTraced_refused opens]
      exact ⟨fun _ => before, fun done => absurd done Nat.one_ne_zero⟩
    · rw [opens] at before
      rw [runTraced_opened opens]
      obtain ⟨fails, succeeds⟩ := runCommand_delivers writes call calm filed outside opened
      have last := node?_closeTrace (runCommand command arguments opened).1 apart
      dsimp only at before ⊢
      refine ⟨fun failed => before.trans ((fails failed).trans (.inl last)),
        fun done => ⟨opened, rfl, ?_⟩⟩
      exact (succeeds done).mono last (output_closeTrace file _)

end

/-! ### The program -/

/-- A command that is to write a file writes the whole of it or leaves it alone. If the run ends
with code 0, the file holds the complete text of all selected rows, or the whole text that was
fetched, and the number of records that is reported is that of the rows. Otherwise what stood there
stands there still; where nothing stood there may be a directory, if it is on the way to the cache
in which the command keeps a page. -/
theorem run_delivers {arguments : List String} {trace : Option String} {command : Command}
    {given : Given} {path : String} (call : Invokes arguments trace command given)
    (writes : command = .table ∨ command = .fetch) (filed : given.outputFile? = some path)
    (outside : ∀ cache ∈ command.cache? given, ∀ name, Path.spot path ≠ Path.spot cache ++ [name])
    (apart : ∀ file ∈ trace, Path.spot path ≠ Path.spot file) (shell : Shell) :
    ((run arguments shell).2.code ≠ 0 →
      KeptOrMade (command.cache? given) (Path.spot path) shell.world.files
        (run arguments shell).1.world.files) ∧
    ((run arguments shell).2.code = 0 →
      ∃ opened, withTrace trace shell = (opened, .ok ()) ∧
        Delivers given path opened (run arguments shell).1 command) := by
  rcases run_of_invokes call shell with ⟨fault, refused⟩ | ⟨rest, call, quiet, ran⟩
  · rw [refused, world_finish]
    exact ⟨fun _ => .refl _ _ _, fun done => absurd done (Nat.succ_ne_zero 1)⟩
  · rw [ran]
    exact runTraced_delivers writes call quiet filed outside apart shell

/-- The records of a table in a file are written to another file. -/
theorem run_delivers_table :
    let call := ["table", "p", "-H", "a", "-o", "f"]
    let given : Given := ⟨[("--header", some "a"), ("--output", some "f")], ["p"]⟩
    let shell := pageInFile "<table><tr><td>x</table>"
    Invokes call none .table given ∧ given.outputFile? = some "f" ∧
      Command.table.cache? given = none ∧ (run call shell).2.code = 0 ∧
      (run call shell).1.world.files.node? ["f"] =
        some (.file (Utf8.encode "\"a\"\n\"x\"".toList) 0) ∧
      ∃ opened, withTrace none shell = (opened, .ok ()) ∧
        Delivers given "f" opened (run call shell).1 .table := by
  intro call given shell
  have before : read programSpec call = .ok ⟨[], call⟩ := by decide +kernel
  have invokes : Invokes call none .table given :=
    .intro before (by decide) (by decide) rfl (by decide) (by decide +kernel) (by decide)
  have filed : given.outputFile? = some "f" := by decide +kernel
  have uncached : Command.table.cache? given = none := by decide +kernel
  have done : (run call shell).2.code = 0 := by decide +kernel
  refine ⟨invokes, filed, uncached, done, by decide +kernel, ?_⟩
  have outside : ∀ cache ∈ Command.table.cache? given, ∀ name,
      Path.spot "f" ≠ Path.spot cache ++ [name] := by
    rw [uncached]
    simp
  exact (run_delivers invokes (.inl rfl) filed outside (by simp) shell).2 done

/-- A page on the web, and no files. -/
def pageOnWeb : Shell where
  world := { files := [], now := 0, site := [("http://h/x", .page 200 "one")] }

/-- A command that is to write a file above its cache fails, and a directory stands in its place. -/
theorem run_makes_directory :
    let call := ["fetch", "http://h/x", "--cache-dir", "out/c", "-o", "out"]
    let given : Given := ⟨[("--cache-dir", some "out/c"), ("--output", some "out")], ["http://h/x"]⟩
    Invokes call none .fetch given ∧ given.outputFile? = some "out" ∧
      Command.fetch.cache? given = some "out/c" ∧
      (∀ name rest, Path.spot "out" ≠ Path.spot "out/c" ++ name :: rest) ∧
      pageOnWeb.world.files.node? (Path.spot "out") = none ∧
      (run call pageOnWeb).2.code = 1 ∧
      (run call pageOnWeb).1.world.files.node? (Path.spot "out") = some .directory := by
  intro call given
  have before : read programSpec call = .ok ⟨[], call⟩ := by decide +kernel
  have invokes : Invokes call none .fetch given :=
    .intro before (by decide) (by decide) rfl (by decide) (by decide +kernel) (by decide)
  have file : Path.spot "out" = ["out"] := by decide +kernel
  have cache : Path.spot "out/c" = ["out", "c"] := by decide +kernel
  refine ⟨invokes, by decide +kernel, by decide +kernel, ?_, by decide +kernel, by decide +kernel,
    by decide +kernel⟩
  rw [file, cache]
  simp

end RaggedTables.CommandLine
