import RaggedTables.Proofs.CommandLine.Actions
import RaggedTables.Proofs.CommandLine.Calls
import RaggedTables.Proofs.CommandLine.Explained
import RaggedTables.Proofs.Page.Parsing
import RaggedTables.Proofs.Table.TextRows

/-! Faults that the table command does not explain. Of all that can go wrong with a page in a file
there are three: no markup in it, a repetition in a template that is too large, and a split whose
mapping comes to a group of the delimiter that took no part. -/

namespace RaggedTables.CommandLine

/-- Why the table command ends with a fault that it does not explain, for the text of a page. -/
inductive Escapes (options : TableOptions) (text : String) : Fault → Prop
  /-- The text declares no encoding and holds no markup. -/
  | noMarkup (undeclared : Markup.declaresEncoding text = false)
      (empty : Markup.fragment? text = none) : Escapes options text .emptyDocument
  /-- A repetition in a template is too large, and no template before it is refused. -/
  | hugeRepeat {page table} (parsed : PageElement.parse text = .ok page)
      (single : theTable page options.tableSelector = .ok table)
      (refused : Header.compileAll options.templates = .error .hugeRepeat) :
      Escapes options text .hugeRepeat
  /-- A mapping comes to a missing piece, in the first row that comes to no record. -/
  | missingPiece {page table headers before row after}
      (parsed : PageElement.parse text = .ok page)
      (single : theTable page options.tableSelector = .ok table)
      (compiled : Header.compileAll options.templates = .ok headers)
      (selected : Table.selectRows table options.rows = .ok (before ++ row :: after))
      (sound : ∀ r ∈ before, ∃ record, Table.plainRow r headers none = .ok record)
      (gap : Record.FirstFails 0 (Table.textCells row) headers (.kind (.notText "NoneType"))) :
      Escapes options text (.kind (.notText "NoneType"))

/-! ### Tables -/

section

variable {options : TableOptions} {text : String} {page table : PageElement} {fault : Fault}

theorem tableText_error :
    (tableText options page).outcome = .error fault ↔
      theTable page options.tableSelector = .error fault ∨
        ∃ table, theTable page options.tableSelector = .ok table ∧
          (Table.plainTable (.element table) options.templates none options.rows = .error fault ∨
            ∃ records,
              Table.plainTable (.element table) options.templates none options.rows = .ok records ∧
                (recordsText options (records.map .ofFields)).outcome = .error fault) := by
  have written (records : List Record) :
      (recordsText options (records.map .ofFields) >>= fun text =>
        (pure (records.length, text) : Traced (Nat × String))).outcome = .error fault ↔
      (recordsText options (records.map .ofFields)).outcome = .error fault := by
    rw [Traced.outcome_bind]
    refine bind_eq_error.trans ⟨?_, .inl⟩
    rintro (fails | ⟨text, -, fails⟩)
    · exact fails
    · cases fails
  rw [tableText, Traced.outcome_bind, Traced.outcome_lift]
  refine bind_eq_error.trans
    (or_congr_right (exists_congr fun table => and_congr_right fun _ => ?_))
  rw [Traced.outcome_bind, outcome_elementRecords]
  refine bind_eq_error.trans
    (or_congr_right (exists_congr fun records => and_congr_right fun _ => ?_))
  exact written records

/-- A table is not read for a fault that is not explained: a template is refused for a large
repetition, or a row meets a missing piece. -/
theorem escapes_of_plainTable (parsed : PageElement.parse text = .ok page)
    (single : theTable page options.tableSelector = .ok table)
    (fails : Table.plainTable (.element table) options.templates none options.rows = .error fault)
    (unexplained : explains fault = false) : Escapes options text fault := by
  have apart (h : explains fault = true) : Escapes options text fault := by
    rw [unexplained] at h
    cases h
  rcases bind_eq_error.mp fails with refused | ⟨headers, compiled, fails⟩
  · rcases explains_compileAll refused with explained | rfl
    · exact apart explained
    · exact .hugeRepeat parsed single refused
  · rw [Table.elementOf, ok_bind] at fails
    rcases bind_eq_error.mp fails with unselected | ⟨rows, selected, fails⟩
    · exact apart (explains_selectRows unselected)
    · obtain ⟨before, row, after, own, rfl, sound, gap, rfl⟩ := Table.plainRows_error.mp fails
      have gap := Table.plainRow_none_error.mp gap
      rcases Record.fault_of_texts (Table.texts_textCells row) gap with ⟨_, _, _, rfl⟩ | rfl
      · exact apart rfl
      · exact .missingPiece parsed single compiled selected sound gap

theorem hasForm_plainTable {records : List Record} {rows : Option String}
    {templates : List (Option String)}
    (h : Table.plainTable (.element table) templates none rows = .ok records) :
    ∀ record ∈ records, Json.HasForm (.ofFields record) := by
  obtain ⟨headers, _, found, -, -, -, each⟩ := Table.plainTable_ok.mp h
  clear h
  induction each with
  | nil => simp
  | cons first _ ih => simpa using ⟨Table.hasForm_plainRow first, ih⟩

/-- What the table command does with the text of a page fails without an explanation for one of the
three reasons alone. -/
theorem escapes_iff :
    (PageElement.parse text >>= fun page => (tableText options page).outcome) = .error fault ∧
        explains fault = false ↔
      Escapes options text fault := by
  constructor
  · rintro ⟨fails, unexplained⟩
    have apart (h : explains fault = true) : Escapes options text fault := by
      rw [unexplained] at h
      cases h
    rcases bind_eq_error.mp fails with unparsed | ⟨page, parsed, fails⟩
    · obtain ⟨-, rfl⟩ | ⟨undeclared, empty, rfl⟩ := PageElement.parse_error.mp unparsed
      · exact apart rfl
      · exact .noMarkup undeclared empty
    · rcases tableText_error.mp fails with
        none | ⟨table, single, unread | ⟨records, read, unwritten⟩⟩
      · exact apart (explains_theTable none)
      · exact escapes_of_plainTable parsed single unread unexplained
      · exact apart (explains_recordsText (hasForm_plainTable read) unwritten)
  · rintro (⟨undeclared, empty⟩ | ⟨parsed, single, refused⟩ |
      ⟨parsed, single, compiled, selected, sound, gap⟩)
    · refine ⟨?_, rfl⟩
      rw [PageElement.parse_error.mpr (.inr ⟨undeclared, empty, rfl⟩), error_bind]
    · refine ⟨?_, rfl⟩
      rw [parsed, ok_bind, tableText_error]
      refine .inr ⟨_, single, .inl ?_⟩
      rw [Table.plainTable, refused, error_bind]
    · refine ⟨?_, rfl⟩
      rw [parsed, ok_bind, tableText_error]
      refine .inr ⟨_, single, .inl ?_⟩
      exact Table.plainTable_failing compiled rfl selected sound (Table.plainRow_none_error.mpr gap)

end

/-! ### The command on a file -/

section

variable {given : Given} {source : String} {shell after : Shell} {fault : Fault}

theorem run_readTable_file (given : Given) (shell : Shell) (onDisk : isAddress source = false) :
    ((readTable given source).run shell).2 =
      shell.world.files.read source >>= fun text =>
        PageElement.parse text >>= fun page => (tableText (.ofGiven given) page).outcome := by
  have load : loadSource given source (given.has "--browser") = filePage source := by
    rw [loadSource, onDisk]
    rfl
  rw [readTable, load]
  have page := run_filePage source shell
  cases read : shell.world.files.read source with
  | error fault =>
    rw [read, error_bind] at page
    rw [Action.run_bind_error page]
    rfl
  | ok text =>
    rw [read, ok_bind] at page
    rw [ok_bind]
    cases parsed : PageElement.parse text with
    | error fault =>
      rw [parsed] at page
      rw [Action.run_bind_error page]
      rfl
    | ok page' =>
      rw [parsed] at page
      rw [Action.run_bind_ok page]
      rfl

/-- A table that has been read is delivered, or its file cannot be written. -/
theorem explains_deliver {options : TableOptions} {count : Nat} {text : String}
    (h : (deliver options count text).run shell = (after, .error fault)) :
    explains fault = true := by
  unfold deliver at h
  split at h
  · cases (Prod.mk.inj h).2
  · rcases Action.run_bind_eq_error.mp h with write | ⟨between, _, -, print⟩
    · unfold Action.writeFile at write
      dsimp only at write
      split at write
      · cases (Prod.mk.inj write).2
      · rename_i unwritten
        rw [← Except.error.inj (Prod.mk.inj write).2]
        exact explains_write unwritten
    · cases (Prod.mk.inj print).2

theorem errors_deliver (options : TableOptions) (count : Nat) (text : String) (shell : Shell) :
    ((deliver options count text).run shell).1.errors = shell.errors := by
  unfold deliver
  split
  · rfl
  · rename_i path _
    rcases write : (Action.writeFile path text).run shell with ⟨between, fault | _⟩
    · rw [Action.run_bind_error write, Action.writeFile_error write]
    · rw [Action.run_bind_ok write]
      obtain ⟨files, -, rfl⟩ := Action.writeFile_ok write
      rfl

/-- The table command on a file ends with a fault that it does not explain for one of the three
reasons alone. -/
theorem tableCommand_unexplained (onDisk : isAddress source = false) :
    ((tableCommand given source).run shell).2 = .error fault ∧ explains fault = false ↔
      ∃ text, shell.world.files.read source = .ok text ∧ Escapes (.ofGiven given) text fault := by
  have read := run_readTable_file given shell onDisk
  rw [run_tableCommand]
  constructor
  · rintro ⟨fails, unexplained⟩
    rcases outcome : (readTable given source).run shell with ⟨between, own | ⟨count, text⟩⟩
    · rw [Action.run_bind_error outcome] at fails
      obtain rfl := Except.error.inj fails
      rw [outcome] at read
      rcases bind_eq_error.mp read.symm with unread | ⟨text, found, fails⟩
      · rw [explains_read unread] at unexplained
        cases unexplained
      · exact ⟨text, found, escapes_iff.mp ⟨fails, unexplained⟩⟩
    · rw [Action.run_bind_ok outcome] at fails
      have explained := explains_deliver (Prod.ext rfl fails)
      rw [explained] at unexplained
      cases unexplained
  · rintro ⟨text, found, escapes⟩
    obtain ⟨fails, unexplained⟩ := escapes_iff.mpr escapes
    rw [found, ok_bind, fails] at read
    rw [Action.run_bind_error (Prod.ext rfl read)]
    exact ⟨rfl, unexplained⟩

/-- A table in a file is read and delivered without a line for errors. -/
theorem errors_tableCommand (onDisk : isAddress source = false) :
    ((tableCommand given source).run shell).1.errors = shell.errors := by
  have uncached : sourceCache? given source (given.has "--browser") = none := by
    rw [sourceCache?, onDisk]
    rfl
  have outside : ∀ cache ∈ sourceCache? given source (given.has "--browser"), ∀ name,
      ([] : List String) ≠ Path.spot cache ++ [name] := by
    rw [uncached]
    simp
  have read := ((spares_readTable given source outside).printed shell).2
  rw [run_tableCommand]
  rcases outcome : (readTable given source).run shell with ⟨between, fault | ⟨count, text⟩⟩
  · rw [Action.run_bind_error outcome]
    rwa [outcome] at read
  · rw [Action.run_bind_ok outcome, errors_deliver]
    rwa [outcome] at read

end

/-! ### The program on a file -/

/-- How a run ends that says what went wrong, if anything did. -/
inductive EndsCleanly (before after : Shell) : Ending → Prop
  | success : EndsCleanly before after .success
  | failure {message} (said : after.errors = before.errors ++ Console.echo ("Error: " ++ message)) :
      EndsCleanly before after (.failure message)
  | misuse {spec : CommandSpec} {wrong}
      (said : after.errors = before.errors ++ Console.echo (wrong.text spec)) :
      EndsCleanly before after (.misuse wrong)

/-- A command that does not print for errors ends cleanly if it explains its fault. -/
theorem endsCleanly_finish {explained : Explained} {outcome : Except Fault Unit}
    {spec : CommandSpec} {before after : Shell} (silent : after.errors = before.errors)
    (caught : ∀ fault, explained.ending outcome ≠ .uncaught fault) :
    EndsCleanly before (finish spec after (explained.ending outcome)).1
      (explained.ending outcome) := by
  cases ending : explained.ending outcome with
  | success => exact .success
  | failure message => exact .failure (by rw [← silent]; rfl)
  | misuse wrong => exact absurd ending (ending_ne_misuse explained outcome wrong)
  | uncaught fault => exact absurd ending (caught fault)

section

variable {arguments : List String} {given : Given} {source : String}

theorem runCommand_table_uncaught (call : read Command.table.spec arguments = .ok given)
    (calm : given.has helpName = false) (one : given.arguments = [source])
    (onDisk : isAddress source = false) (shell : Shell) :
    (∀ fault, (runCommand .table arguments shell).2 = .uncaught fault ↔
      (∀ wrong, (runCommand .table arguments shell).2 ≠ .misuse wrong) ∧
        ∃ text, shell.world.files.read source = .ok text ∧
          Escapes (.ofGiven given) text fault) ∧
    ((∀ fault, (runCommand .table arguments shell).2 ≠ .uncaught fault) →
      EndsCleanly shell (runCommand .table arguments shell).1
        (runCommand .table arguments shell).2) := by
  rcases runCommand_read call calm shell with ⟨wrong, refused⟩ | ⟨-, ran⟩
  · rw [refused]
    exact ⟨fun fault => ⟨nofun, fun h => absurd rfl (h.1 wrong)⟩, fun _ => .misuse rfl⟩
  · rw [ran, run_table one]
    refine ⟨fun fault => ?_, fun caught => ?_⟩
    · refine ending_uncaught.trans ((tableCommand_unexplained onDisk).trans ?_)
      exact ⟨fun escapes => ⟨ending_ne_misuse _ _, escapes⟩, And.right⟩
    · exact endsCleanly_finish (errors_tableCommand onDisk) caught

/-- How the table command ends on a file. A call that is not refused ends with a fault that is not
explained if and only if the file holds a text from which one of the three faults escapes; every
other call ends cleanly. -/
theorem run_table_uncaught (call : Invokes arguments none .table given)
    (one : given.arguments = [source]) (onDisk : isAddress source = false) (shell : Shell) :
    (∀ fault, (run arguments shell).2 = .uncaught fault ↔
      (∀ wrong, (run arguments shell).2 ≠ .misuse wrong) ∧
        ∃ text, shell.world.files.read source = .ok text ∧
          Escapes (.ofGiven given) text fault) ∧
    ((∀ fault, (run arguments shell).2 ≠ .uncaught fault) →
      EndsCleanly shell (run arguments shell).1 (run arguments shell).2) := by
  rcases run_of_invokes call shell with ⟨wrong, refused⟩ | ⟨rest, call, quiet, ran⟩
  · rw [refused]
    exact ⟨fun fault => ⟨nofun, fun h => absurd rfl (h.1 wrong)⟩, fun _ => .misuse rfl⟩
  · rw [ran]
    exact runCommand_table_uncaught call quiet one onDisk shell

end

/-- An empty file ends the table command with a fault that it does not explain. -/
theorem run_table_empty :
    let call := ["table", "p", "-H", "a"]
    let given : Given := ⟨[("--header", some "a")], ["p"]⟩
    Invokes call none .table given ∧ given.arguments = ["p"] ∧ isAddress "p" = false ∧
      (run call (pageInFile "")).2 = .uncaught .emptyDocument := by
  intro call given
  have before : read programSpec call = .ok ⟨[], call⟩ := by decide +kernel
  have invokes : Invokes call none .table given :=
    .intro before (by decide) (by decide) rfl (by decide) (by decide +kernel) (by decide)
  have onDisk : isAddress "p" = false := by decide +kernel
  have code : (run call (pageInFile "")).2.code = 1 := by decide +kernel
  have found : (pageInFile "").world.files.read "p" = .ok "" :=
    eq_ok_of_toOption (by decide +kernel)
  have empty : Markup.fragment? "" = none := by decide +kernel
  refine ⟨invokes, rfl, onDisk, ?_⟩
  refine ((run_table_uncaught invokes rfl onDisk (pageInFile "")).1 _).mpr
    ⟨fun wrong misuse => ?_, "", found, .noMarkup rfl empty⟩
  rw [misuse] at code
  cases code

/-- Whether a run ends with a fault that it does not explain. -/
def Ending.escapes : Ending → Bool
  | .uncaught _ => true
  | _ => false

/-- The run of a table command with one template on a page. -/
def tableRun (template page : String) : Shell × Ending :=
  run ["table", "p", "-H", template] (pageInFile page)

/-- A table command fails without a word of what went wrong. -/
structure FailsSilently (template page : String) : Prop where
  code : (tableRun template page).2.code = 1
  errors : (tableRun template page).1.errors = ""
  unclean : ¬ EndsCleanly (pageInFile page) (tableRun template page).1 (tableRun template page).2

theorem failsSilently {template page : String} (code : (tableRun template page).2.code = 1)
    (errors : (tableRun template page).1.errors = "")
    (escapes : (tableRun template page).2.escapes = true) : FailsSilently template page := by
  refine ⟨code, errors, fun clean => ?_⟩
  revert clean escapes
  cases (tableRun template page).2 <;> nofun

/-- The table command does not end cleanly for each of the three reasons: an empty file, a template
with a large repetition, and a mapping whose delimiter has a group that takes no part. -/
theorem run_table_escapes :
    FailsSilently "a" "" ∧
      FailsSilently "a//x\x7b99999999999\x7d\\\\" "<table><tr><td>x</table>" ∧
      FailsSilently "a\x7b\x7b(,)|;\x7d\x7d<<(.)(.)>>" "<table><tr><td>ab;cd</table>" :=
  ⟨failsSilently (by decide +kernel) (by decide +kernel) (by decide +kernel),
    failsSilently (by decide +kernel) (by decide +kernel) (by decide +kernel),
    failsSilently (by decide +kernel) (by decide +kernel) (by decide +kernel)⟩

end RaggedTables.CommandLine
