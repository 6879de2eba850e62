import RaggedTables.Proofs.Files.Tree

/-! Reading what was written. Wherever a file can be written, its bytes are the text in UTF-8, all
other files stay, and reading it gives the text with its line ends unified: the text itself if there
is no carriage return. -/

namespace RaggedTables

/-- A text with a line feed for each of its line ends. -/
def Utf8.unified (text : String) : String := String.ofList (unifyLines text.toList)

theorem Utf8.unified_eq_self_iff {text : String} : unified text = text ↔ '\r' ∉ text.toList := by
  rw [← unifyLines_eq_self_iff, ← String.toList_inj, unified, String.toList_ofList]

namespace FileTree

/-- A file can be written under a path: its place can be walked to, and no directory is there. -/
def Writable (tree : FileTree) (path : String) : Prop :=
  ∃ spot, tree.place (Path.normal path) = .ok spot ∧ tree.node? spot ≠ some .directory

theorem writable_plain : Writable [] "f.txt" :=
  ⟨["f.txt"], eq_ok_of_toOption (by decide +kernel), by decide⟩

variable {tree : FileTree} {path text : String} {now : Int}

theorem write_of_writable (writable : tree.Writable path) (text : String) (now : Int) :
    ∃ files, tree.write path text now = .ok files := by
  obtain ⟨spot, place, notDirectory⟩ := writable
  exact ⟨_, write_ok.mpr ⟨spot, place, notDirectory, rfl⟩⟩

/-- A file that holds a text is read as that text with its line ends unified. -/
theorem read_of_encoded (h : tree.file (Path.normal path) = .ok (Utf8.encode text.toList, now)) :
    tree.read path = .ok (Utf8.unified text) := by
  rw [read_of_file h, textOf_encode, Utf8.unified]

theorem read_eq_self_iff (h : tree.file (Path.normal path) = .ok (Utf8.encode text.toList, now)) :
    tree.read path = .ok text ↔ '\r' ∉ text.toList := by
  rw [read_of_encoded h, ← Utf8.unified_eq_self_iff]
  exact ⟨Except.ok.inj, congrArg Except.ok⟩

/-- No carriage return is ever read. -/
theorem not_mem_of_read (h : tree.read path = .ok text) : '\r' ∉ text.toList := by
  obtain ⟨⟨bytes, _⟩, -, decoded⟩ := bind_eq_ok.mp h
  dsimp only at decoded
  unfold textOf at decoded
  cases chars : Utf8.decode bytes with
  | error bad =>
    rw [chars] at decoded
    cases decoded
  | ok cs =>
    rw [chars] at decoded
    rw [← Except.ok.inj decoded, String.toList_ofList]
    exact Utf8.not_mem_unifyLines cs

end FileTree

end RaggedTables
