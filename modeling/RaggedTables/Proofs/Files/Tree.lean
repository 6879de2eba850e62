import RaggedTables.Proofs.Fields
import RaggedTables.Proofs.Files.Path
import RaggedTables.Proofs.Files.Utf8

/-! What the operations on files leave. A path leads to one place at most, whatever the files are,
and an operation changes what stands at the place of its path; making a directory may make those
above it and changes nothing that is there. -/

namespace RaggedTables

/-- Where a name leads from a place. -/
def Path.step (here : List String) (name : String) : List String :=
  if name = ".." then here.dropLast else here ++ [name]

/-- The place to which a path leads when all of its directories are there. -/
def Path.spot (path : String) : List String := (names path).foldl step []

theorem Path.spot_join {name : String} (isName : IsName name) (base : String) :
    spot (join base name) = spot base ++ [name] := by
  rw [spot, names_join isName, List.foldl_append, ← spot]
  simp [step, isName.notBack]

/-- The places that a path leads through, and the one at which it ends. -/
def Path.Through (path : String) (place : List String) : Prop :=
  ∃ n, place = ((names path).take n).foldl step []

theorem Path.through_spot (path : String) : Through path (spot path) :=
  ⟨(names path).length, by rw [List.take_length, spot]⟩

theorem Path.Through.of_parent {path : String} {place : List String}
    (h : Through (parent path) place) : Through path place := by
  obtain ⟨n, rfl⟩ := h
  refine ⟨min n ((names path).length - 1), ?_⟩
  rw [names_parent, List.dropLast_eq_take, List.take_take]

theorem Path.through_normal {path : String} {place : List String} :
    Through (normal path) place ↔ Through path place := by
  rw [Through, Through, names_normal]

namespace FileTree

variable {tree files : FileTree} {path : String} {spot other : List String}

/-! ### Nodes -/

@[simp] theorem node?_nil : tree.node? [] = some .directory := rfl

theorem node?_of_ne (h : spot ≠ []) : tree.node? spot = tree.get? spot := by
  cases spot with
  | nil => exact absurd rfl h
  | cons => rfl

theorem node?_put_self (h : spot ≠ []) (node : FileNode) :
    node? (tree.put spot node) spot = some node := by
  rw [node?_of_ne h, Fields.get?_put_self]

theorem node?_put_of_ne (h : other ≠ spot) (node : FileNode) :
    node? (tree.put spot node) other = tree.node? other := by
  cases other with
  | nil => rfl
  | cons name rest => exact Fields.get?_put_of_ne tree node h

/-- The tree without what stands at a place. -/
def without (tree : FileTree) (spot : List String) : FileTree :=
  tree.filter fun entry => entry.1 != spot

theorem get?_without (tree : FileTree) (spot other : List String) :
    (tree.without spot).get? other = if other = spot then none else tree.get? other := by
  induction tree with
  | nil => simp [without, Fields.get?]
  | cons entry rest ih =>
    obtain ⟨place, node⟩ := entry
    rw [without] at ih
    by_cases hplace : place = spot
    · subst hplace
      rw [without, List.filter_cons_of_neg (by simp), ih]
      by_cases ho : other = place
      · simp [ho]
      · have apart : (place == other) = false := beq_false_of_ne fun e => ho e.symm
        simp [ho, Fields.get?, apart]
    · rw [without, List.filter_cons_of_pos (by simpa using hplace), Fields.get?, ih, Fields.get?]
      by_cases ho : place = other
      · subst ho
        simp [hplace]
      · simp [ho]

theorem node?_without_self (h : spot ≠ []) : (tree.without spot).node? spot = none := by
  rw [node?_of_ne h, get?_without, if_pos rfl]

theorem node?_without_of_ne (h : other ≠ spot) :
    (tree.without spot).node? other = tree.node? other := by
  cases other with
  | nil => rfl
  | cons name rest => exact (get?_without tree spot _).trans (if_neg h)

/-! ### Walking -/

theorem walk_cons (tree : FileTree) (path : String) (here : List String) (name : String)
    (rest : List String) :
    walk tree path here (name :: rest) =
      match tree.node? here with
      | none => .error (notFound path)
      | some (.file ..) => .error (notDirectory path)
      | some .directory =>
        if longestName < name.utf8ByteSize then .error (nameTooLong path)
        else walk tree path (Path.step here name) rest := rfl

theorem walk_cons_ok {here : List String} {name : String} {rest : List String} :
    walk tree path here (name :: rest) = .ok spot ↔
      tree.node? here = some .directory ∧ name.utf8ByteSize ≤ longestName ∧
        walk tree path (Path.step here name) rest = .ok spot := by
  rw [walk_cons]
  cases tree.node? here with
  | none => simp
  | some node =>
    cases node with
    | file => simp
    | directory =>
      by_cases long : longestName < name.utf8ByteSize
      · simp [long, Nat.not_le.mpr long]
      · simp [long, Nat.not_lt.mp long]

/-- Walking ends where the names lead. -/
theorem walk_ok {here names : List String} (h : walk tree path here names = .ok spot) :
    names.foldl Path.step here = spot ∧ ∀ name ∈ names, name.utf8ByteSize ≤ longestName := by
  induction names generalizing here with
  | nil => exact ⟨by simpa [walk] using h, by simp⟩
  | cons name rest ih =>
    obtain ⟨-, short, h⟩ := walk_cons_ok.mp h
    obtain ⟨hspot, hrest⟩ := ih h
    exact ⟨hspot, by simpa using ⟨short, hrest⟩⟩

/-- Where one tree can be walked, so can any tree that has its directories. -/
theorem walk_of_directories {path' : String} {here names : List String}
    (directories : ∀ place, tree.node? place = some .directory →
      files.node? place = some .directory)
    (h : walk tree path here names = .ok spot) : walk files path' here names = .ok spot := by
  induction names generalizing here with
  | nil => exact h
  | cons name rest ih =>
    obtain ⟨hhere, short, h⟩ := walk_cons_ok.mp h
    exact walk_cons_ok.mpr ⟨directories _ hhere, short, ih h⟩

theorem walk_error {here names : List String} {fault : FileFault}
    (h : walk tree path here names = .error fault) :
    fault = notFound path ∨ fault = notDirectory path ∨
      fault = nameTooLong path ∧ ∃ name ∈ names, longestName < name.utf8ByteSize := by
  induction names generalizing here with
  | nil => simp [walk] at h
  | cons name rest ih =>
    rw [walk_cons] at h
    split at h
    · exact .inl (Except.error.inj h).symm
    · exact .inr (.inl (Except.error.inj h).symm)
    · split at h
      · exact .inr (.inr ⟨(Except.error.inj h).symm, name, by simp, by assumption⟩)
      · rcases ih h with h | h | ⟨h, n, hn, long⟩
        · exact .inl h
        · exact .inr (.inl h)
        · exact .inr (.inr ⟨h, n, by simp [hn], long⟩)

theorem walk_concat_ok {here names : List String} {name : String} :
    walk tree path here (names ++ [name]) = .ok spot ↔
      ∃ above, walk tree path here names = .ok above ∧ tree.node? above = some .directory ∧
        name.utf8ByteSize ≤ longestName ∧ Path.step above name = spot := by
  induction names generalizing here with
  | nil =>
    rw [List.nil_append, walk_cons_ok]
    simp [walk]
  | cons first rest ih => simp [walk_cons_ok, ih, and_assoc]

/-! ### Places -/

theorem place_ok :
    tree.place path = .ok spot ↔
      '\x00' ∉ path.toList ∧ walk tree path [] (Path.names path) = .ok spot := by
  unfold place
  by_cases null : '\x00' ∈ path.toList
  · simp [null]
  · cases walk tree path [] (Path.names path) with
    | error fault => simp [null]
    | ok found => simp [null]

theorem spot_of_place (h : tree.place path = .ok spot) : Path.spot path = spot :=
  (walk_ok (place_ok.mp h).2).1

/-- Where one tree has the place of a path, so has any tree that has its directories. -/
theorem place_of_directories
    (directories : ∀ place, tree.node? place = some .directory →
      files.node? place = some .directory)
    (h : tree.place path = .ok spot) : files.place path = .ok spot := by
  obtain ⟨null, walks⟩ := place_ok.mp h
  exact place_ok.mpr ⟨null, walk_of_directories directories walks⟩

theorem hasDirectory_iff :
    tree.hasDirectory path = true ↔
      ∃ spot, tree.place path = .ok spot ∧ tree.node? spot = some .directory := by
  unfold hasDirectory
  cases tree.place path with
  | error fault => simp
  | ok spot => simp

theorem hasDirectory_of_directories
    (directories : ∀ place, tree.node? place = some .directory →
      files.node? place = some .directory)
    (h : tree.hasDirectory path = true) : files.hasDirectory path = true := by
  obtain ⟨spot, hplace, hnode⟩ := hasDirectory_iff.mp h
  exact hasDirectory_iff.mpr ⟨spot, place_of_directories directories hplace, directories _ hnode⟩

/-- A name behind a directory has its place there. -/
theorem place_join {base name : String} (isName : Path.IsName name) :
    tree.place (Path.join base name) = .ok spot ↔
      tree.hasDirectory (Path.normal base) = true ∧ '\x00' ∉ name.toList ∧
        name.utf8ByteSize ≤ longestName ∧ spot = Path.spot base ++ [name] := by
  rw [place_ok, Path.null_join isName, Path.names_join isName, walk_concat_ok, hasDirectory_iff]
  simp only [not_or, place_ok, Path.names_normal]
  constructor
  · rintro ⟨⟨base0, name0⟩, above, walks, isDir, short, rfl⟩
    have hspot : Path.spot base = above := (walk_ok walks).1
    refine ⟨⟨above, ⟨base0, walk_of_directories (fun _ h => h) walks⟩, isDir⟩, name0, short, ?_⟩
    rw [hspot, Path.step, if_neg isName.notBack]
  · rintro ⟨⟨above, ⟨base0, walks⟩, isDir⟩, name0, short, rfl⟩
    have hspot : Path.spot base = above := (walk_ok walks).1
    refine ⟨⟨base0, name0⟩, above, walk_of_directories (fun _ h => h) walks, isDir, short, ?_⟩
    rw [hspot, Path.step, if_neg isName.notBack]

/-! ### Files -/

theorem file_ok {bytes : List UInt8} {modified : Int} :
    tree.file path = .ok (bytes, modified) ↔
      ∃ spot, tree.place path = .ok spot ∧ tree.node? spot = some (.file bytes modified) := by
  unfold file
  rw [bind_eq_ok]
  refine exists_congr fun spot => and_congr_right fun _ => ?_
  cases tree.node? spot with
  | none => simp
  | some node =>
    cases node with
    | directory => simp
    | file b t => simp

theorem file_of_hasDirectory (isDir : tree.hasDirectory path = true) (found : List UInt8 × Int) :
    tree.file path ≠ .ok found := by
  intro here
  obtain ⟨spot, place, directory⟩ := hasDirectory_iff.mp isDir
  obtain ⟨spot', place', there⟩ := file_ok.mp here
  rw [place] at place'
  obtain rfl := Except.ok.inj place'
  rw [directory] at there
  cases there

theorem file_of_long {name : String} (mem : name ∈ Path.names path)
    (long : longestName < name.utf8ByteSize) (found : List UInt8 × Int) :
    tree.file path ≠ .ok found := by
  intro here
  obtain ⟨spot, place, -⟩ := file_ok.mp here
  have short := (walk_ok (place_ok.mp place).2).2 name mem
  omega

theorem read_of_file {bytes : List UInt8} {modified : Int}
    (h : tree.file (Path.normal path) = .ok (bytes, modified)) : tree.read path = textOf bytes := by
  rw [read, h, ok_bind]

theorem writeBytes_ok {bytes : List UInt8} {now : Int} :
    tree.writeBytes path bytes now = .ok files ↔
      ∃ spot, tree.place (Path.normal path) = .ok spot ∧ tree.node? spot ≠ some .directory ∧
        files = tree.put spot (.file bytes now) := by
  unfold writeBytes
  dsimp only
  rw [bind_eq_ok]
  refine exists_congr fun spot => and_congr_right fun _ => ?_
  split
  · rename_i h
    simp [h]
  · rename_i h
    exact ⟨fun e => ⟨h, (Except.ok.inj e).symm⟩, fun e => congrArg Except.ok e.2.symm⟩

theorem write_ok {text : String} {now : Int} :
    tree.write path text now = .ok files ↔
      ∃ spot, tree.place (Path.normal path) = .ok spot ∧ tree.node? spot ≠ some .directory ∧
        files = tree.put spot (.file (Utf8.encode text.toList) now) := by
  rw [write, mapError_eq_ok, writeBytes_ok]

theorem remove_ok :
    tree.remove path = .ok files ↔
      ∃ spot bytes modified, tree.place path = .ok spot ∧
        tree.node? spot = some (.file bytes modified) ∧ files = tree.without spot := by
  unfold remove
  rw [bind_eq_ok]
  constructor
  · rintro ⟨spot, hplace, h⟩
    split at h
    · simp at h
    · simp at h
    · rename_i bytes modified hnode
      exact ⟨spot, bytes, modified, hplace, hnode, (Except.ok.inj h).symm⟩
  · rintro ⟨spot, bytes, modified, hplace, hnode, rfl⟩
    refine ⟨spot, hplace, ?_⟩
    rw [hnode]
    rfl

theorem present_of_place (h : tree.place (Path.normal path) = .ok spot) :
    tree.present path = .ok (tree.node? spot).isSome := by
  rw [present, h]

/-- Unless a name is too long, it can be told whether something stands under a path. -/
theorem present_of_short (short : ∀ name ∈ Path.names path, name.utf8ByteSize ≤ longestName)
    (absent : ∀ spot, tree.place (Path.normal path) = .ok spot → tree.node? spot = none) :
    tree.present path = .ok false := by
  unfold present
  have plain : tree.place (Path.normal path) = .error (.value .nullInPath) ∨
      tree.place (Path.normal path) =
        (walk tree (Path.normal path) [] (Path.names path)).mapError .file := by
    unfold place
    rw [Path.names_normal]
    split
    · exact .inl rfl
    · exact .inr rfl
  rcases plain with h | h
  · rw [h]
  · cases hwalk : walk tree (Path.normal path) [] (Path.names path) with
    | ok spot =>
      rw [hwalk] at h
      have none := absent spot h
      rw [h]
      simp [none]
    | error fault =>
      rw [h, hwalk]
      rcases walk_error hwalk with rfl | rfl | ⟨-, name, hname, long⟩
      · rfl
      · rfl
      · exact absurd (short name hname) (Nat.not_le.mpr long)

/-! ### Directories -/

/-- A tree that has everything another one has, and perhaps more directories. -/
def Extends (before after : FileTree) : Prop :=
  ∀ place, after.node? place = before.node? place ∨
    before.node? place = none ∧ after.node? place = some .directory

theorem Extends.refl (tree : FileTree) : Extends tree tree := fun _ => .inl rfl

theorem Extends.trans {before between after : FileTree} (h : Extends before between)
    (h' : Extends between after) : Extends before after := by
  intro place
  rcases h' place with same | ⟨none, made⟩
  · rw [same]
    exact h place
  · rcases h place with same | ⟨-, made'⟩
    · exact .inr ⟨same ▸ none, made⟩
    · rw [made'] at none
      cases none

theorem Extends.directories {before after : FileTree} (h : Extends before after)
    (place : List String) (isDir : before.node? place = some .directory) :
    after.node? place = some .directory := by
  rcases h place with same | ⟨-, made⟩
  · rw [same, isDir]
  · exact made

/-- Making directories leaves the files as they are. -/
theorem Extends.file_iff {before after : FileTree} (h : Extends before after)
    {place : List String} {bytes : List UInt8} {modified : Int} :
    after.node? place = some (.file bytes modified) ↔
      before.node? place = some (.file bytes modified) := by
  rcases h place with same | ⟨none, made⟩
  · rw [same]
  · simp [none, made]

/-- A tree that has everything another one has, and perhaps directories that a path leads through.
-/
def MakesWay (path : String) (before after : FileTree) : Prop :=
  ∀ place, after.node? place = before.node? place ∨
    before.node? place = none ∧ after.node? place = some .directory ∧ Path.Through path place

theorem MakesWay.refl (path : String) (tree : FileTree) : MakesWay path tree tree :=
  fun _ => .inl rfl

theorem MakesWay.grown {before after : FileTree} (h : MakesWay path before after) :
    Extends before after :=
  fun place => (h place).imp_right fun ⟨absent, made, _⟩ => ⟨absent, made⟩

theorem MakesWay.trans {before between after : FileTree} (h : MakesWay path before between)
    (h' : MakesWay path between after) : MakesWay path before after := by
  intro place
  rcases h' place with same | ⟨none, made, through⟩
  · rw [same]
    exact h place
  · rcases h place with same | ⟨-, made', -⟩
    · exact .inr ⟨same ▸ none, made, through⟩
    · rw [made'] at none
      cases none

theorem MakesWay.of_parent {before after : FileTree}
    (h : MakesWay (Path.parent path) before after) : MakesWay path before after :=
  fun place => (h place).imp_right fun ⟨absent, made, through⟩ => ⟨absent, made, through.of_parent⟩

theorem makesWay_normal {before after : FileTree} :
    MakesWay (Path.normal path) before after ↔ MakesWay path before after := by
  simp only [MakesWay, Path.through_normal]

theorem makeOne_ok (h : tree.makeOne path = .ok files) :
    MakesWay path tree files ∧ files.hasDirectory path = true := by
  unfold makeOne at h
  obtain ⟨spot, hplace, h⟩ := bind_eq_ok.mp h
  split at h
  · simp at h
  · rename_i absent
    obtain rfl := Except.ok.inj h
    have inside : spot ≠ [] := fun e => by simp [e] at absent
    have made : MakesWay path tree (tree.put spot .directory) := by
      intro place
      by_cases hp : place = spot
      · subst hp
        exact .inr ⟨absent, node?_put_self inside _, spot_of_place hplace ▸ Path.through_spot path⟩
      · exact .inl (node?_put_of_ne hp _)
    exact ⟨made, hasDirectory_iff.mpr
      ⟨spot, place_of_directories made.grown.directories hplace, node?_put_self inside _⟩⟩

theorem makeDirectories_ok {fuel : Nat} (h : tree.makeDirectories path fuel = .ok files) :
    MakesWay path tree files ∧ files.hasDirectory path = true := by
  induction fuel generalizing tree path files with
  | zero => exact makeOne_ok h
  | succ fuel ih =>
    rw [makeDirectories] at h
    split at h
    · rename_i made hmade
      obtain rfl := Except.ok.inj h
      exact makeOne_ok hmade
    · split at h
      · split at h
        · simp at h
        · obtain ⟨between, hbetween, h⟩ := bind_eq_ok.mp h
          have above := (ih hbetween).1.of_parent
          split at h
          · rename_i made hmade
            obtain rfl := Except.ok.inj h
            exact ⟨above.trans (makeOne_ok hmade).1, (makeOne_ok hmade).2⟩
          · split at h
            · rename_i there
              obtain rfl := Except.ok.inj h
              exact ⟨above, there⟩
            · simp at h
      · split at h
        · rename_i there
          obtain rfl := Except.ok.inj h
          exact ⟨.refl _ _, there⟩
        · simp at h
    · simp at h

theorem leftByMaking_makesWay (tree : FileTree) (path : String) (fuel : Nat) :
    MakesWay path tree (tree.leftByMaking path fuel) := by
  induction fuel generalizing path with
  | zero => exact .refl _ _
  | succ fuel ih =>
    unfold leftByMaking
    split
    · split
      · split
        · rename_i made
          exact (makeDirectories_ok made).1.of_parent
        · exact (ih _).of_parent
      · exact .refl _ _
    · exact .refl _ _

/-- A directory that was made is there, and all that was there before. -/
theorem makeDirectory_ok (h : tree.makeDirectory path = .ok files) :
    Extends tree files ∧ files.hasDirectory (Path.normal path) = true :=
  ⟨(makeDirectories_ok h).1.grown, (makeDirectories_ok h).2⟩

/-- Only directories on the way to the one that is asked for are made. -/
theorem makeDirectory_makesWay (h : tree.makeDirectory path = .ok files) :
    MakesWay path tree files :=
  makesWay_normal.mp (makeDirectories_ok h).1

theorem leftBehind_makesWay (tree : FileTree) (path : String) :
    MakesWay path tree (tree.leftBehind path) :=
  makesWay_normal.mp (leftByMaking_makesWay _ _ _)

/-- At a place stands what stood there, or where nothing stood a directory that was made on a way.
-/
def KeptOrMade (way : Option String) (place : List String) (before after : FileTree) : Prop :=
  after.node? place = before.node? place ∨
    before.node? place = none ∧ after.node? place = some .directory ∧
      ∃ path ∈ way, Path.Through path place

section

variable {way : Option String} {place : List String} {before between after : FileTree}

theorem KeptOrMade.refl (way : Option String) (place : List String) (tree : FileTree) :
    KeptOrMade way place tree tree := .inl rfl

theorem KeptOrMade.trans (h : KeptOrMade way place before between)
    (h' : KeptOrMade way place between after) : KeptOrMade way place before after := by
  rcases h' with same | ⟨absent, made, through⟩
  · rw [KeptOrMade, same]
    exact h
  · rcases h with same | ⟨-, made', -⟩
    · exact .inr ⟨same ▸ absent, made, through⟩
    · rw [made'] at absent
      cases absent

theorem MakesWay.keptOrMade (h : MakesWay path before after) (place : List String) :
    KeptOrMade (some path) place before after :=
  (h place).imp_right fun ⟨absent, made, through⟩ => ⟨absent, made, path, rfl, through⟩

end

/-! ### Written files -/

section

variable {bytes : List UInt8} {text : String} {now : Int}

theorem spot_of_place_normal (h : tree.place (Path.normal path) = .ok spot) :
    Path.spot path = spot := by
  rw [← spot_of_place h, Path.spot, Path.spot, Path.names_normal]

/-- Writing changes nothing but what stands at the place of the path. -/
theorem node?_writeBytes_of_ne (h : tree.writeBytes path bytes now = .ok files)
    (apart : other ≠ Path.spot path) : files.node? other = tree.node? other := by
  obtain ⟨spot, hplace, -, rfl⟩ := writeBytes_ok.mp h
  rw [spot_of_place_normal hplace] at apart
  exact node?_put_of_ne apart _

theorem node?_write_of_ne (h : tree.write path text now = .ok files)
    (apart : other ≠ Path.spot path) : files.node? other = tree.node? other := by
  rw [write, mapError_eq_ok] at h
  exact node?_writeBytes_of_ne h apart

theorem keptOrMade_write (way : Option String) (h : tree.write path text now = .ok files)
    (apart : other ≠ Path.spot path) : KeptOrMade way other tree files :=
  .inl (node?_write_of_ne h apart)

theorem node?_of_write (h : tree.write path text now = .ok files) :
    files.node? (Path.spot path) = some (.file (Utf8.encode text.toList) now) := by
  obtain ⟨spot, hplace, notDirectory, rfl⟩ := write_ok.mp h
  rw [spot_of_place_normal hplace]
  refine node?_put_self ?_ _
  rintro rfl
  exact notDirectory rfl

/-- A directory is never written over. -/
theorem directories_of_write (h : tree.write path text now = .ok files)
    (isDir : tree.node? other = some .directory) : files.node? other = some .directory := by
  obtain ⟨spot, -, notDirectory, rfl⟩ := write_ok.mp h
  have apart : other ≠ spot := by
    rintro rfl
    exact notDirectory isDir
  rw [node?_put_of_ne apart, isDir]

theorem file_of_write (h : tree.write path text now = .ok files) :
    files.file (Path.normal path) = .ok (Utf8.encode text.toList, now) := by
  obtain ⟨spot, hplace, -⟩ := write_ok.mp h
  refine file_ok.mpr ⟨spot, place_of_directories (fun _ => directories_of_write h) hplace, ?_⟩
  rw [← spot_of_place_normal hplace]
  exact node?_of_write h

end

/-! ### Directories that are there -/

/-- A directory that is there is left as it is. -/
theorem makeDirectory_of_hasDirectory (h : tree.hasDirectory (Path.normal path) = true) :
    tree.makeDirectory path = .ok tree := by
  obtain ⟨spot, hplace, hnode⟩ := hasDirectory_iff.mp h
  have taken : tree.makeOne (Path.normal path) =
      .error (.file (alreadyExists (Path.normal path))) := by
    rw [makeOne, hplace, ok_bind, hnode]
    rfl
  rw [makeDirectory, makeDirectories, taken]
  simp [alreadyExists, h]

end FileTree

end RaggedTables
