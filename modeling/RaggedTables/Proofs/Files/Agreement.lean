import RaggedTables.Proofs.Files.Tree

/-! Trees that agree on the way to a directory and directly in it. An operation on a name in that
directory does the same to both, so what any other file holds, and when it was written, makes no
difference to it. -/

namespace RaggedTables.FileTree

/-- Whether what stands at a place is a directory, if anything stands there. -/
def isDirectory? (tree : FileTree) (place : List String) : Option Bool :=
  (tree.node? place).map fun node =>
    match node with
    | .directory => true
    | .file .. => false

/-- The same directories and files stand on the way to a directory, and the same files with the same
contents and times directly in it. -/
structure AgreeIn (directory : String) (one two : FileTree) : Prop where
  way : ∀ place, Path.Through directory place → two.isDirectory? place = one.isDirectory? place
  inside : ∀ name, two.node? (Path.spot directory ++ [name]) =
    one.node? (Path.spot directory ++ [name])

section

variable {tree one two : FileTree} {place : List String}

theorem isDirectory?_of_node (h : two.node? place = one.node? place) :
    two.isDirectory? place = one.isDirectory? place := by
  rw [isDirectory?, h, isDirectory?]

theorem node?_eq_none_iff : tree.node? place = none ↔ tree.isDirectory? place = none := by
  rw [isDirectory?, Option.map_eq_none_iff]

theorem node?_eq_directory_iff :
    tree.node? place = some .directory ↔ tree.isDirectory? place = some true := by
  rw [isDirectory?]
  cases tree.node? place with
  | none => simp
  | some node => cases node <;> simp

/-! ### Walking -/

/-- A step of a walk looks only at whether a directory stands there. -/
theorem walk_cons_kind (tree : FileTree) (path : String) (here : List String) (name : String)
    (rest : List String) :
    walk tree path here (name :: rest) =
      match tree.isDirectory? here with
      | none => .error (notFound path)
      | some false => .error (notDirectory path)
      | some true =>
        if longestName < name.utf8ByteSize then .error (nameTooLong path)
        else walk tree path (Path.step here name) rest := by
  rw [walk_cons, isDirectory?]
  cases tree.node? here with
  | none => rfl
  | some node => cases node <;> rfl

theorem walk_congr {path : String} {here names : List String}
    (same : ∀ n < names.length, two.isDirectory? ((names.take n).foldl Path.step here) =
      one.isDirectory? ((names.take n).foldl Path.step here)) :
    walk two path here names = walk one path here names := by
  induction names generalizing here with
  | nil => rfl
  | cons name rest ih =>
    have first : two.isDirectory? here = one.isDirectory? here := same 0 (by simp)
    have later :
        walk two path (Path.step here name) rest = walk one path (Path.step here name) rest := by
      apply ih
      intro n hn
      exact same (n + 1) (by simpa using hn)
    rw [walk_cons_kind, walk_cons_kind, first, later]

theorem place_congr {path : String}
    (same : ∀ n < (Path.names path).length,
      two.isDirectory? (((Path.names path).take n).foldl Path.step []) =
        one.isDirectory? (((Path.names path).take n).foldl Path.step [])) :
    two.place path = one.place path := by
  rw [place, place, walk_congr same]

end

namespace AgreeIn

variable {directory path name : String} {one two : FileTree} {spot : List String}

theorem refl (directory : String) (tree : FileTree) : AgreeIn directory tree tree :=
  ⟨fun _ _ => rfl, fun _ => rfl⟩

/-- Trees still agree after the same change of one place. -/
theorem changed {one' two' : FileTree} (agree : AgreeIn directory one two)
    (here : two'.node? spot = one'.node? spot)
    (others : ∀ other, other ≠ spot →
      one'.node? other = one.node? other ∧ two'.node? other = two.node? other) :
    AgreeIn directory one' two' := by
  constructor
  · intro place through
    by_cases same : place = spot
    · subst same
      exact isDirectory?_of_node here
    · obtain ⟨kept, kept'⟩ := others place same
      rw [isDirectory?_of_node kept, isDirectory?_of_node kept', agree.way place through]
  · intro name
    by_cases same : Path.spot directory ++ [name] = spot
    · rw [same, here]
    · obtain ⟨kept, kept'⟩ := others _ same
      rw [kept, kept', agree.inside name]

theorem put (agree : AgreeIn directory one two) (spot : List String) (node : FileNode) :
    AgreeIn directory (one.put spot node) (two.put spot node) := by
  refine agree.changed ?_ fun other (apart : other ≠ spot) =>
    ⟨node?_put_of_ne apart node, node?_put_of_ne apart node⟩
  by_cases top : spot = []
  · subst top
    rfl
  · rw [node?_put_self top, node?_put_self top]

theorem without (agree : AgreeIn directory one two) (spot : List String) :
    AgreeIn directory (one.without spot) (two.without spot) := by
  refine agree.changed ?_ fun other (apart : other ≠ spot) =>
    ⟨node?_without_of_ne apart, node?_without_of_ne apart⟩
  by_cases top : spot = []
  · subst top
    rfl
  · rw [node?_without_self top, node?_without_self top]

/-! ### On the way to the directory -/

/-- A path that leads through no other places than the one to the directory does. -/
def OnWay (directory path : String) : Prop :=
  ∀ place, Path.Through path place → Path.Through directory place

theorem onWay_normal (directory : String) : OnWay directory (Path.normal directory) :=
  fun _ => Path.through_normal.mp

theorem OnWay.parent (way : OnWay directory path) : OnWay directory (Path.parent path) :=
  fun place through => way place through.of_parent

section

variable (agree : AgreeIn directory one two) (way : OnWay directory path)
include agree way

theorem place : two.place path = one.place path := by
  apply place_congr
  intro n _
  exact agree.way _ (way _ ⟨n, rfl⟩)

theorem isDirectory?_spot (found : one.place path = .ok spot) :
    two.isDirectory? spot = one.isDirectory? spot := by
  apply agree.way
  apply way
  rw [← spot_of_place found]
  exact Path.through_spot path

theorem hasDirectory : two.hasDirectory path = one.hasDirectory path := by
  have same := agree.place way
  rw [Bool.eq_iff_iff, hasDirectory_iff, hasDirectory_iff, same]
  refine exists_congr fun spot => and_congr_right fun found => ?_
  rw [node?_eq_directory_iff, node?_eq_directory_iff, agree.isDirectory?_spot way found]

end

/-- Two attempts that fail in the same way, or leave trees that agree. -/
inductive Alike (directory : String) : Except Fault FileTree → Except Fault FileTree → Prop
  | failed (fault : Fault) : Alike directory (.error fault) (.error fault)
  | done {one two : FileTree} (agree : AgreeIn directory one two) :
      Alike directory (.ok one) (.ok two)

theorem makeOne (agree : AgreeIn directory one two) (way : OnWay directory path) :
    Alike directory (one.makeOne path) (two.makeOne path) := by
  unfold FileTree.makeOne
  rw [agree.place way]
  cases found : one.place path with
  | error fault => exact .failed fault
  | ok spot =>
    rw [ok_bind, ok_bind]
    have kind := agree.isDirectory?_spot way found
    cases there : one.node? spot with
    | none =>
      have there' : two.node? spot = none := by
        rw [node?_eq_none_iff, kind, ← node?_eq_none_iff, there]
      rw [there']
      exact .done (agree.put spot .directory)
    | some node =>
      have taken : two.node? spot ≠ none := by
        rw [ne_eq, node?_eq_none_iff, kind, ← node?_eq_none_iff, there]
        simp
      obtain ⟨node', there'⟩ := Option.ne_none_iff_exists'.mp taken
      rw [there']
      exact .failed _

theorem makeDirectories (agree : AgreeIn directory one two) (way : OnWay directory path)
    (fuel : Nat) :
    Alike directory (one.makeDirectories path fuel) (two.makeDirectories path fuel) := by
  induction fuel generalizing one two path with
  | zero => exact agree.makeOne way
  | succ fuel ih =>
    have first := agree.makeOne way
    unfold FileTree.makeDirectories
    generalize one.makeOne path = made at first
    generalize two.makeOne path = made' at first
    cases first with
    | done made => exact .done made
    | failed fault =>
      cases fault with
      | file reason =>
        dsimp only
        by_cases missing : reason.code = some 2
        · rw [if_pos missing, if_pos missing]
          by_cases top : Path.parent path = path
          · rw [if_pos top, if_pos top]
            exact .failed _
          · rw [if_neg top, if_neg top]
            have above := ih agree way.parent
            generalize one.makeDirectories (Path.parent path) fuel = above₁ at above
            generalize two.makeDirectories (Path.parent path) fuel = above₂ at above
            cases above with
            | failed fault => exact .failed fault
            | @done one' two' agree' =>
              rw [ok_bind, ok_bind]
              have again := agree'.makeOne way
              have there := agree'.hasDirectory way
              generalize one'.makeOne path = again₁ at again
              generalize two'.makeOne path = again₂ at again
              cases again with
              | done made => exact .done made
              | failed fault =>
                dsimp only
                rw [there]
                cases one'.hasDirectory path with
                | true => exact .done agree'
                | false => exact .failed fault
        · rw [if_neg missing, if_neg missing, agree.hasDirectory way]
          cases one.hasDirectory path with
          | true => exact .done agree
          | false => exact .failed _
      | _ => exact .failed _

theorem makeDirectory (agree : AgreeIn directory one two) :
    Alike directory (one.makeDirectory (Path.normal directory))
      (two.makeDirectory (Path.normal directory)) := by
  unfold FileTree.makeDirectory
  dsimp only
  rw [Path.normal_normal]
  exact agree.makeDirectories (onWay_normal directory) _

theorem leftByMaking (agree : AgreeIn directory one two) (way : OnWay directory path) (fuel : Nat) :
    AgreeIn directory (one.leftByMaking path fuel) (two.leftByMaking path fuel) := by
  induction fuel generalizing path with
  | zero => exact agree
  | succ fuel ih =>
    have first := agree.makeOne way
    unfold FileTree.leftByMaking
    generalize one.makeOne path = made at first
    generalize two.makeOne path = made' at first
    cases first with
    | done made => exact agree
    | failed fault =>
      cases fault with
      | file reason =>
        dsimp only
        split
        · have above := agree.makeDirectories way.parent fuel
          generalize one.makeDirectories (Path.parent path) fuel = above₁ at above
          generalize two.makeDirectories (Path.parent path) fuel = above₂ at above
          cases above with
          | done agree' => exact agree'
          | failed fault => exact ih way.parent
        · exact agree
      | _ => exact agree

theorem leftBehind (agree : AgreeIn directory one two) :
    AgreeIn directory (one.leftBehind (Path.normal directory))
      (two.leftBehind (Path.normal directory)) := by
  unfold FileTree.leftBehind
  dsimp only
  rw [Path.normal_normal]
  exact agree.leftByMaking (onWay_normal directory) _

/-! ### A name in the directory -/

section

variable (agree : AgreeIn directory one two) (isName : Path.IsName name)
include agree isName

theorem place_join :
    two.place (Path.join directory name) = one.place (Path.join directory name) := by
  apply place_congr
  rw [Path.names_join isName]
  intro n hn
  have above : n ≤ (Path.names directory).length := by
    rw [List.length_append, List.length_singleton] at hn
    omega
  rw [List.take_append_of_le_length above]
  exact agree.way _ ⟨n, rfl⟩

theorem node?_join (found : one.place (Path.join directory name) = .ok spot) :
    two.node? spot = one.node? spot := by
  rw [← spot_of_place found, Path.spot_join isName]
  exact agree.inside name

theorem file_join : two.file (Path.join directory name) = one.file (Path.join directory name) := by
  unfold FileTree.file
  rw [agree.place_join isName]
  cases found : one.place (Path.join directory name) with
  | error fault => rfl
  | ok spot => rw [ok_bind, ok_bind, agree.node?_join isName found]

theorem read_join : two.read (Path.join directory name) = one.read (Path.join directory name) := by
  rw [FileTree.read, Path.normal_join isName, agree.file_join isName, FileTree.read,
    Path.normal_join isName]

theorem present_join :
    two.present (Path.join directory name) = one.present (Path.join directory name) := by
  unfold FileTree.present
  rw [Path.normal_join isName, agree.place_join isName]
  cases found : one.place (Path.join directory name) with
  | ok spot =>
    dsimp only
    rw [agree.node?_join isName found]
  | error fault =>
    cases fault with
    | value cause => cases cause <;> rfl
    | _ => rfl

theorem remove_join :
    Alike directory (one.remove (Path.join directory name))
      (two.remove (Path.join directory name)) := by
  unfold FileTree.remove
  rw [agree.place_join isName]
  cases found : one.place (Path.join directory name) with
  | error fault => exact .failed fault
  | ok spot =>
    rw [ok_bind, ok_bind, agree.node?_join isName found]
    cases one.node? spot with
    | none => exact .failed _
    | some node =>
      cases node with
      | directory => exact .failed _
      | file bytes modified => exact .done (agree.without spot)

theorem write_join (text : String) (now : Int) :
    Alike directory (one.write (Path.join directory name) text now)
      (two.write (Path.join directory name) text now) := by
  unfold FileTree.write FileTree.writeBytes
  dsimp only
  rw [Path.normal_join isName, agree.place_join isName]
  cases found : one.place (Path.join directory name) with
  | error fault => exact .failed _
  | ok spot =>
    rw [ok_bind, ok_bind, agree.node?_join isName found]
    have written := agree.put spot (.file (Utf8.encode text.toList) now)
    cases one.node? spot with
    | none => exact .done written
    | some node =>
      cases node with
      | directory => exact .failed _
      | file bytes modified => exact .done written

end

end AgreeIn

end RaggedTables.FileTree
