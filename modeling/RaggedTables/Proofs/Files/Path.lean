import Mathlib.Logic.Basic
import RaggedTables.Files.Path
import RaggedTables.Proofs.Text.Pieces

/-! Paths by their names. The normal form keeps the names of a path and whether it starts at the
root, and a name that is put behind a path is its last one. -/

namespace RaggedTables.Path

/-- A name that stands for itself in a path. -/
structure IsName (name : String) : Prop where
  filled : name ≠ ""
  noSlash : '/' ∉ name.toList
  notHere : name ≠ "."
  notBack : name ≠ ".."

/-- A piece of a path that is a name or two dots. -/
def counts (piece : List Char) : Bool := !piece.isEmpty && piece != ['.']

theorem names_eq (path : String) :
    names path = ((path.toList.splitOn '/').filter counts).map String.ofList := by
  rw [names, Text.pieces_singleton]
  rfl

theorem names_ofList_slash (cs : List Char) :
    names (String.ofList ('/' :: cs)) = names (String.ofList cs) := by
  have cut := List.splitOn_append_cons_self (a := '/') [] cs
  rw [List.nil_append, List.splitOn_nil] at cut
  rw [names_eq, names_eq, String.toList_ofList, String.toList_ofList, cut]
  simp [counts]

/-- What can be a name: no slash in it, not empty, and not a single dot. -/
def IsStep (name : String) : Prop := '/' ∉ name.toList ∧ counts name.toList = true

theorem isStep_of_mem_names {path name : String} (h : name ∈ names path) : IsStep name := by
  rw [names_eq] at h
  obtain ⟨piece, hpiece, rfl⟩ := List.mem_map.mp h
  obtain ⟨hsplit, hcounts⟩ := List.mem_filter.mp hpiece
  rw [IsStep, String.toList_ofList]
  exact ⟨Text.not_mem_of_mem_splitOn hsplit, hcounts⟩

/-- Names joined by slashes are the names of the whole. -/
theorem names_intercalate {ns : List String}
    (plain : ∀ name ∈ ns, IsStep name) : names ("/".intercalate ns) = ns := by
  rw [names_eq, String.toList_intercalate]
  cases ns with
  | nil => rfl
  | cons name rest =>
    rw [show ("/" : String).toList = ['/'] from rfl, List.splitOn_intercalate '/' ?_ (by simp)]
    · rw [List.filter_eq_self.mpr]
      · simp [Function.comp_def]
      · intro piece hpiece
        obtain ⟨n, hn, rfl⟩ := List.mem_map.mp hpiece
        exact (plain n hn).2
    · intro piece hpiece
      obtain ⟨n, hn, rfl⟩ := List.mem_map.mp hpiece
      exact (plain n hn).1

/-! ### Roots -/

/-- A root is nothing, one slash or two. -/
def IsRoot (r : List Char) : Prop := r = [] ∨ r = ['/'] ∨ r = ['/', '/']

theorem isRoot_root (cs : List Char) : IsRoot (root cs) := by
  unfold root
  split
  · exact .inl rfl
  · exact .inr (.inr rfl)
  · exact .inr (.inl rfl)

theorem takeWhile_of_head? {cs : List Char} (apart : cs.head? ≠ some '/') :
    cs.takeWhile (· == '/') = [] := by
  cases cs with
  | nil => rfl
  | cons c cs =>
    have hc : c ≠ '/' := fun e => apart (by simp [e])
    simp [hc]

theorem root_append {r cs : List Char} (isRoot : IsRoot r) (apart : cs.head? ≠ some '/') :
    root (r ++ cs) = r := by
  have none := takeWhile_of_head? apart
  rcases isRoot with rfl | rfl | rfl <;> simp [root, none]

theorem root_eq_nil_iff {cs : List Char} : root cs = [] ↔ cs.head? ≠ some '/' := by
  constructor
  · intro h slash
    obtain ⟨rest, rfl⟩ := List.head?_eq_some_iff.mp slash
    unfold root at h
    split at h
    · rename_i none
      simp at none
    · simp at h
    · simp at h
  · intro apart
    simpa using root_append (.inl rfl) apart

/-- A path starts at its root, if it has one. -/
theorem startsWith_slash_iff (path : String) :
    path.startsWith "/" = true ↔ root path.toList ≠ [] := by
  rw [String.startsWith_string_iff, ne_eq, root_eq_nil_iff]
  cases path.toList with
  | nil => simp
  | cons c cs => simp [eq_comm]

/-! ### Names below a root -/

section

variable {r : List Char} {ns : List String} (isRoot : IsRoot r) (plain : ∀ name ∈ ns, IsStep name)

theorem toList_spelled (r : List Char) (ns : List String) :
    (spelled r ns).toList = r ++ ("/".intercalate ns).toList ∨
      r = [] ∧ "/".intercalate ns = "" ∧ spelled r ns = "." := by
  unfold spelled
  dsimp only
  split
  · rename_i empty
    simp only [String.isEmpty_iff, String.append_eq_empty_iff] at empty
    exact .inr ⟨by simpa using empty.1, empty.2, rfl⟩
  · exact .inl (by simp)

include plain in
theorem head?_intercalate : ("/".intercalate ns).toList.head? ≠ some '/' := by
  rw [String.toList_intercalate]
  cases ns with
  | nil => simp
  | cons name rest =>
    obtain ⟨noSlash, filled⟩ := plain name (by simp)
    obtain ⟨c, cs, hname⟩ := List.exists_cons_of_ne_nil (l := name.toList) fun e => by
      simp [e, counts] at filled
    have hc : c ≠ '/' := fun e => noSlash (by simp [hname, e])
    cases rest with
    | nil => simp [hname, hc]
    | cons next rest => simp [hname, hc, List.intercalate_cons_cons]

include isRoot in
theorem null_spelled :
    '\x00' ∈ (spelled r ns).toList ↔ ∃ name ∈ ns, '\x00' ∈ name.toList := by
  have inside : '\x00' ∈ ("/".intercalate ns).toList ↔ ∃ name ∈ ns, '\x00' ∈ name.toList := by
    rw [String.toList_intercalate, Text.mem_intercalate_iff (by decide)]
    simp
  rcases toList_spelled r ns with h | ⟨-, none, h⟩
  · rw [h, List.mem_append, inside]
    rcases isRoot with rfl | rfl | rfl <;> simp
  · rw [h, ← inside, none]
    decide

include isRoot plain

theorem root_spelled : root (spelled r ns).toList = r := by
  rcases toList_spelled r ns with h | ⟨rfl, -, h⟩
  · rw [h, root_append isRoot (head?_intercalate plain)]
  · rw [h]
    rfl

theorem names_spelled : names (spelled r ns) = ns := by
  have joined := names_intercalate plain
  rcases toList_spelled r ns with h | ⟨-, none, h⟩
  · rw [← String.ofList_toList (s := spelled r ns), h]
    rw [← String.ofList_toList (s := "/".intercalate ns)] at joined
    rcases isRoot with rfl | rfl | rfl
    · exact joined
    · exact (names_ofList_slash _).trans joined
    · exact ((names_ofList_slash _).trans (names_ofList_slash _)).trans joined
  · rw [h, ← joined, none]
    rfl

end

/-! ### The normal form -/

theorem root_normal (path : String) : root (normal path).toList = root path.toList :=
  root_spelled (isRoot_root _) fun _ => isStep_of_mem_names

theorem names_normal (path : String) : names (normal path) = names path :=
  names_spelled (isRoot_root _) fun _ => isStep_of_mem_names

/-- A path in normal form is its own. -/
theorem normal_normal (path : String) : normal (normal path) = normal path := by
  rw [normal, root_normal, names_normal, ← normal]

theorem names_parent (path : String) : names (parent path) = (names path).dropLast :=
  names_spelled (isRoot_root _) fun _ hn => isStep_of_mem_names (List.dropLast_subset _ hn)

/-! ### A name behind a path -/

section

variable {name : String} (isName : IsName name) (base : String)
include isName

theorem IsName.isStep : IsStep name := by
  have filled : name.toList ≠ [] := by simpa using isName.filled
  have dot : name.toList ≠ ['.'] := fun e => isName.notHere (String.toList_inj.mp (by simp [e]))
  exact ⟨isName.noSlash, by simp [counts, filled, dot]⟩

theorem names_of_name : names name = [name] := by
  rw [names_eq, List.splitOn_eq_singleton isName.noSlash]
  simp [isName.isStep.2]

theorem join_name : join base name = spelled (root base.toList) (names base ++ [name]) := by
  have relative : name.startsWith "/" = false := by
    rw [← Bool.not_eq_true, startsWith_slash_iff, not_not, root_eq_nil_iff]
    exact fun h => isName.noSlash (List.mem_of_head? h)
  rw [join, relative, names_of_name isName]
  rfl

theorem isStep_names_append : ∀ n ∈ names base ++ [name], IsStep n := by
  intro n hn
  rcases List.mem_append.mp hn with hn | hn
  · exact isStep_of_mem_names hn
  · rw [List.mem_singleton.mp hn]
    exact isName.isStep

theorem names_join : names (join base name) = names base ++ [name] := by
  rw [join_name isName, names_spelled (isRoot_root _) (isStep_names_append isName base)]

theorem root_join : root (join base name).toList = root base.toList := by
  rw [join_name isName, root_spelled (isRoot_root _) (isStep_names_append isName base)]

theorem null_join :
    '\x00' ∈ (join base name).toList ↔ '\x00' ∈ (normal base).toList ∨ '\x00' ∈ name.toList := by
  rw [join_name isName, null_spelled (isRoot_root _), normal, null_spelled (isRoot_root _)]
  simp [or_and_right, exists_or]

theorem normal_join : normal (join base name) = join base name := by
  rw [normal, names_join isName, root_join isName, join_name isName]

theorem last_join : last (join base name) = name := by
  rw [last, names_join isName, List.getLastD_concat]

/-- The directory of a name behind a path is that path. -/
theorem parent_join : parent (join base name) = normal base := by
  rw [parent, names_join isName, root_join isName, List.dropLast_concat, normal]

end

end RaggedTables.Path
