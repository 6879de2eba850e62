/-! Cutting a text at every occurrence of a mark, and joining pieces with a mark between them. -/

namespace RaggedTables.Text

/-- The text before the first occurrence of `mark`, and the text after it. -/
def cut? (mark : List Char) : List Char → Option (List Char × List Char)
  | [] => if mark.isEmpty then some ([], []) else none
  | c :: rest =>
    if mark.isPrefixOf (c :: rest) then some ([], (c :: rest).drop mark.length)
    else (cut? mark rest).map fun (before, after) => (c :: before, after)

/-- The pieces between the occurrences of `mark`, found from the left. -/
def piecesFrom (mark : List Char) : (fuel : Nat) → List Char → List (List Char)
  | 0, cs => [cs]
  | fuel + 1, cs =>
    match cut? mark cs with
    | some (before, after) => before :: piecesFrom mark fuel after
    | none => [cs]

/-- The pieces of a text between the occurrences of a mark that is not empty. -/
def pieces (mark cs : List Char) : List (List Char) := piecesFrom mark cs.length cs

/-- `pieces` on strings. -/
def splitAt (mark s : String) : List String := (pieces mark.toList s.toList).map String.ofList

/-- A text without any occurrence of a mark. -/
def without (mark s : String) : String :=
  if mark.isEmpty then s else String.ofList (pieces mark.toList s.toList).flatten

/-- A text with every occurrence of a mark replaced. -/
def replaceAll (mark new s : String) : String :=
  if mark.isEmpty then s else new.intercalate (splitAt mark s)

theorem cut?_eq_append {mark cs before after : List Char}
    (h : cut? mark cs = some (before, after)) :
    cs = before ++ mark ++ after := by
  induction cs generalizing before after with
  | nil =>
    cases mark with
    | nil => simp [cut?] at h; simp [h]
    | cons => simp [cut?] at h
  | cons c rest ih =>
    rw [cut?] at h
    split at h
    · rename_i hp
      obtain ⟨tail, ht⟩ := List.isPrefixOf_iff_prefix.1 hp
      simp only [Option.some.injEq, Prod.mk.injEq] at h
      obtain ⟨rfl, rfl⟩ := h
      simp [← ht]
    · simp only [Option.map_eq_some_iff, Prod.exists, Prod.mk.injEq] at h
      obtain ⟨a, b, hab, rfl, rfl⟩ := h
      simp [ih hab]

end RaggedTables.Text
