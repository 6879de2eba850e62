import RaggedTables.Console.Box
import RaggedTables.Console.Colour
import RaggedTables.Page.Lookup

/-! Analysing a chain of selectors: how many elements each beginning of the chain matches. One line
is printed for each, in one colour while something matches and in another once nothing does, and a
dashed line where the matches stop. -/

namespace RaggedTables.Console

/-- The line between the last beginning that matches and the first that does not. -/
def dashes : String := String.ofList (List.replicate 53 '-')

/-- The codes of the colours of the lines. -/
def red : Nat := 31
def green : Nat := 32
def yellow : Nat := 33
def blue : Nat := 34

/-- A beginning of a chain with the number of its matches. -/
def chainLine (parts : List String) (mark : String) (count : Nat) : String :=
  let colour := if count = 0 then red else green
  (styled blue mark).intercalate (parts.map (styled colour)) ++
    if count = 0 then "" else ": " ++ styled yellow (toString count)

/-- What is printed for a beginning of a chain, given the number of matches before it. -/
def analysisLines (parts : List String) (mark : String) (before count : Nat) : List String :=
  (if count = 0 && 0 < before then [dashes] else []) ++ [chainLine parts mark count]

/-- Analyses the beginnings of a chain from its first `size` parts on. -/
def analyseFrom (root : PageElement) (mark : String) (seen : List String) (before : Nat) :
    List String → List String × Except Fault (List Nat)
  | [] => ([], .ok [])
  | part :: rest =>
    let parts := seen ++ [part]
    match root.select (mark.intercalate parts) "selector prefix" { least := 0 } with
    | .error fault => ([], .error fault)
    | .ok found =>
      let (lines, counts) := analyseFrom root mark parts found.length rest
      (analysisLines parts mark before found.length ++ lines, counts.map (found.length :: ·))

/-- What analysing a chain prints, and the numbers of matches. -/
def analyse (root : PageElement) (selector separator : String) : String × Except Fault (List Nat) :=
  if separator.isEmpty then ("", .error (.value .emptySeparator))
  else
    let parts := (Text.splitAt separator selector).map Text.strip
    let (lines, counts) := analyseFrom root (" " ++ separator ++ " ") [] 0 parts
    (String.join (lines.map echo), counts)

end RaggedTables.Console
