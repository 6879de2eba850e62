import RaggedTables.Console.Box
import RaggedTables.Console.Colour
import RaggedTables.Json.Writer
import RaggedTables.Value.Layout

/-! Inspecting a value: its kind, the value itself or its JSON form, and its structure to a depth.
-/

namespace RaggedTables.Console

/-- A label in its colour, after a tab and before a colon. -/
def labelled (label text : String) : String := "\t" ++ styled 31 label ++ ": " ++ text

/-- Values that are shown directly. -/
def isSimple : Value → Bool
  | .null | .text _ | .int _ | .float _ | .bool _ => true
  | _ => false

/-- The JSON form of a value, if it has one. -/
def jsonOf (v : Value) : String :=
  match Json.write .shown v with
  | .ok text => text
  | .error _ => "Unavailable"

/-- The line above or below a structure. -/
def banner (name : String) : String :=
  let bar := styled 33 "----------=========="
  "\t\t" ++ bar ++ " <" ++ name ++ "> " ++ bar

/-- What inspecting a value prints, and how it ends. The depth has to be positive. -/
def inspect (name : String) (v : Value) (verbose : Bool) (depth : Option Int) :
    String × Except Fault Unit :=
  let head := echo (styled 34 name) ++ echo (labelled "Type" v.kind)
  if isSimple v then (head ++ echo (labelled "Value" v.shown), .ok ())
  else
    let head := head ++ echo (labelled "JSON" (jsonOf v))
    if !verbose then (head, .ok ())
    else
      let head := head ++ echo (banner name)
      if (depth.map fun d => decide (d ≤ 0)).getD false then (head, .error (.value .noDepth))
      else
        let lines := linesOf (v.layout (depth.map Int.toNat))
        (head ++ String.join (lines.map fun line => echo ("\t\t\t" ++ line)) ++
          echo (banner ("/" ++ name)), .ok ())

end RaggedTables.Console
