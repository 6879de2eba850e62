import RaggedTables.CommandLine.Program

/-! The program on the files below the working directory. It reads what its arguments name, runs on
that, prints, and writes the files that have changed. Pages come from the cache: no connection is
made. -/

namespace RaggedTables.CommandLine

/-- The words of the arguments that may name files: each of them, and what follows an equals sign.
-/
def namedPaths (arguments : List String) : List String :=
  arguments ++ arguments.filterMap fun argument => (splitLong argument).2

/-- The directories above a path and the path itself, from the top down. -/
def placesTo (path : String) : List (List String) :=
  let names := Path.names path
  (List.range (names.length + 1)).drop 1 |>.map fun n => names.take n

/-- Adds a node, and above it directories that are not there yet. -/
def withNode (tree : FileTree) (path : String) (node : FileNode) : FileTree :=
  let tree := (placesTo path).dropLast.foldl (fun tree place =>
    if tree.has place then tree else tree.put place .directory) tree
  match Path.names path with
  | [] => tree
  | place => tree.put place node

/-- Adds the file or the directory under a path, if there is one. -/
def readPath (tree : FileTree) (path : String) : IO FileTree := do
  try
    let bytes ← IO.FS.readBinFile path
    return withNode tree path (.file bytes.toList 0)
  catch
    | .inappropriateType .. => return withNode tree path .directory
    | _ => return tree

/-- The cache files that the arguments may mean: for every address, one in each directory named. -/
def cachePaths (arguments : List String) : List String :=
  let names := ((namedPaths arguments).filter isAddress).filterMap Web.cacheName?
  ("cache" :: namedPaths arguments).flatMap fun directory => names.map (Path.join directory)

/-- The files that the arguments name. -/
def readFiles (arguments : List String) : IO FileTree :=
  let paths := (namedPaths arguments ++ cachePaths arguments).filter fun path =>
    !path.isEmpty && !path.startsWith "/"
  paths.foldlM readPath []

/-- Writes the nodes that a run has changed. -/
def writeChanges (before after : FileTree) : IO Unit := do
  for (place, node) in after do
    if before.get? place != some node then
      let path := "/".intercalate place
      match node with
      | .directory => IO.FS.createDirAll path
      | .file bytes _ => IO.FS.writeBinFile path ⟨bytes.toArray⟩

/-- The addresses among the arguments, none of which can be reached. -/
def unreachable (arguments : List String) : Web.Site :=
  ((namedPaths arguments).filter isAddress).map fun url => (url, .broken "no connection")

end RaggedTables.CommandLine

open RaggedTables RaggedTables.CommandLine in
def main (arguments : List String) : IO UInt32 := do
  let before ← readFiles arguments
  let world : Web.World := { files := before, now := 0, site := unreachable arguments }
  let (shell, ending) := CommandLine.run arguments { world }
  writeChanges before shell.world.files
  IO.print shell.output
  IO.eprint shell.errors
  match ending with
  | .uncaught fault => IO.eprintln fault.text
  | _ => pure ()
  return ending.code.toUInt32
