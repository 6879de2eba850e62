import RaggedTables.Fault
import RaggedTables.Fields
import RaggedTables.Files.Path
import RaggedTables.Files.Utf8

/-! A tree of files, whose root is the working directory too: a path means the same with and without
a slash in front. It is walked name by name; what stands before the last name has to be a
directory. -/

namespace RaggedTables

/-- What stands under a path. Times are in microseconds. -/
inductive FileNode where
  | directory
  | file (bytes : List UInt8) (modified : Int)
deriving Repr, DecidableEq, Inhabited

/-- Files and directories by the names that lead to them; the root itself is always there. -/
abbrev FileTree := Fields (List String) FileNode

namespace FileTree

/-! ### Reasons -/

def notFound (path : String) : FileFault := ⟨some 2, "No such file or directory", some path⟩
def alreadyExists (path : String) : FileFault := ⟨some 17, "File exists", some path⟩
def notDirectory (path : String) : FileFault := ⟨some 20, "Not a directory", some path⟩
def isDirectory (path : String) : FileFault := ⟨some 21, "Is a directory", some path⟩
def nameTooLong (path : String) : FileFault := ⟨some 36, "File name too long", some path⟩

/-- The most bytes of a name. -/
def longestName : Nat := 255

/-! ### Walking -/

/-- What stands at a place. -/
def node? (tree : FileTree) : List String → Option FileNode
  | [] => some .directory
  | place => tree.get? place

/-- The place that names lead to from a place; two dots lead back, and from the root to the root. -/
def walk (tree : FileTree) (path : String) (here : List String) :
    List String → Except FileFault (List String)
  | [] => .ok here
  | name :: rest =>
    match tree.node? here with
    | none => .error (notFound path)
    | some (.file ..) => .error (notDirectory path)
    | some .directory =>
      if longestName < name.utf8ByteSize then .error (nameTooLong path)
      else walk tree path (if name = ".." then here.dropLast else here ++ [name]) rest

/-- The place of a path in normal form. -/
def place (tree : FileTree) (path : String) : Except Fault (List String) :=
  if path.toList.contains '\x00' then .error (.value .nullInPath)
  else (walk tree path [] (Path.names path)).mapError .file

/-! ### Reading -/

/-- The bytes and the time of a file. -/
def file (tree : FileTree) (path : String) : Except Fault (List UInt8 × Int) := do
  match tree.node? (← tree.place path) with
  | none => throw (.file (notFound path))
  | some .directory => throw (.file (isDirectory path))
  | some (.file bytes modified) => return (bytes, modified)

/-- The text of bytes that were read. -/
def textOf (bytes : List UInt8) : Except Fault String :=
  match Utf8.decode bytes with
  | .ok cs => .ok (String.ofList (Utf8.unifyLines cs))
  | .error b =>
    .error (.value (.undecodable b.byte.toNat b.place (b.place + b.bad.count - 1) b.bad.reason))

/-- The text of a file. -/
def read (tree : FileTree) (path : String) : Except Fault String := do
  let (bytes, _) ← tree.file (Path.normal path)
  textOf bytes

/-- Whether something stands under a path. -/
def present (tree : FileTree) (path : String) : Except Fault Bool :=
  match tree.place (Path.normal path) with
  | .ok place => .ok (tree.node? place).isSome
  | .error (.file fault) => if fault.code = some 36 then .error (.file fault) else .ok false
  | .error (.value .nullInPath) => .ok false
  | .error fault => .error fault

/-! ### Writing -/

/-- Writes bytes to a file, in place of what it held. -/
def writeBytes (tree : FileTree) (path : String) (bytes : List UInt8) (now : Int) :
    Except Fault FileTree := do
  let path := Path.normal path
  let place ← tree.place path
  match tree.node? place with
  | some .directory => throw (.file (isDirectory path))
  | _ => return tree.put place (.file bytes now)

/-- Writes a text to a file; a failure of the file system is reported. -/
def write (tree : FileTree) (path text : String) (now : Int) : Except Fault FileTree :=
  (tree.writeBytes path (Utf8.encode text.toList) now).mapError fun fault =>
    match fault with
    | .file fault => .report (.write path fault)
    | fault => fault

/-- Makes a directory at a place whose parent is one. -/
def makeOne (tree : FileTree) (path : String) : Except Fault FileTree := do
  let place ← tree.place path
  match tree.node? place with
  | some _ => throw (.file (alreadyExists path))
  | none => return tree.put place .directory

/-- Whether a directory stands under a path. -/
def hasDirectory (tree : FileTree) (path : String) : Bool :=
  match tree.place path with
  | .ok place => tree.node? place == some .directory
  | .error _ => false

/-- Makes a directory and those above it, as far as they are missing. -/
def makeDirectories (tree : FileTree) (path : String) : (fuel : Nat) → Except Fault FileTree
  | 0 => tree.makeOne path
  | fuel + 1 =>
    match tree.makeOne path with
    | .ok tree => .ok tree
    | .error (.file fault) =>
      if fault.code = some 2 then
        if Path.parent path = path then .error (.file fault)
        else do
          let tree ← makeDirectories tree (Path.parent path) fuel
          match tree.makeOne path with
          | .ok tree => return tree
          | .error fault => if tree.hasDirectory path then return tree else throw fault
      else if tree.hasDirectory path then .ok tree
      else .error (.file fault)
    | .error fault => .error fault

/-- Makes a directory that may be there already. -/
def makeDirectory (tree : FileTree) (path : String) : Except Fault FileTree :=
  let path := Path.normal path
  tree.makeDirectories path ((Path.names path).length + 1)

/-- What a failed attempt to make directories leaves: those above the one that could not be made may
be new. -/
def leftByMaking (tree : FileTree) (path : String) : (fuel : Nat) → FileTree
  | 0 => tree
  | fuel + 1 =>
    match tree.makeOne path with
    | .error (.file fault) =>
      if fault.code = some 2 && Path.parent path != path then
        match tree.makeDirectories (Path.parent path) fuel with
        | .ok tree => tree
        | .error _ => leftByMaking tree (Path.parent path) fuel
      else tree
    | _ => tree

/-- What is left when a directory cannot be made. -/
def leftBehind (tree : FileTree) (path : String) : FileTree :=
  let path := Path.normal path
  tree.leftByMaking path ((Path.names path).length + 1)

/-- Removes a file. -/
def remove (tree : FileTree) (path : String) : Except Fault FileTree := do
  let place ← tree.place path
  match tree.node? place with
  | none => throw (.file (notFound path))
  | some .directory => throw (.file (isDirectory path))
  | some (.file ..) => return tree.filter fun entry => entry.1 != place

/-! ### Listing -/

/-- Paths in the order of their characters, with the text of each file. -/
def listing (tree : FileTree) : List (String × Option String) :=
  let entries := tree.map fun (place, node) =>
    ("/".intercalate place,
      match node with
      | .directory => none
      | .file bytes _ => some (String.ofList (Utf8.decodeShown bytes.length bytes)))
  entries.mergeSort fun a b => !(b.1 < a.1)

/-- The listing of the directories, and of the files that are new or hold something else than
before. -/
def changesFrom (before tree : FileTree) : List (String × Option String) :=
  listing (tree.filter fun (place, node) =>
    match node, before.get? place with
    | .file bytes _, some (.file old _) => bytes != old
    | _, _ => true)

/-- A tree with the given files, written at one time. -/
def ofFiles (files : List (String × String)) (now : Int) : FileTree :=
  files.foldl (fun tree (path, text) =>
    let place := Path.names path
    let tree := (List.range place.length).foldl (fun tree i =>
      if i = 0 || tree.has (place.take i) then tree else tree.put (place.take i) .directory) tree
    tree.put place (.file (Utf8.encode text.toList) now)) []

end FileTree

end RaggedTables
