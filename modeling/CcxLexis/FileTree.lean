import CcxLexis.Reader

/-!
# File trees

A directory with the files and directories below it, as far as opening a path for reading is
concerned.  A path is walked name by name from the directory.  `.` stays, `..` goes up, repeated
slashes count once, and a slash at the end asks for a directory.

A directory can be opened, but its first read fails.  Outside of the tree there are directories
upwards and nothing else.  A path that starts with a slash is walked from the root, of which only
the places that every system has are known.
-/

namespace CcxLexis

/-- The files and directories below a directory, each under its list of names. -/
structure FileTree where
  files : List (List String × List Byte) := []
  directories : List (List String) := []

/-- What a name in a tree stands for. -/
inductive FileNode where
  | file (content : List Byte)
  | directory

namespace FileTree

/-! ## Names -/

/-- The longest name, in bytes. -/
def longestName : Nat := 255

/-- The longest path, in bytes. -/
def longestPath : Nat := 4095

/-- The names of a path.  A slash at the end leaves a last `.`, which only a directory has. -/
def names (path : String) : List String :=
  let parts := path.splitOn "/"
  let names := parts.filter fun part => !part.isEmpty
  if path.endsWith "/" then names ++ ["."] else names

/-- A tree from the paths of its files and directories. -/
def ofPaths (files : List (String × List Byte)) (directories : List String) : FileTree :=
  { files := files.map fun file => (names file.1, file.2)
    directories := directories.map names }

/-! ## Positions -/

/-- A place that a walk can reach: a list of names below the directory, innermost name first, or
a number of levels above it. -/
inductive Place where
  | inside (names : List String)
  | above (levels : Nat)

def Place.parent : Place → Place
  | inside [] => above 0
  | inside (_ :: names) => inside names
  | above levels => above (levels + 1)

/-- What is at a place, if anything is. -/
def node? (tree : FileTree) : Place → Option FileNode
  | .above _ => some .directory
  | .inside [] => some .directory
  | .inside innermostFirst =>
    let path := innermostFirst.reverse
    match tree.files.lookup path with
    | some content => some (.file content)
    | none =>
      if tree.directories.any (path.isPrefixOf ·) ||
          tree.files.any (fun file => path.isPrefixOf file.1) then
        some .directory
      else none

/-! ## Walking and opening -/

/-- One name of a walk: only a directory can be walked through. -/
def walkName (tree : FileTree) (place : Place) (name : String) : Except Fault Place :=
  match tree.node? place with
  | none => .error .noSuchFile
  | some (.file _) => .error .notADirectory
  | some .directory =>
    if name == "." then .ok place
    else if name == ".." then .ok place.parent
    else if longestName < name.utf8ByteSize then .error .nameTooLong
    else
      match place with
      | .above _ => .error .noSuchFile
      | .inside names =>
        if (tree.node? (.inside (name :: names))).isSome then .ok (.inside (name :: names))
        else .error .noSuchFile

/-- Walks a path from the directory. -/
def walk (tree : FileTree) (path : String) : Except Fault Place :=
  (names path).foldlM tree.walkName (.inside [])

/-- The root of every system: a directory for passing files and the empty device. -/
def root : FileTree :=
  { files := [(["dev", "null"], [])], directories := [["tmp"]] }

/-- Opens a path for reading. -/
def openFile (tree : FileTree) (path : String) : Except Fault Reader :=
  if path.toList.contains '\x00' then .error .nulInName
  else if path.isEmpty then .error .noSuchFile
  else if longestPath < path.utf8ByteSize then .error .nameTooLong
  else do
    let tree := if path.startsWith "/" then root else tree
    let place ← tree.walk path
    match tree.node? place with
    | none => .error .noSuchFile
    | some (.file content) => .ok (Reader.ofBytes content)
    | some .directory => .ok { results := [.failed .isADirectory] }

end FileTree

end CcxLexis
