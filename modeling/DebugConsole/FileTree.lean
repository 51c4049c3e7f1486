/-
# A tree of files

A tree holds files by their absolute path, as lists of parts, and the directories
above them.  A path is resolved part by part from the root or from the current
directory; `.` and empty parts stay, `..` goes up.  Every part but the last has to
be a directory, and a path that ends in `/` or `.` names a directory.

| reading | |
| --- | --- |
| a file with UTF-8 bytes | its text |
| a directory, a path through a file, a path to nothing | the `FileProblem` of that name |
-/

import DebugConsole.Error
import DebugConsole.Text.Path

namespace DebugConsole

/-- Files and directories, and the directory that relative paths start from. -/
structure FileTree where
  current : List String := []
  directories : List (List String) := []
  files : List (List String × List UInt8) := []
deriving Repr, Inhabited

namespace FileTree

/-- The proper prefixes of a path: the directories above it. -/
def above (parts : List String) : List (List String) :=
  (List.range parts.length).map fun n => parts.take n

/-- Is there a directory at these parts? -/
def isDirectory (tree : FileTree) (parts : List String) : Bool :=
  parts.isEmpty || tree.directories.contains parts

/-- The bytes of the file at these parts. -/
def file? (tree : FileTree) (parts : List String) : Option (List UInt8) :=
  (tree.files.find? (·.1 = parts)).map (·.2)

/-- Adds a directory and those above it. -/
def addDirectory (tree : FileTree) (parts : List String) : FileTree :=
  { tree with directories := parts :: above parts ++ tree.directories }

/-- The longest path, in bytes. -/
def maxPath : Nat := 4095

/-- The longest part of a path, in bytes. -/
def maxName : Nat := 255

/-- Walks from a directory along pieces of a path. -/
def walk (tree : FileTree) : List String → List String → Except FileProblem (List String)
  | here, [] => .ok here
  | here, piece :: rest =>
    if !tree.isDirectory here then .error .notDirectory
    else if piece = "" || piece = "." then walk tree here rest
    else if piece = ".." then walk tree here.dropLast rest
    else if maxName < piece.utf8ByteSize then .error .nameTooLong
    else
      let there := here ++ [piece]
      if tree.isDirectory there || (tree.file? there).isSome then walk tree there rest
      else .error .notFound

/-- The parts that a path of any length leads to. -/
def follow (tree : FileTree) (path : String) : Except FileProblem (List String) :=
  if path.toList.contains '\x00' then .error .nulInName
  else if path = "" then .error .notFound
  else
    walk tree (if Text.isAbsolute path then [] else tree.current)
      ((Text.pieces '/' path.toList).map String.ofList)

/-- The parts of the file or directory that a path leads to. -/
def resolve (tree : FileTree) (path : String) : Except FileProblem (List String) :=
  if maxPath < path.utf8ByteSize && !path.toList.contains '\x00' then .error .nameTooLong
  else tree.follow path

/-- The text of these parts as an absolute path. -/
def absolute (parts : List String) : String := "/" ++ String.intercalate "/" parts

/-- The absolute path without `.` and `..`, where it leads to something.  Only parts of a path
are looked up, so it may have any length. -/
def canonical? (tree : FileTree) (path : String) : Option String :=
  (tree.follow path).toOption.map absolute

/-- Does the path lead to something? -/
def contains (tree : FileTree) (path : String) : Bool := (tree.resolve path).toOption.isSome

/-- The text of a file. -/
def readText (tree : FileTree) (path : String) : Except FileProblem String := do
  let parts ← tree.resolve path
  match tree.file? parts with
  | none => throw .isDirectory
  | some bytes =>
    match Utf8.decode bytes with
    | .ok text => return text
    | .error _ => throw .notText

/-- The parts of a path without looking at what exists; for a file yet to be written. -/
def target (tree : FileTree) (path : String) : List String :=
  (if Text.isAbsolute path then [] else tree.current) ++ Text.pathParts path

/-- Writes a file, with the directories above it; a directory is left as it is. -/
def write (tree : FileTree) (path : String) (bytes : List UInt8) : FileTree :=
  let parts := (tree.resolve path).toOption.getD (tree.target path)
  if tree.isDirectory parts then tree
  else
    { tree with
      directories := above parts ++ tree.directories
      files := (parts, bytes) :: tree.files.filter (·.1 ≠ parts) }

/-- Removes a file; false where there is none. -/
def remove (tree : FileTree) (path : String) : Bool × FileTree :=
  match tree.resolve path with
  | .ok parts =>
    if (tree.file? parts).isSome then
      (true, { tree with files := tree.files.filter (·.1 ≠ parts) })
    else (false, tree)
  | .error _ => (false, tree)

end FileTree
end DebugConsole
