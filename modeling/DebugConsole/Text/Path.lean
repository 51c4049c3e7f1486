/-
# File paths

A path is a text whose parts are separated by `/`.  Empty parts and `.` name
nothing; a path that starts with `/` starts at the root.
-/

namespace DebugConsole
namespace Text

/-- The pieces between separators; there is one more piece than separators. -/
def pieces {α : Type} [DecidableEq α] (sep : α) : List α → List (List α)
  | [] => [[]]
  | c :: rest =>
    if c = sep then [] :: pieces sep rest
    else match pieces sep rest with
      | first :: more => (c :: first) :: more
      | [] => [[c]]

/-- The parts of a path that name something. -/
def pathParts (path : String) : List String :=
  ((pieces '/' path.toList).map String.ofList).filter fun part => part ≠ "" && part ≠ "."

/-- Does the path start at the root? -/
def isAbsolute (path : String) : Bool := path.toList.head? = some '/'

/-- The name of the file a path ends in; a path that ends in `..` or names nothing has none. -/
def fileName? (path : String) : Option String :=
  match (pathParts path).getLast? with
  | some part => if part = ".." then none else some part
  | none => none

/-- The name of the file, or the whole path where it ends in no name. -/
def displayName (path : String) : String := (fileName? path).getD path

/-- A relative path behind a directory: one `/` between them unless there is one already or no
directory. -/
def joinPath (directory name : String) : String :=
  if directory = "" || directory.toList.getLast? = some '/' then directory ++ name
  else directory ++ "/" ++ name

/-- The text before and after the last separator, none without a separator. -/
def splitLast? (sep : Char) (cs : List Char) : Option (List Char × List Char) :=
  match cs.reverse.span (· ≠ sep) with
  | (after, _ :: before) => some (before.reverse, after.reverse)
  | (_, []) => none

/-- The text before and after the first separator, none without a separator. -/
def splitFirst? (sep : Char) (cs : List Char) : Option (List Char × List Char) :=
  match cs.span (· ≠ sep) with
  | (before, _ :: after) => some (before, after)
  | (_, []) => none

end Text
end DebugConsole
