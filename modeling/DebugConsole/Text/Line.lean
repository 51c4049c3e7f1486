/-
# Lines

A line ends at a line feed or at the end of the text; nothing follows the last
line feed.  A carriage return just before the line feed belongs to the line end,
any other one to the line.
-/

namespace DebugConsole
namespace Text

/-- Drops a carriage return from the end of a line given last character first. -/
def dropReturn : List Char → List Char
  | '\r' :: rest => rest
  | current => current

/-- The lines of a text whose first line has begun with `current`, last character first. -/
def linesFrom : List Char → List Char → List (List Char)
  | [], [] => []
  | current, [] => [current.reverse]
  | current, c :: rest =>
    if c = '\n' then (dropReturn current).reverse :: linesFrom [] rest
    else linesFrom (c :: current) rest

/-- The lines of a text, without their ends. -/
def lines (s : String) : List String := (linesFrom [] s.toList).map String.ofList

@[simp] theorem lines_empty : lines "" = [] := by simp [lines, linesFrom]

end Text
end DebugConsole
