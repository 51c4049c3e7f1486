/-
# Reading TOML

`Toml.parse` reads a document: lines that are blank, hold a comment, give a key its
value or open a table.  It stops at the first line that is no such line or defines
something twice, and tells which line that is.

| rule | |
| --- | --- |
| keys | letters, digits, `_` and `-`, or a text on one line; dots between them, fewer than 80 |
| lists | over several lines, with comments, with a comma behind the last item |
| tables in braces | on one line, without a comma behind the last entry |
| nesting | at most 79 lists and tables in braces around a value |
| after a value or a header | a comment at most, then the end of the line |
-/

import DebugConsole.Toml.Scalar

namespace DebugConsole
namespace Toml

/-- Why a document cannot be read. -/
inductive Problem where
  /-- The entry that begins in this line is not well formed. -/
  | malformed (line : Nat)
  /-- The entry that begins in this line defines something twice. -/
  | redefined (line : Nat)
deriving DecidableEq, Repr, Inhabited

namespace Problem

/-- The wording of a problem. -/
def message : Problem → String
  | .malformed line => "line " ++ toString line ++ " is not well formed"
  | .redefined line => "line " ++ toString line ++ " defines something a second time"

end Problem

/-- May the character stand in a key without quotes? -/
def isKeyChar (c : Char) : Bool := c.isAlphanum || c = '_' || c = '-'

/-- One key. -/
def key? (cs : List Char) : Option (String × List Char) :=
  match lineText? cs with
  | some taken => some taken
  | none =>
    match cs.span isKeyChar with
    | ([], _) => none
    | (key, rest) => some (String.ofList key, rest)

/-- Keys with dots between them. -/
def keysFrom : Nat → List Char → Option (List String × List Char)
  | 0, _ => none
  | fuel + 1, cs => do
    let (key, rest) ← key? (dropGaps cs)
    match dropGaps rest with
    | '.' :: rest =>
      let (keys, rest) ← keysFrom fuel rest
      return (key :: keys, rest)
    | rest => return ([key], rest)

/-- The greatest number of keys in one path. -/
def maxKeys : Nat := 79

/-- A path of keys: all but the last, and the last. -/
def keyPath? (cs : List Char) : Option ((List String × String) × List Char) := do
  let (keys, rest) ← keysFrom maxKeys cs
  return ((keys.dropLast, ← keys.getLast?), rest)

/-- Drops blanks, line ends and comments that end with their line; `inComment` tells that a comment
has begun. -/
def dropTrivia : Bool → List Char → List Char
  | _, '\n' :: rest => dropTrivia false rest
  | _, '\r' :: '\n' :: rest => dropTrivia false rest
  | true, c :: rest => if isPrintable c then dropTrivia true rest else c :: rest
  | false, c :: rest =>
    if isGap c then dropTrivia false rest
    else if c = '#' then dropTrivia true rest
    else c :: rest
  | _, [] => []

/-- The items of a list behind its bracket, or behind a comma. -/
def items (read : List Char → Option (Toml × List Char)) :
    Nat → List Char → Option (List Toml × List Char)
  | 0, _ => none
  | fuel + 1, cs =>
    match dropTrivia false cs with
    | ']' :: rest => some ([], rest)
    | cs => do
      let (item, rest) ← read cs
      match dropTrivia false rest with
      | ',' :: rest =>
        let (more, rest) ← items read fuel rest
        return (item :: more, rest)
      | ']' :: rest => return ([item], rest)
      | _ => none

/-- Adds the entries of a table in braces. -/
def bracedEntries (read : List Char → Option (Toml × List Char)) :
    Nat → Entries → List Char → Option (Entries × List Char)
  | 0, _, _ => none
  | fuel + 1, entries, cs => do
    let ((path, key), rest) ← keyPath? cs
    let (value, rest) ← read (dropGaps (← mark? '=' rest))
    let entries ← entries.setKey path key value .inline
    match dropGaps rest with
    | ',' :: rest => bracedEntries read fuel entries rest
    | '}' :: rest => return (entries, rest)
    | _ => none

/-- A value with at most so many lists and tables in braces inside each other. -/
def valueWithin : Nat → List Char → Option (Toml × List Char)
  | _, [] => none
  | depth, c :: rest =>
    if c = '[' then
      match depth with
      | 0 => none
      | depth + 1 => do
        let (found, rest) ← items (valueWithin depth) (rest.length + 1) rest
        return (.list found, rest)
    else if c = '{' then
      match depth with
      | 0 => none
      | depth + 1 =>
        match dropGaps rest with
        | '}' :: rest => some (.table .inline [], rest)
        | cs => do
          let (entries, rest) ← bracedEntries (valueWithin depth) (cs.length + 1) [] cs
          return (.table .inline entries, rest)
    else leaf? (c :: rest)

/-- How deeply values may be nested. -/
def maxNesting : Nat := 79

/-- What follows the rest of a line that holds a comment at most. -/
def lineEnd? (cs : List Char) : Option (List Char) :=
  let cs := dropGaps cs
  let cs := match cs with
    | '#' :: rest => rest.dropWhile isPrintable
    | cs => cs
  if cs.isEmpty then some [] else newline? cs

/-- What a line of a document says. -/
inductive Entry where
  | nothing
  | value (path : List String) (key : String) (value : Toml)
  | header (path : List String) (key : String)
  | itemHeader (path : List String) (key : String)

/-- Reads one entry with the end of its line. -/
def entry? (cs : List Char) : Option (Entry × List Char) :=
  match dropGaps cs with
  | '[' :: '[' :: rest => do
    let ((path, key), rest) ← keyPath? rest
    return (.itemHeader path key, ← lineEnd? (← mark? ']' (← mark? ']' rest)))
  | '[' :: rest => do
    let ((path, key), rest) ← keyPath? rest
    return (.header path key, ← lineEnd? (← mark? ']' rest))
  | cs =>
    match lineEnd? cs with
    | some rest => some (.nothing, rest)
    | none => do
      let ((path, key), rest) ← keyPath? cs
      let (value, rest) ← valueWithin maxNesting (dropGaps (← mark? '=' rest))
      return (.value path key value, ← lineEnd? rest)

/-- A document that has been read in part. -/
structure Document where
  entries : Entries := []
  /-- The path of the table that was opened last. -/
  opened : List String := []
deriving Repr, Inhabited

/-- Adds an entry. -/
def Document.add (d : Document) : Entry → Option Document
  | .nothing => some d
  | .value path key value =>
    (Entries.below false (Entries.setKey path key value) d.opened .header d.entries).map
      fun entries => { d with entries }
  | .header path key =>
    (d.entries.openTable path key).map fun entries => { entries, opened := path ++ [key] }
  | .itemHeader path key =>
    (d.entries.openItem path key).map fun entries => { entries, opened := path ++ [key] }

/-- How many lines end in these characters. -/
def lineCount (cs : List Char) : Nat := cs.count '\n'

/-- Reads entries until the characters end; `total` is the number of the last line. -/
def readEntries (total : Nat) : Nat → Document → List Char → Except Problem Entries
  | 0, d, _ => .ok d.entries
  | fuel + 1, d, cs =>
    if cs.isEmpty then .ok d.entries
    else
      match entry? cs with
      | none => .error (.malformed (total - lineCount cs))
      | some (entry, rest) =>
        match d.add entry with
        | none => .error (.redefined (total - lineCount cs))
        | some d => readEntries total fuel d rest

/-- Drops a byte order mark. -/
def dropMark : List Char → List Char
  | '\ufeff' :: rest => rest
  | cs => cs

/-- Reads a document. -/
def parse (s : String) : Except Problem Toml :=
  let cs := dropMark s.toList
  (readEntries (lineCount cs + 1) (cs.length + 1) {} cs).map (.table .header)

end Toml
end DebugConsole
