/-
# TOML values

A value is a text, a number, a truth value, a date or time, a list, or a table.
How a table came about decides what may be added to it:

| origin | came from | may be opened by a header | may grow by dotted keys |
| --- | --- | --- | --- |
| `header` | `[a]`, or an element of `[[a]]` | no | no |
| `implied` | `a` in `[a.b]` | yes, once | only below it |
| `dotted` | `a` in `a.b = 1` | no | yes |
| `inline` | braces | no | no |

`setKey`, `openTable` and `openItem` are the three ways in which a document grows;
each refuses what would define something twice.
-/

namespace DebugConsole

/-- How a table came about. -/
inductive Toml.Origin where
  | header
  | implied
  | dotted
  | inline
deriving DecidableEq, Repr, Inhabited

/-- A TOML value. -/
inductive Toml where
  | text (value : String)
  | integer (value : Int)
  /-- A number with fraction or exponent, an infinity or no number, as it is spelled. -/
  | real (spelling : String)
  | bool (value : Bool)
  /-- A date, a time or both, as it is spelled. -/
  | moment (spelling : String)
  | list (items : List Toml)
  /-- The tables with headers `[[a]]`. -/
  | tables (items : List (List (String × Toml)))
  | table (origin : Toml.Origin) (entries : List (String × Toml))
deriving Repr, Inhabited

namespace Toml

/-- The entries of a table, in the order in which they were added. -/
abbrev Entries := List (String × Toml)

namespace Entries

/-- The value under a key. -/
def find? (key : String) : Entries → Option Toml
  | [] => none
  | (k, v) :: rest => if k = key then some v else find? key rest

/-- Puts a value under a key, at the end where the key is new. -/
def set (key : String) (value : Toml) : Entries → Entries
  | [] => [(key, value)]
  | (k, v) :: rest => if k = key then (key, value) :: rest else (k, v) :: set key value rest

/-- Changes the table at a path below a table; tables that are missing on the way are made.  The
last of several tables with one header counts.  A path of `dotted` keys stops at a table that has
a header of its own. -/
def below (dotted : Bool) (change : Origin → Entries → Option Entries) :
    List String → Origin → Entries → Option Entries
  | [], origin, entries => change origin entries
  | key :: path, _, entries =>
    match entries.find? key with
    | none =>
      let origin := if dotted then Origin.dotted else Origin.implied
      (below dotted change path origin []).map fun child => entries.set key (.table origin child)
    | some (.table origin child) =>
      if origin = .inline || (dotted && origin = .header) then none
      else
        (below dotted change path origin child).map fun child =>
          entries.set key (.table origin child)
    | some (.tables items) =>
      match items.getLast? with
      | none => none
      | some last =>
        (below dotted change path .header last).map fun last =>
          entries.set key (.tables (items.dropLast ++ [last]))
    | some _ => none

/-- Puts a value under a path of keys in a table.  Nothing may stand there, and the table before
the last key has to come from dotted keys itself. -/
def setKey (path : List String) (key : String) (value : Toml) (origin : Origin)
    (entries : Entries) : Option Entries :=
  below true
    (fun origin entries =>
      if (origin = .dotted) = path.isEmpty then none
      else if (entries.find? key).isSome then none
      else some (entries ++ [(key, value)]))
    path origin entries

/-- Opens the table with a header `[path.key]`. -/
def openTable (path : List String) (key : String) (entries : Entries) : Option Entries :=
  below false
    (fun _ entries =>
      match entries.find? key with
      | none => some (entries ++ [(key, .table .header [])])
      | some (.table .implied child) => some (entries.set key (.table .header child))
      | some _ => none)
    path .header entries

/-- Opens one more table with a header `[[path.key]]`. -/
def openItem (path : List String) (key : String) (entries : Entries) : Option Entries :=
  below false
    (fun _ entries =>
      match entries.find? key with
      | none => some (entries ++ [(key, .tables [[]])])
      | some (.tables items) => some (entries.set key (.tables (items ++ [[]])))
      | some _ => none)
    path .header entries

end Entries

/-! ## Looking into values -/

/-- The text of a text value. -/
def text? : Toml → Option String
  | .text s => some s
  | _ => none

/-- The integer of an integer value. -/
def integer? : Toml → Option Int
  | .integer n => some n
  | _ => none

/-- The integer, where it is not negative. -/
def natural? (value : Toml) : Option Nat :=
  value.integer?.bind fun n => if 0 ≤ n then some n.toNat else none

/-- The items of a list. -/
def items? : Toml → Option (List Toml)
  | .list items => some items
  | .tables items => some (items.map (.table .header))
  | _ => none

/-- The texts of a list of texts. -/
def texts? (value : Toml) : Option (List String) := value.items?.bind (·.mapM text?)

/-- The fields of a record, each under its name in a table or at its place in a list.  A date or
time counts as a record without any of them. -/
def fields? (names : List String) (value : Toml) : Option (List (Option Toml)) :=
  match value with
  | .table _ entries => some (names.map (Entries.find? · entries))
  | .moment _ => some (names.map fun _ => none)
  | other => other.items?.map fun items => names.zipIdx.map fun name => items[name.2]?

/-- The value of a field: absent, it is the default; present, it has to be of the right form. -/
def defaulted {α : Type} (read : Toml → Option α) (default : α) : Option Toml → Option α
  | none => some default
  | some value => read value

end Toml
end DebugConsole
