/-
# Records in JSON

A record is written as an object of its members.  It is read from such an object
or from a list of the member values in the order of declaration.

| member | missing in an object | null | missing at the end of a list |
| --- | --- | --- | --- |
| `required` | refused | as the member's reader says | refused |
| `optional` | none | none | refused |
| `defaulted` | the default | as the member's reader says | the default |

Unknown members of an object are ignored; a list with items left over is
refused.
-/

import DebugConsole.Json.Basic

namespace DebugConsole
namespace Protocol

/-- Where the members of a record are taken from. -/
inductive Form where
  | named (fields : Json.Fields)
  | listed (items : List Json)

/-- Reads members one after the other. -/
abbrev Reader (α : Type) := StateT Form Option α

namespace Reader

/-- The next member by name or by place; `none` in the result where it is missing. -/
def member (name : String) : Reader (Option Json) := fun form =>
  match form with
  | .named fields => some (Json.Fields.find? name fields, form)
  | .listed [] => some (none, .listed [])
  | .listed (item :: rest) => some (some item, .listed rest)

/-- Is the record given as a list? -/
def isListed : Reader Bool := fun form =>
  match form with
  | .named _ => some (false, form)
  | .listed _ => some (true, form)

/-- A member that has to be there. -/
def required {α : Type} (name : String) (read : Json → Option α) : Reader α := do
  match ← member name with
  | some value => fun form => (read value).map (·, form)
  | none => failure

/-- A member that an object may leave out or give as null. -/
def optional {α : Type} (name : String) (read : Json → Option α) : Reader (Option α) := do
  match ← member name with
  | some .null => return none
  | some value => fun form => (read value).map fun a => (some a, form)
  | none => if ← isListed then failure else return none

/-- A member with a value of its own where it is missing. -/
def defaulted {α : Type} (name : String) (default : α) (read : Json → Option α) :
    Reader α := do
  match ← member name with
  | some value => fun form => (read value).map (·, form)
  | none => return default

/-- Reads a record from an object or from a list that it uses up. -/
def decode {α : Type} (reader : Reader α) : Json → Option α
  | .obj fields => (reader (.named fields)).map (·.1)
  | .arr items =>
    match reader (.listed items) with
    | some (value, .listed []) => some value
    | _ => none
  | _ => none

/-- Reads a record from an object only. -/
def decodeNamed {α : Type} (reader : Reader α) : Json → Option α
  | .obj fields => (reader (.named fields)).map (·.1)
  | _ => none

end Reader

/-- A list read item by item. -/
def decodeList {α : Type} (read : Json → Option α) : Json → Option (List α)
  | .arr items => items.mapM read
  | _ => none

/-- A list written item by item. -/
def encodeList {α : Type} (write : α → Json) (items : List α) : Json := .arr (items.map write)

/-- A value that may be anything. -/
def decodeAny : Json → Option Json := some

/-- An object whose members are all texts. -/
def decodeTexts : Json → Option (List (String × String))
  | .obj fields => fields.mapM fun field => field.2.str?.map (field.1, ·)
  | _ => none

/-- Texts as the members of an object. -/
def encodeTexts (members : List (String × String)) : Json :=
  Json.object (members.map fun member => (member.1, .str member.2))

/-- A signed word as JSON. -/
def ofInt64 (n : Int64) : Json := .int n.toInt

/-- A word as JSON. -/
def ofUInt32 (n : UInt32) : Json := .int n.toNat

/-- A signed word as JSON. -/
def ofInt32 (n : Int32) : Json := .int n.toInt

end Protocol
end DebugConsole
