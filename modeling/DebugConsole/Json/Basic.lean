/-
# JSON values

A value is null, a truth value, a number, a text, a list or an object.

| number | written | held as |
| --- | --- | --- |
| `int` | without fraction and exponent, `-2^63 ≤ n < 2^64` | the integer |
| `real` | in any other way | a binary64 number |

`-0` is a `real`: it differs from `0`.  The two kinds never meet: `1.0` is not
the integer `1`.  An object lists each key once, keys in increasing order
(`Fields.insert`), so equal objects are equal lists.
-/

import DebugConsole.Binary64.Basic

namespace DebugConsole

/-- A JSON value. -/
inductive Json where
  | null
  | bool (value : Bool)
  | int (value : Int)
  | real (value : Binary64)
  | str (value : String)
  | arr (items : List Json)
  | obj (fields : List (String × Json))
deriving Repr, Inhabited, BEq

namespace Json

/-- The members of an object. -/
abbrev Fields := List (String × Json)

namespace Fields

/-- Sets a member; a key stands where the order of keys puts it. -/
def insert (key : String) (value : Json) : Fields → Fields
  | [] => [(key, value)]
  | (k, v) :: rest =>
    if key < k then (key, value) :: (k, v) :: rest
    else if key = k then (key, value) :: rest
    else (k, v) :: insert key value rest

/-- The member under a key. -/
def find? (key : String) : Fields → Option Json
  | [] => none
  | (k, v) :: rest => if k = key then some v else find? key rest

/-- Members in the order of their keys; of two under one key the later counts. -/
def ofList (members : List (String × Json)) : Fields :=
  members.foldl (fun fields member => insert member.1 member.2 fields) []

@[simp] theorem find?_nil (key : String) : find? key [] = none := rfl

theorem find?_insert_self (key : String) (value : Json) (fields : Fields) :
    find? key (insert key value fields) = some value := by
  induction fields with
  | nil => simp [insert, find?]
  | cons member rest ih =>
    obtain ⟨k, v⟩ := member
    simp only [insert]
    split
    · simp [find?]
    · split
      · simp [find?]
      · rename_i _ hne
        simp [find?, Ne.symm hne, ih]

theorem find?_insert_of_ne {key other : String} (hne : other ≠ key) (value : Json)
    (fields : Fields) : find? other (insert key value fields) = find? other fields := by
  induction fields with
  | nil => simp [insert, find?, hne.symm]
  | cons member rest ih =>
    obtain ⟨k, v⟩ := member
    simp only [insert]
    split
    · simp [find?, hne.symm]
    · split
      · rename_i _ heq
        subst heq
        simp [find?, hne.symm]
      · simp [find?, ih]

end Fields

/-- The object with these members. -/
def object (members : List (String × Json)) : Json := .obj (Fields.ofList members)

/-- The object with those members that are present. -/
def record (members : List (String × Option Json)) : Json :=
  object (members.filterMap fun member => member.2.map (member.1, ·))

/-- The member of an object; other values have none. -/
def get? (key : String) : Json → Option Json
  | .obj fields => Fields.find? key fields
  | _ => none

/-- The text of a text value. -/
def str? : Json → Option String
  | .str s => some s
  | _ => none

/-- The truth value of a truth value. -/
def bool? : Json → Option Bool
  | .bool b => some b
  | _ => none

/-- The integer of an integer value. -/
def int? : Json → Option Int
  | .int n => some n
  | _ => none

/-- The items of a list value. -/
def arr? : Json → Option (List Json)
  | .arr items => some items
  | _ => none

/-- The integer, where it is a signed 64-bit word. -/
def int64? (value : Json) : Option Int64 :=
  match value with
  | .int n =>
    if -0x8000000000000000 ≤ n ∧ n < 0x8000000000000000 then some (Int64.ofInt n) else none
  | _ => none

/-- The integer, where it is an unsigned 64-bit word. -/
def uint64? (value : Json) : Option UInt64 :=
  match value with
  | .int n => if 0 ≤ n ∧ n < 0x10000000000000000 then some (UInt64.ofNat n.toNat) else none
  | _ => none

/-- The integer, where it is an unsigned 32-bit word. -/
def uint32? (value : Json) : Option UInt32 :=
  match value with
  | .int n => if 0 ≤ n ∧ n < 0x100000000 then some (UInt32.ofNat n.toNat) else none
  | _ => none

/-- The integer, where it is a signed 32-bit word. -/
def int32? (value : Json) : Option Int32 :=
  match value with
  | .int n => if -0x80000000 ≤ n ∧ n < 0x80000000 then some (Int32.ofInt n) else none
  | _ => none

/-- A missing value stands for null. -/
def ofOption : Option Json → Json
  | some value => value
  | none => .null

instance : Coe String Json := ⟨.str⟩

instance : Coe Bool Json := ⟨.bool⟩

end Json

end DebugConsole
