/-
# Breakpoints

`Breakpoints` is the user's list of breakpoints.  It outlives every session with
an adapter.  A breakpoint gets the next number when it is added and keeps it until
it is deleted; no number is given twice.

| part | holds |
| --- | --- |
| `list` | the breakpoints, in increasing order of their numbers |
| `groups` | for each path with breakpoints their numbers: paths increase, numbers as listed |
| `lastIndex` | the number given last, 0 before the first |

Look-up by number relies on the order of the list: it ends at the first
breakpoint whose number is not below the one sought (`findIndexed?`).

Numbers are 32-bit words in the program and natural numbers here.  The two agree as
long as fewer than `2^32` breakpoints are added per launch.
-/

import DebugConsole.Error

namespace DebugConsole

/-- A breakpoint of the user and what the adapter last said about it. -/
structure Breakpoint where
  /-- Its number, a 32-bit word as long as fewer than `2^32` breakpoints are added per launch. -/
  index : Nat
  path : String
  line : UInt32
  enabled : Bool := true
  verified : Bool := false
  adapterId : Option Int64 := none
  message : Option String := none
deriving DecidableEq, Repr, Inhabited

/-- The user's breakpoints. -/
structure Breakpoints where
  list : List Breakpoint := []
  groups : List (String × List Nat) := []
  /-- The number given last.  It grows by one with each breakpoint and never falls, so it does not
  leave the 32-bit words as long as fewer than `2^32` breakpoints are added per launch. -/
  lastIndex : Nat := 0
deriving DecidableEq, Repr, Inhabited

namespace Breakpoints

/-- The breakpoint with a number in a list ordered by number. -/
def findIndexed? (index : Nat) : List Breakpoint → Option Breakpoint
  | [] => none
  | b :: rest =>
    if b.index < index then findIndexed? index rest
    else if b.index = index then some b
    else none

/-- Changes the first breakpoint that meets a condition. -/
def changeFirst (p : Breakpoint → Bool) (f : Breakpoint → Breakpoint) :
    List Breakpoint → List Breakpoint
  | [] => []
  | b :: rest => if p b then f b :: rest else b :: changeFirst p f rest

/-- Drops the first breakpoint with a number. -/
def dropIndexed (index : Nat) : List Breakpoint → List Breakpoint
  | [] => []
  | b :: rest => if b.index = index then rest else b :: dropIndexed index rest

/-- Adds a number at the end of the group of a path. -/
def joinGroup (path : String) (index : Nat) :
    List (String × List Nat) → List (String × List Nat)
  | [] => [(path, [index])]
  | (p, indices) :: rest =>
    if path < p then (path, [index]) :: (p, indices) :: rest
    else if path = p then (p, indices ++ [index]) :: rest
    else (p, indices) :: joinGroup path index rest

/-- Drops a number from the group of a path; a group without numbers goes away. -/
def leaveGroup (path : String) (index : Nat) :
    List (String × List Nat) → List (String × List Nat)
  | [] => []
  | (p, indices) :: rest =>
    if p = path then
      match indices.filter (· ≠ index) with
      | [] => rest
      | remaining => (p, remaining) :: rest
    else (p, indices) :: leaveGroup path index rest

/-- The numbers in the group of a path. -/
def group (path : String) : List (String × List Nat) → List Nat
  | [] => []
  | (p, indices) :: rest => if p = path then indices else group path rest

/-- Adds an enabled, unverified breakpoint; its number is the new `lastIndex`. -/
def add (bs : Breakpoints) (path : String) (line : UInt32) : Breakpoints where
  list := bs.list ++ [{ index := bs.lastIndex + 1, path, line }]
  groups := joinGroup path (bs.lastIndex + 1) bs.groups
  lastIndex := bs.lastIndex + 1

/-- The breakpoint with a number. -/
def find? (bs : Breakpoints) (index : Nat) : Option Breakpoint := findIndexed? index bs.list

/-- The breakpoint with a number, or the error that there is none. -/
def get (bs : Breakpoints) (index : Nat) : Except Error Breakpoint :=
  match bs.find? index with
  | some b => .ok b
  | none => .error (.breakpointNotFound index)

/-- The first breakpoint that the adapter knows under an id. -/
def findId? (bs : Breakpoints) (id : Int64) : Option Breakpoint :=
  bs.list.find? (·.adapterId = some id)

/-- The first breakpoint under an adapter's id, or the error that there is none. -/
def getId (bs : Breakpoints) (id : Int64) : Except Error Breakpoint :=
  match bs.findId? id with
  | some b => .ok b
  | none => .error (.breakpointIdNotFound id)

/-- Changes the breakpoint with a number; nothing happens where there is none. -/
def modify (bs : Breakpoints) (index : Nat) (f : Breakpoint → Breakpoint) : Breakpoints :=
  match bs.find? index with
  | some _ => { bs with list := changeFirst (·.index = index) f bs.list }
  | none => bs

/-- Changes the first breakpoint under an adapter's id; nothing happens where there is none. -/
def modifyId (bs : Breakpoints) (id : Int64) (f : Breakpoint → Breakpoint) : Breakpoints :=
  { bs with list := changeFirst (·.adapterId = some id) f bs.list }

/-- Changes the breakpoint with a number, which has to exist. -/
def update (bs : Breakpoints) (index : Nat) (f : Breakpoint → Breakpoint) :
    Except Error Breakpoints :=
  match bs.find? index with
  | some _ => .ok (bs.modify index f)
  | none => .error (.breakpointNotFound index)

/-- Changes the first breakpoint under an adapter's id, which has to exist. -/
def updateId (bs : Breakpoints) (id : Int64) (f : Breakpoint → Breakpoint) :
    Except Error Breakpoints :=
  match bs.findId? id with
  | some _ => .ok (bs.modifyId id f)
  | none => .error (.breakpointIdNotFound id)

/-- The enabled breakpoints of a path, in the order of their numbers. -/
def enabledFor (bs : Breakpoints) (path : String) : List Breakpoint :=
  ((group path bs.groups).filterMap bs.find?).filter (·.enabled)

/-- The enabled breakpoints by path, paths in increasing order; a path without any is left out. -/
def enabledByPath (bs : Breakpoints) : List (String × List Breakpoint) :=
  (bs.groups.map fun group => (group.1, bs.enabledFor group.1)).filter fun entry =>
    !entry.2.isEmpty

/-- Takes a breakpoint out of the list and out of its group. -/
def delete (bs : Breakpoints) (index : Nat) : Except Error (Breakpoint × Breakpoints) :=
  match bs.find? index with
  | some b =>
    .ok (b, { bs with
      list := dropIndexed index bs.list
      groups := leaveGroup b.path index bs.groups })
  | none => .error (.breakpointNotFound index)

/-- How many breakpoints there are. -/
def size (bs : Breakpoints) : Nat := bs.list.length

/-- Is there no breakpoint? -/
def isEmpty (bs : Breakpoints) : Bool := bs.list.isEmpty

end Breakpoints
end DebugConsole
