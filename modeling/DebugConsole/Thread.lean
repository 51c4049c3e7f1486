/-
# Threads

`Threads` lists the threads of the program in the order in which they became
known and remembers which one has the focus.

| operation | on the list | on the focus |
| --- | --- | --- |
| `insert` | replaces the first thread with the id, else adds at the end | stays |
| `remove` | drops every thread with the id | lost if it was that thread |
| `replaceAll` | becomes the given list | lost if its thread is not in it |
| `setFocus` | stays | becomes the thread, which has to be listed |

A thread is taken to be running until it is reported stopped.
-/

import DebugConsole.Error

namespace DebugConsole

/-- A thread of the program. -/
structure Thread where
  id : Int64
  name : String
  running : Bool := true
  /-- The place in the last stack trace of the frame the user has selected. -/
  selectedFrame : Option UInt64 := none
deriving DecidableEq, Repr, Inhabited

/-- The known threads and the focus. -/
structure Threads where
  list : List Thread := []
  focusId : Option Int64 := none
deriving DecidableEq, Repr, Inhabited

namespace Threads

/-- The first thread with an id. -/
def find? (ts : Threads) (id : Int64) : Option Thread := ts.list.find? (·.id = id)

/-- The first thread with an id, or the error that there is none. -/
def get (ts : Threads) (id : Int64) : Except Error Thread :=
  match ts.find? id with
  | some t => .ok t
  | none => .error (.threadNotFound id)

/-- Changes the first thread that meets a condition. -/
def changeFirst (p : Thread → Bool) (f : Thread → Thread) : List Thread → List Thread
  | [] => []
  | t :: rest => if p t then f t :: rest else t :: changeFirst p f rest

/-- Changes the first thread with an id, which has to be listed. -/
def update (ts : Threads) (id : Int64) (f : Thread → Thread) : Except Error Threads :=
  match ts.find? id with
  | some _ => .ok { ts with list := changeFirst (·.id = id) f ts.list }
  | none => .error (.threadNotFound id)

/-- Adds a thread; one with the same id is replaced. -/
def insert (ts : Threads) (t : Thread) : Threads :=
  match ts.find? t.id with
  | some _ => { ts with list := changeFirst (·.id = t.id) (fun _ => t) ts.list }
  | none => { ts with list := ts.list ++ [t] }

/-- Drops the threads with an id. -/
def remove (ts : Threads) (id : Int64) : Threads where
  list := ts.list.filter (·.id ≠ id)
  focusId := if ts.focusId = some id then none else ts.focusId

/-- Replaces the whole list. -/
def replaceAll (ts : Threads) (list : List Thread) : Threads where
  list := list
  focusId := ts.focusId.filter fun id => list.any (·.id = id)

/-- Notes that a thread runs. -/
def markRunning (ts : Threads) (id : Int64) : Except Error Threads :=
  ts.update id fun t => { t with running := true }

/-- Notes that a thread has stopped. -/
def markStopped (ts : Threads) (id : Int64) : Except Error Threads :=
  ts.update id fun t => { t with running := false }

/-- Notes that every thread runs. -/
def markAllRunning (ts : Threads) : Threads :=
  { ts with list := ts.list.map fun t => { t with running := true } }

/-- Notes that every thread has stopped. -/
def markAllStopped (ts : Threads) : Threads :=
  { ts with list := ts.list.map fun t => { t with running := false } }

/-- Selects a frame of a thread. -/
def selectFrame (ts : Threads) (id : Int64) (frame : UInt64) : Except Error Threads :=
  ts.update id fun t => { t with selectedFrame := some frame }

/-- Forgets the selected frame of a thread. -/
def clearFrame (ts : Threads) (id : Int64) : Except Error Threads :=
  ts.update id fun t => { t with selectedFrame := none }

/-- Forgets the selected frame of each listed thread, by its id. -/
def clearAllFrames (ts : Threads) : Threads :=
  (ts.list.map (·.id)).foldl (fun ts id => (ts.clearFrame id).toOption.getD ts) ts

/-- Does every known thread run? -/
def allRunning (ts : Threads) : Bool := ts.list.all (·.running)

/-- Has every known thread stopped? -/
def allStopped (ts : Threads) : Bool := ts.list.all fun t => !t.running

/-- The id of the first stopped thread. -/
def firstStopped? (ts : Threads) : Option Int64 := (ts.list.find? fun t => !t.running).map (·.id)

/-- Gives a listed thread the focus. -/
def setFocus (ts : Threads) (id : Int64) : Except Error Threads :=
  match ts.find? id with
  | some _ => .ok { ts with focusId := some id }
  | none => .error (.threadNotFound id)

/-- The thread with the focus. -/
def focus? (ts : Threads) : Option Thread := ts.focusId.bind ts.find?

/-- How many threads are known. -/
def size (ts : Threads) : Nat := ts.list.length

/-- Is no thread known? -/
def isEmpty (ts : Threads) : Bool := ts.list.isEmpty

end Threads
end DebugConsole
