/-
# Keeping the adapter's breakpoints in step

The adapter always gets the complete list of enabled breakpoints of one path.  It
answers with one descriptor per breakpoint, in the same order; another number of
descriptors is a breach of protocol and changes nothing.

| descriptor | adapter id | verified | message |
| --- | --- | --- | --- |
| with an id | that id | as described | as described |
| without an id | kept | yes | the described one unless empty, else a warning if not verified |

No event can speak of a breakpoint without an id, so it counts as verified at once.

Before the program is started breakpoints are only recorded.  Afterwards each
change is sent at once; if the adapter refuses an enabling or disabling, the
breakpoint goes back to what it was.
-/

import DebugConsole.Debugger.Batch

namespace DebugConsole

open Protocol

/-- Said of a breakpoint that the adapter has not been told of yet. -/
def pendingMessage : String := "Breakpoint pending until program starts."

/-- Said of a breakpoint that the adapter could not set. -/
def unverifiedMessage : String :=
  "Could not set this breakpoint. The module may not have been loaded yet."

/-- What a descriptor without an id says about a breakpoint. -/
def messageWithoutId (descriptor : Descriptor) : Option String :=
  match descriptor.message with
  | some message =>
    if message ≠ "" then some message
    else if descriptor.verified then none else some unverifiedMessage
  | none => if descriptor.verified then none else some unverifiedMessage

namespace Breakpoint

/-- Takes over what a descriptor says. -/
def describe (descriptor : Descriptor) (b : Breakpoint) : Breakpoint :=
  match descriptor.id with
  | some id =>
    { b with
      adapterId := some id
      verified := descriptor.verified
      message := descriptor.message }
  | none => { b with verified := true, message := messageWithoutId descriptor }

end Breakpoint

namespace Breakpoints

/-- The complete list of enabled breakpoints of a path, as a request. -/
def argumentsFor (bs : Breakpoints) (path : String) : SetBreakpointsArguments where
  source := Source.ofPath path
  breakpoints := (bs.enabledFor path).map fun b => { line := b.line }

/-- Gives breakpoints their descriptors by place. -/
def describeAll (bs : Breakpoints) : List (Nat × Descriptor) → Breakpoints
  | [] => bs
  | (index, descriptor) :: rest => (bs.modify index (·.describe descriptor)).describeAll rest

/-- Takes over the answer for the breakpoints of a path. -/
def reconcile (bs : Breakpoints) (path : String) (indices : List Nat)
    (descriptors : List Descriptor) : Except Error Breakpoints :=
  if descriptors.length = indices.length then .ok (bs.describeAll (indices.zip descriptors))
  else .error (.protocol (.descriptorCount path descriptors.length indices.length))

end Breakpoints

namespace Debugger

variable {σ : Type}

/-- Takes over the answer for the breakpoints of a path. -/
def reconcile (path : String) (indices : List Nat) (descriptors : List Descriptor) :
    Action σ Unit := do
  let breakpoints ← Action.ofExcept ((← get).breakpoints.reconcile path indices descriptors)
  modify fun d => { d with breakpoints }

/-- Changes the breakpoints. -/
def onBreakpoints (f : Breakpoints → Breakpoints) : Reaction σ Unit :=
  modify fun d => { d with breakpoints := f d.breakpoints }

variable [Environment σ]

/-- Sends the enabled breakpoints of a path and takes over the answer. -/
def pushPath (path : String) : Action σ Unit := do
  let breakpoints := (← get).breakpoints
  let descriptors ← Action.send (Call.setBreakpoints (breakpoints.argumentsFor path))
  reconcile path ((breakpoints.enabledFor path).map (·.index)) descriptors

/-- Takes over the answers for paths, up to the first with a wrong count. -/
def reconcileAll : List ((String × List Nat) × List Descriptor) → Action σ Unit
  | [] => return ()
  | ((path, indices), descriptors) :: rest => do
    reconcile path indices descriptors
    reconcileAll rest

/-- Sends the enabled breakpoints of every path, then takes over the answers. -/
def pushAllPaths : Action σ Unit := do
  let breakpoints := (← get).breakpoints
  let groups := breakpoints.enabledByPath
  let answers ← Action.sendAll
    (groups.map fun group => Call.setBreakpoints (breakpoints.argumentsFor group.1))
  reconcileAll ((groups.map fun group => (group.1, group.2.map (·.index))).zip answers)

/-- Adds a breakpoint; the result is its number and what there is to say about it. -/
def setBreakpoint (path : String) (line : UInt32) : Action σ (Nat × Option String) := do
  Action.requireSession true
  Action.react (onBreakpoints (·.add path line))
  let index := (← get).breakpoints.lastIndex
  if !(← get).phase.isStarted then return (index, some pendingMessage)
  pushPath path
  return (index, ((← get).breakpoints.find? index).bind (·.message))

/-- Enables or disables a breakpoint; undone where the adapter refuses it. -/
def setEnabled (index : Nat) (enabled : Bool) : Action σ Unit := do
  Action.requireSession false
  let breakpoint ← Action.ofExcept ((← get).breakpoints.get index)
  if breakpoint.enabled = enabled then return
  Action.react (onBreakpoints (·.modify index fun b => { b with enabled }))
  try
    pushPath breakpoint.path
  catch e =>
    Action.react (onBreakpoints (·.modify index fun b => { b with enabled := !enabled }))
    throw e

/-- Deletes a breakpoint and sends what is left for its path. -/
def deleteBreakpoint (index : Nat) : Action σ Unit := do
  Action.requireSession false
  let (deleted, breakpoints) ← Action.ofExcept ((← get).breakpoints.delete index)
  modify fun d => { d with breakpoints }
  pushPath deleted.path

end Debugger
end DebugConsole
