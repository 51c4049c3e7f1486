/-
# Sessions from start to end

| operation | |
| --- | --- |
| `launch` | forgets all breakpoints and starts a session for a new target |
| `relaunch` | closes the session and starts one for the same target |
| `closeSession` | disconnects; nothing of the session is heard afterwards |
| `run` | ends the configuration of a launched program |

A session starts with a connection and the initial exchange with the adapter.
The request that starts the program is then left unsent until the operation is
over (`Reaction.sendStart`): some adapters answer it only after the
configuration.

The configuration sends the breakpoints of every path, then the exceptions to
stop at, then, where the adapter knows it, the end of the configuration; the
first failure ends it.  The threads are asked for last, and a failure there does
not matter.
-/

import DebugConsole.Debugger.Synchronization

namespace DebugConsole

open Protocol

namespace Debugger

variable {σ : Type} [Environment σ]

/-- Disconnects from the adapter and forgets what came from it. -/
def closeSession : Reaction σ Unit := do
  let d ← get
  if d.session.isNone then return
  set { d with session := none }
  let _ ← (Action.send (Call.disconnect
    { restart := false, terminateDebuggee := some d.launches }) : Action σ Unit).run
  modify fun d => { d with threads := {}, texts := SourceTexts.flush }

/-- Connects to an adapter and asks what it can do. -/
def openSession (target : Target) : Action σ Unit := do
  Action.react Reaction.closeInput
  Action.react (Reaction.onThreads fun _ => {})
  Action.connect target.executable
  let capabilities ← Action.send (Call.introduce (InitializeArguments.ofAdapter target.adapterId))
  modify fun d => { d with capabilities }

/-- Closes the session and starts one for the same target. -/
def relaunch : Action σ Unit := do
  match (← get).target with
  | none => throw .nothingToRelaunch
  | some target =>
    Action.react (Reaction.enter .initializing)
    Action.react closeSession
    openSession target
    modify fun d => { d with
      session := d.session.map ({ · with start := some (.unsent target.mode) }) }

/-- Starts debugging a target from scratch. -/
def launch (target : Target) : Action σ Unit := do
  modify fun d => { d with target := some target, breakpoints := {} }
  relaunch

/-- Asks for the threads of the program. -/
def refreshThreads : Action σ Unit := do
  Action.requireSession true
  let infos ← Action.send Call.threads
  Action.react (Reaction.onThreads
    (·.replaceAll (infos.map fun info => { id := info.id, name := info.name })))

/-- Tells the adapter everything it needs before the program runs. -/
def configure : Action σ Unit := do
  Action.requireSession true
  Action.react (Reaction.enter .running)
  pushAllPaths
  Action.send (Call.setExceptionBreakpoints { filters := [] })
  if (← get).capabilities.configurationDoneRequest then Action.send Call.configurationDone
  try refreshThreads catch _ => pure ()
  Action.react Reaction.closeInput

/-- Lets a launched program run that is still being configured. -/
def run : Action σ Unit := do
  let d ← get
  if d.phase ≠ .configuring || !d.launches then throw .nothingToRun
  configure

end Debugger
end DebugConsole
