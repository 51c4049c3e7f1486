/-
# Letting the program run and stopping it

| operation | request | on |
| --- | --- | --- |
| `pause` | `pause` | the thread with the focus, else the first known thread, else nothing |
| `continueRunning` | `continue` | the thread with the focus |
| `stepIn`, `stepOver` | `stepIn`, `next` | the thread with the focus |

An adapter need not report that threads run again after `continue`, so the answer
has the effect of such a report (`noteContinued`).
-/

import DebugConsole.Debugger.Inspection

namespace DebugConsole

open Protocol

namespace Debugger

variable {σ : Type}

/-- Notes that a thread, or every thread, runs again.  Once all of them do, the program is
running and no commands are taken. -/
def noteContinued (threadId : Int64) (allThreads : Bool) : Reaction σ Unit := do
  if allThreads then Reaction.onThreads (·.markAllRunning)
  else Reaction.onThreads fun ts => (ts.markRunning threadId).toOption.getD ts
  let d ← get
  if d.threads.allRunning then
    if d.phase = .stopped then Reaction.enter .running
    Reaction.closeInput

variable [Environment σ]

/-- Stops the thread with the focus, or the first one. -/
def pause : Action σ Unit := do
  Action.requireSession false
  let d ← get
  match d.threads.focus?.or d.threads.list.head? with
  | some thread => Action.send (Call.pause { threadId := thread.id })
  | none => return

/-- Lets the thread with the focus run. -/
def continueRunning : Action σ Unit := do
  Action.requireSession false
  let thread ← activeThread
  let body ← Action.send (Call.resume { threadId := thread.id })
  Action.react (noteContinued thread.id body.allThreadsContinued)

/-- Steps the thread with the focus into the line. -/
def stepIn : Action σ Unit := do
  Action.requireSession false
  let thread ← activeThread
  Action.send (Call.stepIn { threadId := thread.id })

/-- Steps the thread with the focus over the line. -/
def stepOver : Action σ Unit := do
  Action.requireSession false
  let thread ← activeThread
  Action.send (Call.next { threadId := thread.id })

end Debugger
end DebugConsole
