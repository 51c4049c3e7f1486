/-
# Reacting to the adapter

A signal is something that happened on the adapter's side of a session: an event,
the end of its stream, the answer to the request that starts the program.  It
carries the number of its session; a signal of another session than the open one
has no effect.

`takeSignal` hands out events first, in the order of their arrival, then the end
of the stream, once, and the start answer only when neither is left.

| event | reaction |
| --- | --- |
| `initialized` | a launched program is configured by the user, an attached one at once |
| `output` | shown unless its category is suppressed; no category means `console` |
| `continued` | `noteContinued` |
| `stopped` | threads stop; on the first stop the console shows where and opens |
| `thread` | the list of threads is refreshed, or shrinks |
| `exited` | the status is shown; the target is gone |
| `terminated` | while running or stopped: the target is gone |
| `breakpoint` | reason `new` or `changed`: the breakpoint with the id is verified or not |
| other | none |

When a launched target is gone, it is started again; when an attached one is gone,
the console should end.
-/

import DebugConsole.Debugger.Execution
import DebugConsole.Debugger.Lifecycle

namespace DebugConsole

open Protocol

/-- Something that happened on the adapter's side of a session. -/
inductive Signal where
  | event (generation : Nat) (event : Event)
  | closed (generation : Nat)
  | started (generation : Nat) (result : Except Error Unit)
deriving Inhabited

namespace Signal

/-- The number of the session a signal belongs to. -/
def generation : Signal → Nat
  | .event generation _ => generation
  | .closed generation => generation
  | .started generation _ => generation

end Signal

namespace Session

/-- What a session hands out next, and what is left of it. -/
def next? (s : Session) (generation : Nat) : Option (Signal × Session) :=
  if s.endReported || (s.inbox.isEmpty && !s.ended) then
    match s.start with
    | some (.answered result) => some (.started generation result, { s with start := none })
    | _ => none
  else
    match s.inbox with
    | event :: rest => some (.event generation event, { s with inbox := rest })
    | [] => some (.closed generation, { s with endReported := true })

end Session

/-- The name a thread has before the adapter has named it. -/
def placeholderName (id : Int64) : String := "thread " ++ toString id.toInt

/-- A thread that was heard of but not listed by the adapter yet. -/
def placeholderThread (id : Int64) : Thread := { id, name := placeholderName id }

namespace Threads

/-- Adds a placeholder for a thread that is not known. -/
def ensureKnown (ts : Threads) (id : Int64) : Threads :=
  match ts.find? id with
  | some _ => ts
  | none => ts.insert (placeholderThread id)

end Threads

namespace Debugger

variable {σ : Type}

/-- Takes the next signal of the open session. -/
def takeSignal : Reaction σ (Option Signal) := fun d =>
  match d.session.bind (·.next? d.generation) with
  | some (signal, session) => (some signal, { d with session := some session })
  | none => (none, d)

/-- Tells the host to end. -/
def requestShutdown : Reaction σ Unit := modify fun d => { d with shutdownRequested := true }

variable [Environment σ]

/-- Where a thread stands: the name of its source, the line and the text of the line. -/
def topOfStack (threadId : Int64) : Action σ (Option String) := do
  match (← stackTrace threadId 1).head? with
  | none => return none
  | some frame =>
    match frame.source with
    | none => return none
    | some source =>
      match source.displayName? with
      | none => return none
      | some name =>
        let text ← (do return (← sourceLines source frame.line.toNat 1).head?.getD "") <|>
          pure ""
        return some (name ++ ":" ++ toString frame.line.toNat ++ " " ++ text)

/-- The user sets breakpoints in a launched program; an attached one is configured at once, and
its session is closed where that fails. -/
def onInitialized : Reaction σ Unit := do
  match (← get).target with
  | none => return
  | some target =>
    Reaction.enter .configuring
    if target.mode.isLaunch then Reaction.openInput
    else
      match ← (configure : Action σ Unit).run with
      | .ok () => return
      | .error e =>
        Reaction.say "Failed to initialize debugging session."
        Reaction.say e.message
        closeSession

/-- Notes which threads have stopped; false where the report names none. -/
def noteStopped (body : StoppedBody) : Reaction σ Bool := do
  if body.allThreadsStopped then
    if (← get).threads.isEmpty then
      let _ ← (refreshThreads : Action σ Unit).run
    if let some id := body.threadId then Reaction.onThreads (·.ensureKnown id)
    Reaction.onThreads fun ts => ts.markAllStopped.clearAllFrames
    return true
  else
    match body.threadId with
    | some id =>
      Reaction.onThreads (·.ensureKnown id)
      Reaction.onThreads fun ts => (ts.clearFrame id).toOption.getD ts
      Reaction.onThreads fun ts => (ts.markStopped id).toOption.getD ts
      return true
    | none =>
      Reaction.say "stop event with no thread information ignored."
      return false

/-- Gives the focus to a stopped thread, shows where it stands and opens the console. -/
def showStop (threadId : Option Int64) : Reaction σ Unit := do
  match threadId.or (← get).threads.firstStopped? with
  | none => Reaction.openInput
  | some focus =>
    Reaction.onThreads fun ts => (ts.setFocus focus).toOption.getD ts
    if let .ok (some line) ← (topOfStack focus : Action σ (Option String)).run then
      Reaction.say line
    Reaction.openInput

/-- Threads have stopped. -/
def onStopped (body : StoppedBody) : Reaction σ Unit := do
  if let some description := body.description then Reaction.say description
  let firstStop := (← get).threads.allRunning
  if ← noteStopped body then
    if (← get).phase = .running then Reaction.enter .stopped
    if firstStop then showStop body.threadId

/-- A thread has started or exited. -/
def onThread (body : ThreadBody) : Reaction σ Unit := do
  if body.reason = "started" then
    Reaction.onThreads (·.insert (placeholderThread body.threadId))
    let _ ← (refreshThreads : Action σ Unit).run
  else if body.reason = "exited" then
    Reaction.onThreads (·.remove body.threadId)

/-- The program is gone: start it again, or end. -/
def onTargetGone : Reaction σ Unit := do
  match (← get).target with
  | none => return
  | some target =>
    if target.mode.isLaunch then
      match ← (relaunch : Action σ Unit).run with
      | .ok () => return
      | .error e => Reaction.say ("Failed to relaunch: " ++ e.message)
    else requestShutdown

/-- Reacts to an event of the open session. -/
def onEvent : Event → Reaction σ Unit
  | .initialized => onInitialized
  | .output body => do
    if !(← get).suppressed.contains (body.category.getD "console") then
      Reaction.onConsole (·.write body.output)
  | .continued threadId allThreads => noteContinued threadId allThreads
  | .stopped body => onStopped body
  | .thread body => onThread body
  | .exited body => do
    Reaction.enter .terminated
    Reaction.say ("Target exited with status " ++ toString body.exitCode.toInt)
    onTargetGone
  | .terminated _ => do
    let phase := (← get).phase
    if phase = .running || phase = .stopped then
      Reaction.enter .terminated
      Reaction.say "The target has exited."
      onTargetGone
  | .breakpoint reason descriptor => do
    if let some id := descriptor.id then
      if reason = "new" || reason = "changed" then
        onBreakpoints (·.modifyId id fun b => { b with verified := descriptor.verified })
  | .other _ _ => return

/-- The adapter has answered the request that starts the program.  A refusal ends the session;
the user may try again after a refused launch. -/
def onStarted (result : Except Error Unit) : Reaction σ Unit := do
  match result with
  | .ok () => return
  | .error e =>
    let launching := (← get).launches
    Reaction.say ("Failed to " ++ (if launching then "launch" else "attach") ++ ": " ++ e.message)
    Reaction.enter .terminated
    closeSession
    if launching then Reaction.openInput else requestShutdown

/-- The adapter's stream has ended. -/
def onClosed : Reaction σ Unit := do
  Reaction.say "The debug adapter has exited."
  Reaction.enter .terminated
  closeSession
  if (← get).attaches then requestShutdown

/-- Reacts to a signal of the open session; any other signal is dropped. -/
def handle (signal : Signal) : Reaction σ Unit := do
  let d ← get
  if signal.generation ≠ d.generation || d.session.isNone then return
  match signal with
  | .event _ event => onEvent event
  | .closed _ => onClosed
  | .started _ result => onStarted result

/-- Handles a signal and sends the start request of a session that began meanwhile. -/
def settle (signal : Signal) : Reaction σ Unit := do
  handle signal
  Reaction.sendStart

end Debugger
end DebugConsole
