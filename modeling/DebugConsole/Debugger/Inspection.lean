/-
# Looking at a stopped program

| operation | result |
| --- | --- |
| `stackTrace` | frames of a thread, innermost first |
| `selectFrame`, `currentFrame` | the frame of a thread that inspection is about |
| `scopeContents` | the scopes of the current frame with their variables |
| `evaluate` | the value of an expression in the current frame |
| `sourceLines` | lines of a source |

Every operation needs a session and a started program; only the text of a file
can be read at any time.
-/

import DebugConsole.Debugger.Batch

namespace DebugConsole

open Protocol

/-- The variables of one scope. -/
structure ScopeVariables where
  scopeName : String
  expensive : Bool
  /-- None where they were not asked for. -/
  content : Option (List Variable)
deriving Repr, Inhabited

/-- How many frames to ask for, so that the one at a place is the last: one more than the
place, in 64-bit words. -/
def levelsFor (place : UInt64) : Int64 := place.toInt64 + 1

/-- The lists fetched for each reference; of two under one reference the later counts. -/
def putFetched (fetched : List (Int64 × List Variable)) (reference : Int64)
    (content : List Variable) : List (Int64 × List Variable) :=
  (reference, content) :: fetched.filter (·.1 ≠ reference)

/-- All lists fetched, for each reference the last. -/
def putAll (fetched : List (Int64 × List Variable)) : List (Int64 × List Variable) :=
  fetched.foldl (fun kept entry => putFetched kept entry.1 entry.2) []

/-- Hands each scope the list fetched for its reference; a list is handed out once. -/
def handOut : List Scope → List (Int64 × List Variable) → List ScopeVariables
  | [], _ => []
  | scope :: rest, fetched =>
    ⟨scope.name, scope.expensive,
        (fetched.find? (·.1 = scope.variablesReference)).map (·.2)⟩ ::
      handOut rest (fetched.filter (·.1 ≠ scope.variablesReference))

namespace Debugger

variable {σ : Type}

/-- The thread with the focus. -/
def activeThread : Action σ Thread := do
  Action.requireSession false
  match (← get).threads.focus? with
  | some thread => return thread
  | none => throw .noFocusThread

/-- The known threads. -/
def knownThreads : Action σ Threads := do
  Action.requireSession false
  return (← get).threads

/-- Gives another thread the focus. -/
def focusThread (id : Int64) : Action σ Unit := do
  Action.requireSession false
  Action.onThreads (·.setFocus id)

variable [Environment σ]

/-- Frames of a thread, innermost first. -/
def stackTrace (threadId levels : Int64) : Action σ (List StackFrame) := do
  Action.requireSession false
  Action.send (Call.stackTrace { threadId, levels := some levels })

/-- Selects a frame of a thread by its place in the stack trace. -/
def selectFrame (threadId : Int64) (place : UInt64) : Action σ Unit := do
  let frames ← stackTrace threadId (levelsFor place)
  if frames.length ≤ place.toNat then throw (.frameNotFound place.toNat frames.length)
  Action.onThreads (·.selectFrame threadId place)

/-- The selected frame of the thread with the focus; the innermost one unless another was
selected. -/
def currentFrame : Action σ (Option StackFrame) := do
  let thread ← activeThread
  let place := thread.selectedFrame.getD 0
  let frames ← stackTrace thread.id (levelsFor place)
  return frames[place.toNat]?

/-- The scopes to fetch: those with a name, or those that are not expensive. -/
def scopesToFetch (scopes : List Scope) : Option String → Except Error (List Scope)
  | some name =>
    match scopes.filter (·.name = name) with
    | [] => .error (.scopeNotFound name)
    | found => .ok found
  | none => .ok (scopes.filter (!·.expensive))

/-- The scopes of the current frame, with the variables of the chosen ones. -/
def scopeContents (scopeName : Option String) : Action σ (List ScopeVariables) := do
  Action.requireSession false
  match ← currentFrame with
  | none => return []
  | some frame =>
    let scopes ← Action.send (Call.scopes { frameId := frame.id })
    let chosen ← Action.ofExcept (scopesToFetch scopes scopeName)
    let references := chosen.map (·.variablesReference)
    let lists ← Action.sendAll
      (references.map fun reference => Call.scopeVariables { variablesReference := reference })
    return handOut scopes (putAll (references.zip lists))

/-- The value of an expression in the current frame. -/
def evaluate (expression : String) : Action σ EvaluateBody := do
  Action.requireSession false
  let frame ← currentFrame
  Action.send (Call.evaluate
    { expression, frameId := frame.map (·.id), context := some "repl" })

/-- The lines of the text under a key, obtained where they are not kept yet. -/
def keptLines (key : SourceTexts.Key) (source : Action σ String) : Action σ (List String) :=
  fun d =>
    let ((result, texts), d) := d.texts.fetch (m := StateM (Debugger σ)) key source d
    (result, { d with texts })

/-- Lines of a source from a line number on.  A text that the adapter holds goes before the
file of the same source. -/
def sourceLines (source : Source) (start length : Nat) : Action σ (List String) := do
  match source.reference.filter (· ≠ 0), source.path with
  | some reference, _ =>
    Action.requireSession false
    let lines ← keptLines (.reference reference)
      (Action.send (Call.source { sourceReference := reference }))
    return window lines start length
  | none, some path =>
    let lines ← keptLines (.path path) (Action.readFile path)
    return window lines start length
  | none, none => return []

end Debugger
end DebugConsole
