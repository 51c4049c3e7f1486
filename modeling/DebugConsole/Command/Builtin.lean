/-
# The commands of the debugger

| words | |
| --- | --- |
| `run` | ends the configuration |
| `continue`, `c`; `next`, `n`; `step`, `s`; `pause` | control of the focus thread |
| `restart` | starts the target again |
| `backtrace`, `bt`; `thread`, `threads`; `frame`, `f` | threads and their stacks |
| `variables`, `vars`; `print`, `p`; `list`, `l` | the selected frame |
| `breakpoint`, `b` | sets, lists, enables, disables and deletes breakpoints |
| `help` | lists the commands |

Arguments beyond those a command takes are ignored, except by `breakpoint`.
-/

import DebugConsole.Command.Table
import DebugConsole.Debugger.Execution
import DebugConsole.Debugger.Lifecycle
import DebugConsole.Text.Numeral

namespace DebugConsole

open Protocol

/-- What the user can set about the commands. -/
structure CommandOptions where
  /-- How many lines `list` shows. -/
  listLines : Nat := 10
  /-- How many frames `backtrace` asks for. -/
  backtraceLevels : Int64 := 100
deriving DecidableEq, Repr, Inhabited

namespace Builtin

/-- Where a frame stands: source and line. -/
def frameLocation (frame : StackFrame) : String :=
  ((frame.source.bind Source.displayName?).getD "?") ++ ":" ++ toString frame.line.toNat

/-- The type of a value, in brackets after a blank. -/
def typeSuffix : Option String → String
  | some typeName => " (" ++ typeName ++ ")"
  | none => ""

/-- The state of a breakpoint as one character. -/
def breakpointMark (b : Breakpoint) : String :=
  if !b.enabled then "○" else if b.verified then "✓" else "?"

/-- The place of a breakpoint as the user types it. -/
def breakpointLocation (b : Breakpoint) : String := b.path ++ ":" ++ toString b.line.toNat

/-- A breakpoint as a line of the list. -/
def breakpointRow (b : Breakpoint) : String :=
  "  " ++ breakpointMark b ++ " " ++ toString b.index ++ " " ++ breakpointLocation b ++
    typeSuffix b.message

/-- A frame as a line of the backtrace. -/
def frameRow (selected place : Nat) (frame : StackFrame) : String :=
  (if place = selected then "*" else " ") ++ " #" ++ toString place ++ " " ++ frame.name ++
    " at " ++ frameLocation frame

/-- A thread as a line of the list. -/
def threadRow (focusId : Option Int64) (thread : Thread) : String :=
  (if some thread.id = focusId then "*" else " ") ++ " " ++ toString thread.id.toInt ++ " - " ++
    thread.name ++ " (" ++ (if thread.running then "running" else "stopped") ++ ")"

/-- A line of source text with its number; the current line is marked. -/
def sourceRow (current number : Nat) (text : String) : String :=
  (if number = current then "->" else "  ") ++ " " ++ Text.padLeft 4 (toString number) ++ " | " ++
    text

/-- Consecutive lines of source text, numbered from `start`. -/
def sourceRows (current start : Nat) : List String → List String
  | [] => []
  | text :: rest => sourceRow current start text :: sourceRows current (start + 1) rest

/-- What there is to see of the variables of a scope. -/
def scopeRows (scope : ScopeVariables) : List String :=
  (scope.scopeName ++ ":") ::
    match scope.content with
    | some [] => ["  (none)"]
    | some content =>
      content.map fun v => "  " ++ v.name ++ " = " ++ v.value ++ typeSuffix v.typeName
    | none =>
      if scope.expensive then
        ["  (expensive; use 'variables " ++ scope.scopeName ++ "' to fetch)"]
      else []

/-- The first line that `list` shows unless the user gives one. -/
def listStart (current count : Nat) : Nat := max (current - count / 2) 1

variable {σ : Type}

/-- Writes lines. -/
def sayAll (lines : List String) : Action σ Unit :=
  lines.forM fun line => Action.react (Reaction.say line)

/-- An argument that has to be there and to be readable. -/
def argument {α : Type} (usage : String) (read : String → Option α) (args : List String) :
    Action σ α :=
  match args.head?.bind read with
  | some value => return value
  | none => throw (.usage usage)

variable [Environment σ]

/-- Starts the program. -/
def run : Command σ where
  name := "run"
  help := "Start the program"
  run _ := Debugger.run

/-- Lets the focus thread run. -/
def continueRunning : Command σ where
  name := "continue"
  aliases := ["c"]
  help := "Continue the focus thread"
  run _ := Debugger.continueRunning

/-- Steps over the current line. -/
def next : Command σ where
  name := "next"
  aliases := ["n"]
  help := "Step over the current line"
  run _ := Debugger.stepOver

/-- Steps into the current line. -/
def step : Command σ where
  name := "step"
  aliases := ["s"]
  help := "Step into the current line"
  run _ := Debugger.stepIn

/-- Stops the running program. -/
def pause : Command σ where
  name := "pause"
  help := "Break into the running program"
  run _ := Debugger.pause

/-- Starts the target again. -/
def restart : Command σ where
  name := "restart"
  help := "Restart the program, keeping breakpoints"
  run _ := Debugger.relaunch

/-- Shows the stack of the focus thread, the selected frame marked. -/
def backtrace (levels : Int64) : Command σ where
  name := "backtrace"
  aliases := ["bt"]
  help := "Show the focus thread's stack"
  run _ := do
    let thread ← Debugger.activeThread
    let frames ← Debugger.stackTrace thread.id levels
    if frames.isEmpty then sayAll ["No stack frames"]
    else sayAll (frames.mapIdx (frameRow (thread.selectedFrame.getD 0).toNat))

/-- Lists the threads, or gives one the focus. -/
def thread : Command σ where
  name := "thread"
  aliases := ["threads"]
  help := "List threads, or 'thread <id>' to switch"
  run args := do
    if !args.isEmpty then
      let id ← argument "Usage: thread <id>" Text.int64? args
      Debugger.focusThread id
      sayAll ["Switched to thread " ++ toString id.toInt]
    else
      let threads ← Debugger.knownThreads
      if threads.isEmpty then sayAll ["No threads"]
      else sayAll (threads.list.map (threadRow threads.focusId))

/-- Shows the selected frame, or selects one. -/
def frame : Command σ where
  name := "frame"
  aliases := ["f"]
  help := "Show the selected frame, or 'frame <n>' to select one"
  run args := do
    if !args.isEmpty then
      let place ← argument "Usage: frame <index>" Text.uint64? args
      Debugger.selectFrame (← Debugger.activeThread).id place
    let place := (← Debugger.activeThread).selectedFrame.getD 0
    match ← Debugger.currentFrame with
    | some frame =>
      sayAll ["#" ++ toString place.toNat ++ " " ++ frame.name ++ " at " ++ frameLocation frame]
    | none => sayAll ["No stack frames"]

/-- Shows the variables of the selected frame, of every cheap scope or of the one named by the
arguments with a blank between them. -/
def showVariables : Command σ where
  name := "variables"
  aliases := ["vars"]
  help := "Show variables of the selected frame, optionally of one scope"
  run args := do
    let scopes ← Debugger.scopeContents
      (if args.isEmpty then none else some (String.intercalate " " args))
    sayAll (scopes.flatMap scopeRows)

/-- Evaluates the arguments, with a blank between them. -/
def print : Command σ where
  name := "print"
  aliases := ["p"]
  help := "Evaluate an expression in the selected frame"
  run args := do
    if args.isEmpty then throw (.usage "Usage: print <expression>")
    let expression := String.intercalate " " args
    let value ← Debugger.evaluate expression
    sayAll [expression ++ " = " ++ value.result ++ typeSuffix value.typeName]

/-- Shows source text around the selected frame, or from a line on. -/
def list (count : Nat) : Command σ where
  name := "list"
  aliases := ["l"]
  help := "Show source around the selected frame, or from 'list <line>'"
  run args := do
    let some frame ← Debugger.currentFrame
      | throw (.usage "No stack frame to list source for")
    let some source := frame.source
      | throw (.usage "The selected frame has no source")
    let current := frame.line.toNat
    let start ←
      if args.isEmpty then pure (listStart current count)
      else
        let given ← argument "Usage: list [line]" Text.uint64? args
        pure (max given.toNat 1)
    let lines ← Debugger.sourceLines source start count
    if lines.isEmpty then sayAll ["No source lines in range"]
    else sayAll (sourceRows current start lines)

/-- How the command for breakpoints is used. -/
def breakpointUsage : String :=
  "Usage: breakpoint <path>:<line> | list | enable <n> | disable <n> | delete <n>"

/-- The number of a breakpoint as an argument. -/
def breakpointIndex (args : List String) : Action σ Nat := do
  return (← argument breakpointUsage Text.uint32? args).toNat

/-- A path and a line, cut at the last colon. -/
def location? (text : String) : Option (String × UInt32) := do
  let (path, line) ← Text.splitLast? ':' text.toList
  let line ← Text.uint32? (String.ofList line)
  return (String.ofList path, line)

/-- Sets a breakpoint at the canonical form of a path, or at the path itself where it has none. -/
def setBreakpointAt (path : String) (line : UInt32) : Action σ Unit := do
  let path ← Action.canonical path
  let (index, message) ← Debugger.setBreakpoint path line
  sayAll (["Breakpoint " ++ toString index ++ " set at " ++ path ++ ":" ++ toString line.toNat] ++
    message.toList)

/-- Sets, lists, enables, disables and deletes breakpoints. -/
def breakpoint : Command σ where
  name := "breakpoint"
  aliases := ["b"]
  help := "Set <path>:<line>, or list/enable/disable/delete breakpoints"
  run args :=
    let showList : Action σ Unit := do
      let breakpoints := (← get).breakpoints
      if breakpoints.isEmpty then sayAll ["No breakpoints set"]
      else sayAll ("Breakpoints:" :: breakpoints.list.map breakpointRow)
    match args with
    | [] => showList
    | ["list"] => showList
    | "enable" :: rest => do
      let index ← breakpointIndex rest
      Debugger.setEnabled index true
      sayAll ["Breakpoint " ++ toString index ++ " enabled"]
    | "disable" :: rest => do
      let index ← breakpointIndex rest
      Debugger.setEnabled index false
      sayAll ["Breakpoint " ++ toString index ++ " disabled"]
    | "delete" :: rest => do
      let index ← breakpointIndex rest
      Debugger.deleteBreakpoint index
      sayAll ["Breakpoint " ++ toString index ++ " deleted"]
    | [text] =>
      match location? text with
      | some (path, line) => setBreakpointAt path line
      | none => throw (.usage breakpointUsage)
    | _ => throw (.usage breakpointUsage)

/-- What `help` says about itself. -/
def helpText : String := "Show this list"

/-- The rows of `help`: the words of each command in a column as wide as the longest, then what
it does. -/
def helpRows (commands : List (Command σ)) : List String :=
  let entries := commands.map (fun c => (String.intercalate ", " (c.name :: c.aliases), c.help)) ++
    [("help", helpText)]
  let width := (entries.map (·.1.utf8ByteSize)).foldl max 0
  entries.map fun entry => "  " ++ Text.padRight width entry.1 ++ "  " ++ entry.2

/-- Lists commands, and itself last. -/
def help (commands : List (Command σ)) : Command σ where
  name := "help"
  help := helpText
  run _ := sayAll (helpRows commands)

/-- The commands before `help`. -/
def all (options : CommandOptions) : List (Command σ) :=
  [run, continueRunning, next, step, pause, restart, backtrace options.backtraceLevels, thread,
    frame, showVariables, print, list options.listLines, breakpoint]

end Builtin

namespace CommandTable

/-- Every command of the debugger, `help` included. -/
def builtin {σ : Type} [Environment σ] (options : CommandOptions) : CommandTable σ :=
  ofList (Builtin.all options ++ [Builtin.help (Builtin.all options)])

end CommandTable
end DebugConsole
