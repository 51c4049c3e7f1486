/-
# A scripted adapter

A script lists, for each command, how the adapter answers its first, second, …
request; the answers of a command that has none left are the usual ones.  It lets
a session be rehearsed with any behaviour of the adapter.

| usual answer to | |
| --- | --- |
| a command in `usual` | the body given there |
| `initialize` | the end of the configuration is known |
| `setBreakpoints` | every breakpoint verified, ids counting from 1 |
| `threads`, `scopes`, `variables` | one thread, two scopes, one variable |
| `evaluate`, `continue` | a number, all threads |
| `stackTrace` | the frames of the script, as many as asked for |
| anything else | no body |

A start request may be held: its answer is given when it is released.
-/

import DebugConsole.Debugger.Environment
import DebugConsole.FileTree

namespace DebugConsole

open Protocol

/-- How a scripted request fails. -/
inductive Refusal where
  | refused (reason : String)
  | crashed
  | timeout
  | notStarted
  | garbled
deriving DecidableEq, Repr, Inhabited

namespace Refusal

/-- The error of a command that fails in this way. -/
def error (command : String) : Refusal → Error
  | .refused reason => .requestFailed command reason
  | .crashed => .adapterCrashed
  | .timeout => .timeout command 30
  | .notStarted => .adapterStartFailed "scripted"
  | .garbled => .protocol (.other "scripted")

end Refusal

/-- What a scripted request is answered with. -/
inductive ScriptedAnswer where
  | refusal (refusal : Refusal)
  | body (body : Json)
  | usual
deriving Inhabited

/-- One entry of a script. -/
structure ScriptEntry where
  /-- Events sent before the answer. -/
  emits : List Event := []
  /-- A start request is answered only when released. -/
  hold : Bool := false
  answer : ScriptedAnswer := .usual
deriving Inhabited

/-- An adapter that plays a script, and the files around it. -/
structure Script where
  /-- What is left of the script, by command. -/
  entries : List (String × List ScriptEntry) := []
  usual : List (String × Json) := []
  frames : List Json := []
  /-- How many breakpoints got an id. -/
  breakpointCount : Nat := 0
  /-- The answer to a start request that waits to be released. -/
  held : Option (Except Error Unit) := none
  files : FileTree := {}
deriving Inhabited

namespace Script

/-- The frames of a program that has stopped in `main`. -/
def usualFrames : List Json :=
  [ Json.object
      [("id", .int 11), ("name", "main"),
       ("source", Json.object [("name", "main.c"), ("sourceReference", .int 0)]),
       ("line", .int 2), ("column", .int 1)],
    Json.object [("id", .int 12), ("name", "start"), ("line", .int 0), ("column", .int 0)] ]

/-- Takes the next entry of a command. -/
def takeEntry (command : String) : List (String × List ScriptEntry) →
    Option ScriptEntry × List (String × List ScriptEntry)
  | [] => (none, [])
  | (c, queue) :: rest =>
    if c = command then
      match queue with
      | entry :: queue => (some entry, (c, queue) :: rest)
      | [] => (none, (c, []) :: rest)
    else
      let (entry, rest) := takeEntry command rest
      (entry, (c, queue) :: rest)

/-- Descriptors with the next ids for breakpoints. -/
def verifyAll (count : Nat) : List Json → List Json
  | [] => []
  | breakpoint :: rest =>
    Json.object
        [("id", .int (count + 1)), ("verified", true),
         ("line", Json.ofOption (breakpoint.get? "line"))] ::
      verifyAll (count + 1) rest

/-- A member of the arguments. -/
def argument? (arguments : Option Json) (key : String) : Option Json :=
  arguments.bind (·.get? key)

/-- The body of the usual answer. -/
def usualBody (script : Script) (command : String) (arguments : Option Json) : Json × Script :=
  match script.usual.find? (·.1 = command) with
  | some (_, body) => (body, script)
  | none =>
    match command with
    | "initialize" => (Json.object [("supportsConfigurationDoneRequest", true)], script)
    | "setBreakpoints" =>
      let asked := ((argument? arguments "breakpoints").bind Json.arr?).getD []
      (Json.object [("breakpoints", .arr (verifyAll script.breakpointCount asked))],
        { script with breakpointCount := script.breakpointCount + asked.length })
    | "threads" =>
      (Json.object [("threads", .arr [Json.object [("id", .int 1), ("name", "main")]])], script)
    | "stackTrace" =>
      let frames := match (argument? arguments "levels").bind Json.int? with
        | some levels => if 0 ≤ levels then script.frames.take levels.toNat else script.frames
        | none => script.frames
      (Json.object [("stackFrames", .arr frames)], script)
    | "scopes" =>
      (Json.object [("scopes", .arr
        [ Json.object
            [("name", "Locals"), ("variablesReference", .int 100), ("expensive", false)],
          Json.object
            [("name", "Globals"), ("variablesReference", .int 200), ("expensive", true)] ])],
        script)
    | "variables" =>
      let value :=
        if (argument? arguments "variablesReference").bind Json.int? = some 100 then
          Json.object
            [("name", "x"), ("value", "1"), ("type", "int"), ("variablesReference", .int 0)]
        else Json.object [("name", "g"), ("value", "2"), ("variablesReference", .int 0)]
      (Json.object [("variables", .arr [value])], script)
    | "evaluate" =>
      (Json.object [("result", "42"), ("type", "int"), ("variablesReference", .int 0)], script)
    | "continue" => (Json.object [("allThreadsContinued", true)], script)
    | _ => (.null, script)

/-- Plays the next entry of a command. -/
def play (script : Script) (command : String) (arguments : Option Json) :
    ScriptEntry × Except Error Json × Script :=
  let (entry, entries) := takeEntry command script.entries
  let script := { script with entries }
  let entry := entry.getD {}
  match entry.answer with
  | .refusal refusal => (entry, .error (refusal.error command), script)
  | .body body => (entry, .ok body, script)
  | .usual =>
    let (body, script) := script.usualBody command arguments
    (entry, .ok body, script)

/-- Gives out the held answer. -/
def release (script : Script) : Option (Except Error Unit) × Script :=
  (script.held, { script with held := none })

instance : Environment Script where
  connect _ script :=
    let (entry, entries) := takeEntry "connect" script.entries
    let script := { script with entries }
    match (entry.getD {}).answer with
    | .refusal refusal => (.error (refusal.error "connect"), script)
    | _ => (.ok (), script)
  request request script :=
    let (entry, answer, script) := script.play request.command request.arguments
    ({ answer, arrivals := { events := entry.emits } }, script)
  start request script :=
    let (entry, answer, script) := script.play request.command request.arguments
    let result := answer.map fun _ => ()
    if entry.hold then ({ events := entry.emits }, { script with held := some result })
    else ({ events := entry.emits, started := some result }, script)
  readFile path script := script.files.readText path
  canonical? path script := script.files.canonical? path

end Script
end DebugConsole
