/-
# A simulated adapter

An adapter for rehearsals that debugs no program at all.  Its program has one
thread; it hits the breakpoints in the order of their paths, within a path in the
order in which they were set, and is over when none is left.

| request | |
| --- | --- |
| `launch`, `attach` | answered, and the adapter is ready |
| `setBreakpoints` | lines below 10000 get an id and are verified, others are not |
| `configurationDone` | all verified lines lie ahead; a launched program starts to run |
| `continue` | runs to the next line ahead, or to the end |
| `next`, `stepIn` | the program stands one line further |
| `pause` | the program stops where it is |
| `stackTrace`, `scopes`, `variables`, `evaluate`, `source`, `threads` | fixed answers |
| `disconnect` | the last request |

A request that fails carries a message.  What is not a request is ignored.  The
messages that follow a request are numbered before its answer but sent after it.

`Simulation.read` takes messages from bytes and never complains: a block without a
length and a body that is no JSON are passed over.
-/

import DebugConsole.Json.Reader
import DebugConsole.Json.Writer
import DebugConsole.Wire.Frame

namespace DebugConsole

/-- A line of a source file. -/
abbrev Location := String × Nat

/-- The state of a simulated adapter. -/
structure Simulation where
  /-- The number of the last message. -/
  seq : Nat := 0
  attached : Bool := false
  disconnected : Bool := false
  /-- How many breakpoints got an id. -/
  breakpointCount : Nat := 0
  /-- The verified lines of each path as last set, in the order of the paths. -/
  breakpoints : List (String × List Nat) := []
  /-- Lines still ahead of the program. -/
  ahead : List Location := []
  /-- Where the program stands, if at a known line. -/
  location : Option Location := none
deriving Repr, Inhabited

namespace Simulation

/-- The first line that cannot be verified. -/
def unverifiableLine : Nat := 10000

/-- The number of the one source that the adapter holds itself. -/
def sourceReference : Int := 7

/-- The text of that source. -/
def sourceText : String := "int main() \x7b\n    return 0;\n\x7d\n"

/-- Sets the lines of a path. -/
def setLines (path : String) (lines : List Nat) : List (String × List Nat) →
    List (String × List Nat)
  | [] => [(path, lines)]
  | (p, ls) :: rest =>
    if path < p then (path, lines) :: (p, ls) :: rest
    else if path = p then (path, lines) :: rest
    else (p, ls) :: setLines path lines rest

/-- All verified lines, in the order in which the program meets them. -/
def hits (breakpoints : List (String × List Nat)) : List Location :=
  breakpoints.flatMap fun entry => entry.2.map (entry.1, ·)

/-- Answers that depend on the state, and the messages sent meanwhile. -/
abbrev Handler := StateM Simulation

/-- Takes the next message number. -/
def nextSeq : Handler Nat := do
  modify fun s => { s with seq := s.seq + 1 }
  return (← get).seq

/-- An event. -/
def event (name : String) (body : Json) : Handler Json := do
  return Json.object
    [("seq", .int (← nextSeq)), ("type", "event"), ("event", name), ("body", body)]

/-- The program has stopped. -/
def stopped (reason : String) : Handler Json :=
  event "stopped" (Json.object
    [("reason", reason), ("threadId", .int 1), ("allThreadsStopped", true)])

/-- Runs to the next line ahead, or to the end. -/
def resume : Handler (List Json) := do
  match (← get).ahead with
  | [] =>
    modify fun s => { s with location := none }
    let output ← event "output" (Json.object
      [("category", "stdout"), ("output", "mock program finished\n")])
    let exited ← event "exited" (Json.object [("exitCode", .int 0)])
    let terminated ← event "terminated" (.obj [])
    return [output, exited, terminated]
  | hit :: rest =>
    modify fun s => { s with ahead := rest, location := some hit }
    return [← stopped "breakpoint"]

/-- The frames of the program where it stands. -/
def frames (location : Option Location) : List Json :=
  let top := match location with
    | some (path, line) =>
      Json.object
        [("id", .int 1), ("name", "main"), ("source", Json.object [("path", path)]),
         ("line", .int line), ("column", .int 1)]
    | none =>
      Json.object
        [("id", .int 1), ("name", "main"),
         ("source", Json.object
           [("name", "main.c"), ("sourceReference", .int sourceReference)]),
         ("line", .int 2), ("column", .int 1)]
  [top, Json.object
    [("id", .int 2), ("name", "__libc_start_main"), ("line", .int 0), ("column", .int 0)]]

/-- Gives ids to the lines that can be verified: their descriptors and those lines. -/
def verify (path : String) : List Nat → Handler (List Json × List Nat)
  | [] => return ([], [])
  | line :: rest => do
    if unverifiableLine ≤ line then
      let (descriptors, verified) ← verify path rest
      return (Json.object [("verified", false), ("line", .int line)] :: descriptors, verified)
    else
      modify fun s => { s with breakpointCount := s.breakpointCount + 1 }
      let id := (← get).breakpointCount
      let (descriptors, verified) ← verify path rest
      return (Json.object
        [("id", .int id), ("verified", true), ("line", .int line),
         ("source", Json.object [("path", path)])] :: descriptors, line :: verified)

/-- A variable. -/
def variableRecord (name value type : String) : Json :=
  Json.object
    [("name", name), ("value", value), ("type", type), ("variablesReference", .int 0)]

/-- The variables of a scope. -/
def variablesOf (reference : Int) : List Json :=
  if reference = 1000 then
    [variableRecord "x" "42" "int", variableRecord "name" "\"hello\"" "const char*"]
  else if reference = 2000 then [variableRecord "counter" "7" "int"]
  else []

/-- What a request is answered with: whether it went well, the body, and the messages that
follow the answer. -/
structure Answer where
  success : Bool := true
  body : Json := .null
  followers : List Json := []

/-- The answer with a body. -/
def Answer.ofBody (body : Json) : Answer := { body }

/-- The answer to a request that failed for a reason. -/
def Answer.failure (id : Int) (reason : String) : Answer where
  success := false
  body := Json.object [("error", Json.object [("id", .int id), ("format", reason)])]

/-- The reason that the body of a failure gives. -/
def Answer.reason (answer : Answer) : String :=
  (((answer.body.get? "error").bind (·.get? "format")).bind Json.str?).getD ""

/-- The value of an expression. -/
def evaluate (expression : String) : Answer :=
  let value (result : String) : Answer :=
    .ofBody (Json.object [("result", result), ("type", "int"), ("variablesReference", .int 0)])
  match expression with
  | "x" => value "42"
  | "x + 1" => value "43"
  | other => Answer.failure 1 ("cannot evaluate '" ++ other ++ "'")

/-- A member of the arguments that is an unsigned number. -/
def unsigned? (value : Json) : Option Nat := value.uint64?.map UInt64.toNat

/-- The lines that a list of breakpoints asks for. -/
def requestedLines (arguments : Json) : List Nat :=
  (((arguments.get? "breakpoints").bind Json.arr?).getD []).filterMap fun breakpoint =>
    (breakpoint.get? "line").bind unsigned?

/-- A number in the arguments, zero if there is none. -/
def number (arguments : Json) (key : String) : Int :=
  (((arguments.get? key).bind Json.int64?).map Int64.toInt).getD 0

/-- The program stands one line further. -/
def advance (location : Location) : Location := (location.1, location.2 + 1)

/-- Does what a command asks for. -/
def perform (command : String) (arguments : Json) : Handler Answer := do
  match command with
  | "initialize" =>
    return .ofBody (Json.object
      [("supportsConfigurationDoneRequest", true), ("supportsEvaluateForHovers", true),
       ("supportsTerminateRequest", true)])
  | "launch" =>
    modify fun s => { s with attached := false }
    return { followers := [← event "initialized" .null] }
  | "attach" =>
    modify fun s => { s with attached := true }
    return { followers := [← event "initialized" .null] }
  | "setBreakpoints" =>
    let path := (((arguments.get? "source").bind (·.get? "path")).bind Json.str?).getD "unknown"
    let (descriptors, verified) ← verify path (requestedLines arguments)
    modify fun s => { s with breakpoints := setLines path verified s.breakpoints }
    return .ofBody (Json.object [("breakpoints", .arr descriptors)])
  | "setExceptionBreakpoints" => return .ofBody (.obj [])
  | "configurationDone" =>
    modify fun s => { s with ahead := hits s.breakpoints }
    if (← get).attached then return {}
    else return { followers := ← resume }
  | "threads" =>
    return .ofBody (Json.object
      [("threads", .arr [Json.object [("id", .int 1), ("name", "main")]])])
  | "stackTrace" =>
    let all := frames (← get).location
    let shown := match (arguments.get? "levels").bind unsigned? with
      | some levels => if levels = 0 then all else all.take levels
      | none => all
    return .ofBody (Json.object
      [("stackFrames", .arr shown), ("totalFrames", .int shown.length)])
  | "scopes" =>
    return .ofBody (Json.object
      [("scopes", .arr
        [ Json.object
            [("name", "Locals"), ("variablesReference", .int 1000), ("expensive", false)],
          Json.object
            [("name", "Globals"), ("variablesReference", .int 2000), ("expensive", true)] ])])
  | "variables" =>
    return .ofBody (Json.object
      [("variables", .arr (variablesOf (number arguments "variablesReference")))])
  | "evaluate" => return evaluate (((arguments.get? "expression").bind Json.str?).getD "")
  | "source" =>
    if number arguments "sourceReference" = sourceReference then
      return .ofBody (Json.object [("content", sourceText)])
    else return { success := false, body := .obj [] }
  | "continue" =>
    let continued ← event "continued" (Json.object
      [("threadId", .int 1), ("allThreadsContinued", true)])
    let rest ← resume
    return { body := Json.object [("allThreadsContinued", true)], followers := continued :: rest }
  | "next" | "stepIn" =>
    modify fun s => { s with location := s.location.map advance }
    return { followers := [← stopped "step"] }
  | "pause" => return { followers := [← stopped "pause"] }
  | "disconnect" =>
    modify fun s => { s with disconnected := true }
    return {}
  | other => return Answer.failure 2 ("Unknown command: " ++ other)

/-- Takes a message and answers it. -/
def respond (message : Json) : Handler (List Json) := do
  if (message.get? "type").bind Json.str? ≠ some "request" then return []
  let command := ((message.get? "command").bind Json.str?).getD ""
  let answer ← perform command ((message.get? "arguments").getD (.obj []))
  let response := Json.record
    [ ("seq", some (.int (← nextSeq))), ("type", some "response"),
      ("request_seq", some (.int (number message "seq"))),
      ("success", some answer.success), ("command", some command), ("body", some answer.body),
      ("message", if answer.success then none else some answer.reason) ]
  return response :: answer.followers

/-! ## Reading and writing -/

/-- A message as the adapter writes it: first the header block, then the text. -/
def send (message : Json) : List UInt8 :=
  let text := message.print
  let header := "Content-Length: " ++ toString (Utf8.size text) ++ "\r\n\r\n"
  Utf8.encode header ++ Utf8.encode text

/-- What a stream of requests holds next. -/
inductive Input where
  | message (value : Json) (rest : List UInt8)
  /-- A message cannot be read, and nothing behind it. -/
  | exhausted
  /-- The length of a body is no size of a piece of memory. -/
  | impossible
deriving Repr, Inhabited

/-- A body has to fit into the memory that can be addressed. -/
def maxBody : Nat := 0x7FFFFFFFFFFFFFFF

/-- The length after one more header line; a bad length counts as none. -/
def noteHeader (length? : Option Nat) (line : List Char) : Option Nat :=
  match line.span (· ≠ ':') with
  | (name, _ :: value) =>
    if (Text.trimChars name).map Char.toLower = Frame.lengthName then
      (Text.uint64? (String.ofList (Text.trimChars value))).map UInt64.toNat
    else length?
  | (_, []) => length?

/-- The value that a body holds. -/
def value? (bytes : List UInt8) : Option Json := (Utf8.decode bytes).toOption.bind Json.parse

/-- Does a line consist of blanks? -/
def isBlankLine (text : String) : Bool := (Text.trimChars text.toList).isEmpty

/-- How reading ends behind a last line that has no line feed. -/
def atEnd (length? : Option Nat) (line : List UInt8) : Input :=
  match Utf8.decode line with
  | .error _ => .exhausted
  | .ok text =>
    if !line.isEmpty && isBlankLine text && length?.any (maxBody < ·) then .impossible
    else .exhausted

/-- Reads on: `skip` bytes of a body that is passed over are left, `line` holds the bytes of the
current header line, last first, `length?` is the length that the lines before it gave. -/
def scan : Nat → List UInt8 → Option Nat → List UInt8 → Input
  | _, line, length?, [] => atEnd length? line.reverse
  | skip + 1, line, length?, _ :: rest => scan skip line length? rest
  | 0, line, length?, byte :: rest =>
    if byte = 0x0A then
      match Utf8.decode (byte :: line).reverse with
      | .error _ => .exhausted
      | .ok text =>
        if !isBlankLine text then scan 0 [] (noteHeader length? (Text.trimChars text.toList)) rest
        else
          match length? with
          | none => scan 0 [] none rest
          | some n =>
            if maxBody < n then .impossible
            else if rest.length < n then .exhausted
            else
              match value? (rest.take n) with
              | some value => .message value (rest.drop n)
              | none => scan n [] none rest
    else scan 0 (byte :: line) length? rest

/-- The next message in bytes after which nothing comes. -/
def read (bytes : List UInt8) : Input := scan 0 [] none bytes

/-- Answers the messages in these bytes, at most as many as `limit`: everything sent, and the exit
status. -/
def answerAll : Nat → List UInt8 → Simulation → List Json × Nat
  | 0, _, _ => ([], 0)
  | limit + 1, bytes, s =>
    match read bytes with
    | .exhausted => ([], 0)
    | .impossible => ([], 101)
    | .message value rest =>
      let (sent, s) := (respond value).run s
      if s.disconnected then (sent, 0)
      else
        let (more, status) := answerAll limit rest s
        (sent ++ more, status)

/-- A whole run of the adapter: everything it sends for these bytes, and its exit status. -/
def run (bytes : List UInt8) : List Json × Nat := answerAll (bytes.length + 1) bytes {}

end Simulation
end DebugConsole
