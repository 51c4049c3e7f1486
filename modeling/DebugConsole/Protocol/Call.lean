/-
# Calls

A call is a request together with the way to read its answer.  An answer without
a body counts as one with an empty body; a body of another form than the call
expects is a breach of protocol.

| call | arguments | answer |
| --- | --- | --- |
| `introduce` | yes | `Capabilities` |
| `launch`, `attach`, `disconnect` | yes | ignored |
| `setExceptionBreakpoints`, `next`, `stepIn`, `pause` | yes | ignored |
| `configurationDone` | no | ignored |
| `setBreakpoints`, `stackTrace`, `scopes`, `scopeVariables` | yes | a list |
| `threads` | no | a list |
| `resume`, `evaluate` | yes | a record |
| `source` | yes | a text |
-/

import DebugConsole.Error
import DebugConsole.Protocol.Arguments
import DebugConsole.Protocol.Body

namespace DebugConsole
namespace Protocol

/-- A request whose answer is read as an `α`. -/
structure Call (α : Type) where
  command : String
  arguments : Option Json
  /-- Reads the body of an answer. -/
  read : Json → Option α

namespace Call

/-- The body of an answer; an absent one counts as empty. -/
def presentBody : Json → Json
  | .null => .obj []
  | body => body

/-- What an answer to a call means. -/
def result {α : Type} (call : Call α) : Except Error Json → Except Error α
  | .error e => .error e
  | .ok body =>
    match call.read body with
    | some value => .ok value
    | none => .error (.protocol (.malformedResponse call.command))

/-- A call whose answer has no content. -/
def acknowledged (command : String) (arguments : Option Json) : Call Unit :=
  ⟨command, arguments, fun _ => some ()⟩

/-- A call whose answer has a body. -/
def answered {α : Type} (command : String) (arguments : Option Json) (read : Json → Option α) :
    Call α :=
  ⟨command, arguments, fun body => read (presentBody body)⟩

/-- Introduces the console and asks what the adapter can do. -/
def introduce (args : InitializeArguments) : Call Capabilities :=
  answered "initialize" (some args.toJson) Capabilities.ofJson?

/-- Starts a program. -/
def launch (args : LaunchArguments) : Call Unit := acknowledged "launch" (some args.toJson)

/-- Takes hold of a running program. -/
def attach (args : AttachArguments) : Call Unit := acknowledged "attach" (some args.toJson)

/-- Parts from the adapter. -/
def disconnect (args : DisconnectArguments) : Call Unit :=
  acknowledged "disconnect" (some args.toJson)

/-- Replaces the breakpoints of a source. -/
def setBreakpoints (args : SetBreakpointsArguments) : Call (List Descriptor) :=
  answered "setBreakpoints" (some args.toJson) fun body =>
    (SetBreakpointsBody.ofJson? body).map (·.breakpoints)

/-- Chooses the exceptions to stop at. -/
def setExceptionBreakpoints (args : SetExceptionBreakpointsArguments) : Call Unit :=
  acknowledged "setExceptionBreakpoints" (some args.toJson)

/-- Ends the configuration. -/
def configurationDone : Call Unit := acknowledged "configurationDone" none

/-- Asks for frames of a thread. -/
def stackTrace (args : StackTraceArguments) : Call (List StackFrame) :=
  answered "stackTrace" (some args.toJson) fun body =>
    (StackTraceBody.ofJson? body).map (·.stackFrames)

/-- Asks for the scopes of a frame. -/
def scopes (args : ScopesArguments) : Call (List Scope) :=
  answered "scopes" (some args.toJson) fun body => (ScopesBody.ofJson? body).map (·.scopes)

/-- Asks for the variables of a scope. -/
def scopeVariables (args : VariablesArguments) : Call (List Variable) :=
  answered "variables" (some args.toJson) fun body =>
    (VariablesBody.ofJson? body).map (·.listed)

/-- Lets a thread run. -/
def resume (args : ContinueArguments) : Call ContinueBody :=
  answered "continue" (some args.toJson) ContinueBody.ofJson?

/-- Steps a thread over a line. -/
def next (args : StepArguments) : Call Unit := acknowledged "next" (some args.toJson)

/-- Steps a thread into a line. -/
def stepIn (args : StepArguments) : Call Unit := acknowledged "stepIn" (some args.toJson)

/-- Stops a thread. -/
def pause (args : PauseArguments) : Call Unit := acknowledged "pause" (some args.toJson)

/-- Evaluates an expression. -/
def evaluate (args : EvaluateArguments) : Call EvaluateBody :=
  answered "evaluate" (some args.toJson) EvaluateBody.ofJson?

/-- Asks for the threads of the program. -/
def threads : Call (List ThreadInfo) :=
  answered "threads" none fun body => (ThreadsBody.ofJson? body).map (·.threads)

/-- Asks for a text that the adapter holds. -/
def source (args : SourceArguments) : Call String :=
  answered "source" (some args.toJson) fun body => (SourceBody.ofJson? body).map (·.content)

end Call
end Protocol
end DebugConsole
