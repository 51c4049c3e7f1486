/-
# Arguments of requests

One record per request that takes arguments.  Launch and attach arguments keep
the members they do not know and write them back; for that reason they are read
from objects only.
-/

import DebugConsole.Protocol.Entity

namespace DebugConsole
namespace Protocol

/-- The members of an object whose keys are not among the known ones. -/
def extraMembers (known : List String) : Json → Json.Fields
  | .obj fields => fields.filter fun field => !known.contains field.1
  | _ => []

/-- Who is asking, and how lines, columns and paths are meant. -/
structure InitializeArguments where
  clientId : Option String := none
  clientName : Option String := none
  adapterId : String
  linesStartAt1 : Bool := true
  columnsStartAt1 : Bool := true
  pathFormat : Option String := none
  supportsVariableType : Bool := false
deriving Repr, Inhabited

namespace InitializeArguments

/-- Reads the record. -/
def ofJson? : Json → Option InitializeArguments := Reader.decode do
  let clientId ← Reader.optional "clientId" Json.str?
  let clientName ← Reader.optional "clientName" Json.str?
  let adapterId ← Reader.required "adapterID" Json.str?
  let linesStartAt1 ← Reader.defaulted "linesStartAt1" true Json.bool?
  let columnsStartAt1 ← Reader.defaulted "columnsStartAt1" true Json.bool?
  let pathFormat ← Reader.optional "pathFormat" Json.str?
  let supportsVariableType ← Reader.defaulted "supportsVariableType" false Json.bool?
  return { clientId, clientName, adapterId, linesStartAt1, columnsStartAt1, pathFormat,
           supportsVariableType }

/-- Writes the record. -/
def toJson (x : InitializeArguments) : Json := Json.record
  [ ("clientId", x.clientId.map Json.str),
    ("clientName", x.clientName.map Json.str),
    ("adapterID", some (Json.str x.adapterId)),
    ("linesStartAt1", some (Json.bool x.linesStartAt1)),
    ("columnsStartAt1", some (Json.bool x.columnsStartAt1)),
    ("pathFormat", x.pathFormat.map Json.str),
    ("supportsVariableType", some (Json.bool x.supportsVariableType)) ]

end InitializeArguments

/-- What this console says about itself to the adapter with an id. -/
def InitializeArguments.ofAdapter (adapterId : String) : InitializeArguments where
  clientId := some "dapshell"
  clientName := some "dapshell"
  adapterId := adapterId
  pathFormat := some "path"
  supportsVariableType := true

/-- What to launch; members that only the adapter knows are in `extra`. -/
structure LaunchArguments where
  program : String
  args : List String := []
  cwd : Option String := none
  env : Option (List (String × String)) := none
  stopOnEntry : Bool := false
  extra : Json.Fields := []
deriving Repr, Inhabited

namespace LaunchArguments

/-- The members that are not `extra`. -/
def known : List String := ["program", "args", "cwd", "env", "stopOnEntry"]

/-- Reads the record, from an object only. -/
def ofJson? (value : Json) : Option LaunchArguments :=
  Reader.decodeNamed (do
    let program ← Reader.required "program" Json.str?
    let args ← Reader.defaulted "args" [] (decodeList Json.str?)
    let cwd ← Reader.optional "cwd" Json.str?
    let env ← Reader.optional "env" decodeTexts
    let stopOnEntry ← Reader.defaulted "stopOnEntry" false Json.bool?
    return { program, args, cwd, env, stopOnEntry, extra := extraMembers known value }) value

/-- Writes the record; an empty argument list is left out. -/
def toJson (x : LaunchArguments) : Json := Json.record
  ([ ("program", some (Json.str x.program)),
     ("args", if x.args.isEmpty then none else some (encodeList Json.str x.args)),
     ("cwd", x.cwd.map Json.str),
     ("env", x.env.map encodeTexts),
     ("stopOnEntry", some (Json.bool x.stopOnEntry)) ] ++
    x.extra.map fun member => (member.1, some member.2))

end LaunchArguments

/-- What to attach to; members that only the adapter knows are in `extra`. -/
structure AttachArguments where
  pid : Option UInt32 := none
  extra : Json.Fields := []
deriving Repr, Inhabited

namespace AttachArguments

/-- The members that are not `extra`. -/
def known : List String := ["pid"]

/-- Reads the record, from an object only. -/
def ofJson? (value : Json) : Option AttachArguments :=
  Reader.decodeNamed (do
    let pid ← Reader.optional "pid" Json.uint32?
    return { pid, extra := extraMembers known value }) value

/-- Writes the record. -/
def toJson (x : AttachArguments) : Json := Json.record
  (("pid", x.pid.map ofUInt32) :: x.extra.map fun member => (member.1, some member.2))

end AttachArguments

/-- All breakpoints of one source; an empty list clears it. -/
structure SetBreakpointsArguments where
  source : Source
  breakpoints : List SourceBreakpoint := []
deriving Repr, Inhabited

namespace SetBreakpointsArguments

/-- Reads the record. -/
def ofJson? : Json → Option SetBreakpointsArguments := Reader.decode do
  let source ← Reader.required "source" Source.ofJson?
  let breakpoints ← Reader.defaulted "breakpoints" [] (decodeList SourceBreakpoint.ofJson?)
  return { source, breakpoints }

/-- Writes the record. -/
def toJson (x : SetBreakpointsArguments) : Json := Json.record
  [ ("source", some (Source.toJson x.source)),
    ("breakpoints", some ((encodeList SourceBreakpoint.toJson) x.breakpoints)) ]

end SetBreakpointsArguments

/-- The exceptions to stop at. -/
structure SetExceptionBreakpointsArguments where
  filters : List String
deriving Repr, Inhabited

namespace SetExceptionBreakpointsArguments

/-- Reads the record. -/
def ofJson? : Json → Option SetExceptionBreakpointsArguments := Reader.decode do
  let filters ← Reader.required "filters" (decodeList Json.str?)
  return { filters }

/-- Writes the record. -/
def toJson (x : SetExceptionBreakpointsArguments) : Json := Json.record
  [ ("filters", some ((encodeList Json.str) x.filters)) ]

end SetExceptionBreakpointsArguments

/-- The thread to let run. -/
structure ContinueArguments where
  threadId : Int64
deriving Repr, Inhabited

namespace ContinueArguments

/-- Reads the record. -/
def ofJson? : Json → Option ContinueArguments := Reader.decode do
  let threadId ← Reader.required "threadId" Json.int64?
  return { threadId }

/-- Writes the record. -/
def toJson (x : ContinueArguments) : Json := Json.record
  [ ("threadId", some (ofInt64 x.threadId)) ]

end ContinueArguments

/-- The thread to step. -/
structure StepArguments where
  threadId : Int64
deriving Repr, Inhabited

namespace StepArguments

/-- Reads the record. -/
def ofJson? : Json → Option StepArguments := Reader.decode do
  let threadId ← Reader.required "threadId" Json.int64?
  return { threadId }

/-- Writes the record. -/
def toJson (x : StepArguments) : Json := Json.record
  [ ("threadId", some (ofInt64 x.threadId)) ]

end StepArguments

/-- The thread to stop. -/
structure PauseArguments where
  threadId : Int64
deriving Repr, Inhabited

namespace PauseArguments

/-- Reads the record. -/
def ofJson? : Json → Option PauseArguments := Reader.decode do
  let threadId ← Reader.required "threadId" Json.int64?
  return { threadId }

/-- Writes the record. -/
def toJson (x : PauseArguments) : Json := Json.record
  [ ("threadId", some (ofInt64 x.threadId)) ]

end PauseArguments

/-- Which part of the stack of which thread. -/
structure StackTraceArguments where
  threadId : Int64
  startFrame : Option Int64 := none
  /-- How many frames; zero asks for all. -/
  levels : Option Int64 := none
deriving Repr, Inhabited

namespace StackTraceArguments

/-- Reads the record. -/
def ofJson? : Json → Option StackTraceArguments := Reader.decode do
  let threadId ← Reader.required "threadId" Json.int64?
  let startFrame ← Reader.optional "startFrame" Json.int64?
  let levels ← Reader.optional "levels" Json.int64?
  return { threadId, startFrame, levels }

/-- Writes the record. -/
def toJson (x : StackTraceArguments) : Json := Json.record
  [ ("threadId", some (ofInt64 x.threadId)),
    ("startFrame", x.startFrame.map ofInt64),
    ("levels", x.levels.map ofInt64) ]

end StackTraceArguments

/-- The frame to look into. -/
structure ScopesArguments where
  frameId : Int64
deriving Repr, Inhabited

namespace ScopesArguments

/-- Reads the record. -/
def ofJson? : Json → Option ScopesArguments := Reader.decode do
  let frameId ← Reader.required "frameId" Json.int64?
  return { frameId }

/-- Writes the record. -/
def toJson (x : ScopesArguments) : Json := Json.record
  [ ("frameId", some (ofInt64 x.frameId)) ]

end ScopesArguments

/-- The group of variables to fetch. -/
structure VariablesArguments where
  variablesReference : Int64
deriving Repr, Inhabited

namespace VariablesArguments

/-- Reads the record. -/
def ofJson? : Json → Option VariablesArguments := Reader.decode do
  let variablesReference ← Reader.required "variablesReference" Json.int64?
  return { variablesReference }

/-- Writes the record. -/
def toJson (x : VariablesArguments) : Json := Json.record
  [ ("variablesReference", some (ofInt64 x.variablesReference)) ]

end VariablesArguments

/-- An expression and the frame to evaluate it in. -/
structure EvaluateArguments where
  expression : String
  frameId : Option Int64 := none
  context : Option String := none
deriving Repr, Inhabited

namespace EvaluateArguments

/-- Reads the record. -/
def ofJson? : Json → Option EvaluateArguments := Reader.decode do
  let expression ← Reader.required "expression" Json.str?
  let frameId ← Reader.optional "frameId" Json.int64?
  let context ← Reader.optional "context" Json.str?
  return { expression, frameId, context }

/-- Writes the record. -/
def toJson (x : EvaluateArguments) : Json := Json.record
  [ ("expression", some (Json.str x.expression)),
    ("frameId", x.frameId.map ofInt64),
    ("context", x.context.map Json.str) ]

end EvaluateArguments

/-- The text to fetch. -/
structure SourceArguments where
  sourceReference : Int64
deriving Repr, Inhabited

namespace SourceArguments

/-- Reads the record. -/
def ofJson? : Json → Option SourceArguments := Reader.decode do
  let sourceReference ← Reader.required "sourceReference" Json.int64?
  return { sourceReference }

/-- Writes the record. -/
def toJson (x : SourceArguments) : Json := Json.record
  [ ("sourceReference", some (ofInt64 x.sourceReference)) ]

end SourceArguments

/-- How to part. -/
structure DisconnectArguments where
  restart : Bool := false
  terminateDebuggee : Option Bool := none
deriving Repr, Inhabited

namespace DisconnectArguments

/-- Reads the record. -/
def ofJson? : Json → Option DisconnectArguments := Reader.decode do
  let restart ← Reader.defaulted "restart" false Json.bool?
  let terminateDebuggee ← Reader.optional "terminateDebuggee" Json.bool?
  return { restart, terminateDebuggee }

/-- Writes the record. -/
def toJson (x : DisconnectArguments) : Json := Json.record
  [ ("restart", some (Json.bool x.restart)),
    ("terminateDebuggee", x.terminateDebuggee.map Json.bool) ]

end DisconnectArguments

end Protocol
end DebugConsole
