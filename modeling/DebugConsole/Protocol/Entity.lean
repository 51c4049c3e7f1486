/-
# The things a debugging session is about

| record | |
| --- | --- |
| `Source` | a file, or a text that the adapter holds |
| `SourceBreakpoint`, `Descriptor` | a breakpoint as asked for and as the adapter took it |
| `StackFrame`, `ThreadInfo`, `Scope`, `Variable` | the state of a stopped program |
| `Capabilities` | what the adapter can do |
-/

import DebugConsole.Protocol.Record
import DebugConsole.Text.Path

namespace DebugConsole
namespace Protocol

/-- Where program text comes from. -/
structure Source where
  name : Option String := none
  path : Option String := none
  /-- Names a text that the adapter holds, where it is not zero. -/
  reference : Option Int64 := none
deriving Repr, Inhabited

namespace Source

/-- Reads the record. -/
def ofJson? : Json → Option Source := Reader.decode do
  let name ← Reader.optional "name" Json.str?
  let path ← Reader.optional "path" Json.str?
  let reference ← Reader.optional "sourceReference" Json.int64?
  return { name, path, reference }

/-- Writes the record. -/
def toJson (x : Source) : Json := Json.record
  [ ("name", x.name.map Json.str),
    ("path", x.path.map Json.str),
    ("sourceReference", x.reference.map ofInt64) ]

end Source

/-- A source known by its path alone. -/
def Source.ofPath (path : String) : Source := { path := some path }

/-- The name to show for a source: the file a path ends in, else the given name. -/
def Source.displayName? (source : Source) : Option String :=
  match source.path with
  | some path => some (Text.displayName path)
  | none => source.name

/-- A breakpoint to set at a line of a source. -/
structure SourceBreakpoint where
  line : UInt32
  column : Option UInt32 := none
  condition : Option String := none
deriving Repr, Inhabited

namespace SourceBreakpoint

/-- Reads the record. -/
def ofJson? : Json → Option SourceBreakpoint := Reader.decode do
  let line ← Reader.required "line" Json.uint32?
  let column ← Reader.optional "column" Json.uint32?
  let condition ← Reader.optional "condition" Json.str?
  return { line, column, condition }

/-- Writes the record. -/
def toJson (x : SourceBreakpoint) : Json := Json.record
  [ ("line", some (ofUInt32 x.line)),
    ("column", x.column.map ofUInt32),
    ("condition", x.condition.map Json.str) ]

end SourceBreakpoint

/-- What an adapter says about one breakpoint. -/
structure Descriptor where
  /-- The name under which later events speak of it. -/
  id : Option Int64 := none
  verified : Bool := false
  message : Option String := none
  source : Option Source := none
  line : Option UInt32 := none
deriving Repr, Inhabited

namespace Descriptor

/-- Reads the record. -/
def ofJson? : Json → Option Descriptor := Reader.decode do
  let id ← Reader.optional "id" Json.int64?
  let verified ← Reader.defaulted "verified" false Json.bool?
  let message ← Reader.optional "message" Json.str?
  let source ← Reader.optional "source" Source.ofJson?
  let line ← Reader.optional "line" Json.uint32?
  return { id, verified, message, source, line }

/-- Writes the record. -/
def toJson (x : Descriptor) : Json := Json.record
  [ ("id", x.id.map ofInt64),
    ("verified", some (Json.bool x.verified)),
    ("message", x.message.map Json.str),
    ("source", x.source.map Source.toJson),
    ("line", x.line.map ofUInt32) ]

end Descriptor

/-- One call on the stack of a thread. -/
structure StackFrame where
  id : Int64
  name : String
  source : Option Source := none
  line : UInt32
  column : UInt32 := 0
deriving Repr, Inhabited

namespace StackFrame

/-- Reads the record. -/
def ofJson? : Json → Option StackFrame := Reader.decode do
  let id ← Reader.required "id" Json.int64?
  let name ← Reader.required "name" Json.str?
  let source ← Reader.optional "source" Source.ofJson?
  let line ← Reader.required "line" Json.uint32?
  let column ← Reader.defaulted "column" 0 Json.uint32?
  return { id, name, source, line, column }

/-- Writes the record. -/
def toJson (x : StackFrame) : Json := Json.record
  [ ("id", some (ofInt64 x.id)),
    ("name", some (Json.str x.name)),
    ("source", x.source.map Source.toJson),
    ("line", some (ofUInt32 x.line)),
    ("column", some (ofUInt32 x.column)) ]

end StackFrame

/-- A thread as an adapter lists it. -/
structure ThreadInfo where
  id : Int64
  name : String
deriving Repr, Inhabited

namespace ThreadInfo

/-- Reads the record. -/
def ofJson? : Json → Option ThreadInfo := Reader.decode do
  let id ← Reader.required "id" Json.int64?
  let name ← Reader.required "name" Json.str?
  return { id, name }

/-- Writes the record. -/
def toJson (x : ThreadInfo) : Json := Json.record
  [ ("id", some (ofInt64 x.id)),
    ("name", some (Json.str x.name)) ]

end ThreadInfo

/-- A group of variables of a frame. -/
structure Scope where
  name : String
  variablesReference : Int64
  /-- Takes long to fetch. -/
  expensive : Bool := false
deriving Repr, Inhabited

namespace Scope

/-- Reads the record. -/
def ofJson? : Json → Option Scope := Reader.decode do
  let name ← Reader.required "name" Json.str?
  let variablesReference ← Reader.required "variablesReference" Json.int64?
  let expensive ← Reader.defaulted "expensive" false Json.bool?
  return { name, variablesReference, expensive }

/-- Writes the record. -/
def toJson (x : Scope) : Json := Json.record
  [ ("name", some (Json.str x.name)),
    ("variablesReference", some (ofInt64 x.variablesReference)),
    ("expensive", some (Json.bool x.expensive)) ]

end Scope

/-- A variable with its value as text. -/
structure Variable where
  name : String
  value : String
  typeName : Option String := none
  variablesReference : Int64 := 0
deriving Repr, Inhabited

namespace Variable

/-- Reads the record. -/
def ofJson? : Json → Option Variable := Reader.decode do
  let name ← Reader.required "name" Json.str?
  let value ← Reader.required "value" Json.str?
  let typeName ← Reader.optional "type" Json.str?
  let variablesReference ← Reader.defaulted "variablesReference" 0 Json.int64?
  return { name, value, typeName, variablesReference }

/-- Writes the record. -/
def toJson (x : Variable) : Json := Json.record
  [ ("name", some (Json.str x.name)),
    ("value", some (Json.str x.value)),
    ("type", x.typeName.map Json.str),
    ("variablesReference", some (ofInt64 x.variablesReference)) ]

end Variable

/-- What an adapter says it can do. -/
structure Capabilities where
  configurationDoneRequest : Bool := false
  functionBreakpoints : Bool := false
  conditionalBreakpoints : Bool := false
  evaluateForHovers : Bool := false
  restartRequest : Bool := false
  terminateRequest : Bool := false
deriving Repr, Inhabited

namespace Capabilities

/-- Reads the record. -/
def ofJson? : Json → Option Capabilities := Reader.decode do
  let configurationDoneRequest ←
    Reader.defaulted "supportsConfigurationDoneRequest" false Json.bool?
  let functionBreakpoints ← Reader.defaulted "supportsFunctionBreakpoints" false Json.bool?
  let conditionalBreakpoints ← Reader.defaulted "supportsConditionalBreakpoints" false Json.bool?
  let evaluateForHovers ← Reader.defaulted "supportsEvaluateForHovers" false Json.bool?
  let restartRequest ← Reader.defaulted "supportsRestartRequest" false Json.bool?
  let terminateRequest ← Reader.defaulted "supportsTerminateRequest" false Json.bool?
  return { configurationDoneRequest, functionBreakpoints, conditionalBreakpoints,
           evaluateForHovers, restartRequest, terminateRequest }

/-- Writes the record. -/
def toJson (x : Capabilities) : Json := Json.record
  [ ("supportsConfigurationDoneRequest", some (Json.bool x.configurationDoneRequest)),
    ("supportsFunctionBreakpoints", some (Json.bool x.functionBreakpoints)),
    ("supportsConditionalBreakpoints", some (Json.bool x.conditionalBreakpoints)),
    ("supportsEvaluateForHovers", some (Json.bool x.evaluateForHovers)),
    ("supportsRestartRequest", some (Json.bool x.restartRequest)),
    ("supportsTerminateRequest", some (Json.bool x.terminateRequest)) ]

end Capabilities

end Protocol
end DebugConsole
