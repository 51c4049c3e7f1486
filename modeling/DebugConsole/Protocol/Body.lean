/-
# Bodies of answers and events

One record per answer that the console reads, then one per event with a body.
-/

import DebugConsole.Protocol.Entity

namespace DebugConsole
namespace Protocol

/-- One descriptor per breakpoint asked for, in the order of the request. -/
structure SetBreakpointsBody where
  breakpoints : List Descriptor
deriving Repr, Inhabited

namespace SetBreakpointsBody

/-- Reads the record. -/
def ofJson? : Json → Option SetBreakpointsBody := Reader.decode do
  let breakpoints ← Reader.required "breakpoints" (decodeList Descriptor.ofJson?)
  return { breakpoints }

/-- Writes the record. -/
def toJson (x : SetBreakpointsBody) : Json := Json.record
  [ ("breakpoints", some ((encodeList Descriptor.toJson) x.breakpoints)) ]

end SetBreakpointsBody

/-- The innermost frames first. -/
structure StackTraceBody where
  stackFrames : List StackFrame
  totalFrames : Option Int64 := none
deriving Repr, Inhabited

namespace StackTraceBody

/-- Reads the record. -/
def ofJson? : Json → Option StackTraceBody := Reader.decode do
  let stackFrames ← Reader.required "stackFrames" (decodeList StackFrame.ofJson?)
  let totalFrames ← Reader.optional "totalFrames" Json.int64?
  return { stackFrames, totalFrames }

/-- Writes the record. -/
def toJson (x : StackTraceBody) : Json := Json.record
  [ ("stackFrames", some ((encodeList StackFrame.toJson) x.stackFrames)),
    ("totalFrames", x.totalFrames.map ofInt64) ]

end StackTraceBody

/-- The threads of the program. -/
structure ThreadsBody where
  threads : List ThreadInfo := []
deriving Repr, Inhabited

namespace ThreadsBody

/-- Reads the record. -/
def ofJson? : Json → Option ThreadsBody := Reader.decode do
  let threads ← Reader.defaulted "threads" [] (decodeList ThreadInfo.ofJson?)
  return { threads }

/-- Writes the record. -/
def toJson (x : ThreadsBody) : Json := Json.record
  [ ("threads", some ((encodeList ThreadInfo.toJson) x.threads)) ]

end ThreadsBody

/-- The scopes of a frame. -/
structure ScopesBody where
  scopes : List Scope
deriving Repr, Inhabited

namespace ScopesBody

/-- Reads the record. -/
def ofJson? : Json → Option ScopesBody := Reader.decode do
  let scopes ← Reader.required "scopes" (decodeList Scope.ofJson?)
  return { scopes }

/-- Writes the record. -/
def toJson (x : ScopesBody) : Json := Json.record
  [ ("scopes", some ((encodeList Scope.toJson) x.scopes)) ]

end ScopesBody

/-- The variables of a scope. -/
structure VariablesBody where
  listed : List Variable
deriving Repr, Inhabited

namespace VariablesBody

/-- Reads the record. -/
def ofJson? : Json → Option VariablesBody := Reader.decode do
  let listed ← Reader.required "variables" (decodeList Variable.ofJson?)
  return { listed }

/-- Writes the record. -/
def toJson (x : VariablesBody) : Json := Json.record
  [ ("variables", some ((encodeList Variable.toJson) x.listed)) ]

end VariablesBody

/-- The value of an expression as text. -/
structure EvaluateBody where
  result : String
  typeName : Option String := none
  variablesReference : Int64 := 0
deriving Repr, Inhabited

namespace EvaluateBody

/-- Reads the record. -/
def ofJson? : Json → Option EvaluateBody := Reader.decode do
  let result ← Reader.required "result" Json.str?
  let typeName ← Reader.optional "type" Json.str?
  let variablesReference ← Reader.defaulted "variablesReference" 0 Json.int64?
  return { result, typeName, variablesReference }

/-- Writes the record. -/
def toJson (x : EvaluateBody) : Json := Json.record
  [ ("result", some (Json.str x.result)),
    ("type", x.typeName.map Json.str),
    ("variablesReference", some (ofInt64 x.variablesReference)) ]

end EvaluateBody

/-- Whether all threads run again, or one. -/
structure ContinueBody where
  allThreadsContinued : Bool := true
deriving Repr, Inhabited

namespace ContinueBody

/-- Reads the record. -/
def ofJson? : Json → Option ContinueBody := Reader.decode do
  let allThreadsContinued ← Reader.defaulted "allThreadsContinued" true Json.bool?
  return { allThreadsContinued }

/-- Writes the record. -/
def toJson (x : ContinueBody) : Json := Json.record
  [ ("allThreadsContinued", some (Json.bool x.allThreadsContinued)) ]

end ContinueBody

/-- A text that the adapter holds. -/
structure SourceBody where
  content : String
  mimeType : Option String := none
deriving Repr, Inhabited

namespace SourceBody

/-- Reads the record. -/
def ofJson? : Json → Option SourceBody := Reader.decode do
  let content ← Reader.required "content" Json.str?
  let mimeType ← Reader.optional "mimeType" Json.str?
  return { content, mimeType }

/-- Writes the record. -/
def toJson (x : SourceBody) : Json := Json.record
  [ ("content", some (Json.str x.content)),
    ("mimeType", x.mimeType.map Json.str) ]

end SourceBody

/-- A thread, or the program, has stopped. -/
structure StoppedBody where
  reason : String := ""
  description : Option String := none
  threadId : Option Int64 := none
  allThreadsStopped : Bool := false
  text : Option String := none
deriving Repr, Inhabited

namespace StoppedBody

/-- Reads the record. -/
def ofJson? : Json → Option StoppedBody := Reader.decode do
  let reason ← Reader.defaulted "reason" "" Json.str?
  let description ← Reader.optional "description" Json.str?
  let threadId ← Reader.optional "threadId" Json.int64?
  let allThreadsStopped ← Reader.defaulted "allThreadsStopped" false Json.bool?
  let text ← Reader.optional "text" Json.str?
  return { reason, description, threadId, allThreadsStopped, text }

/-- Writes the record. -/
def toJson (x : StoppedBody) : Json := Json.record
  [ ("reason", some (Json.str x.reason)),
    ("description", x.description.map Json.str),
    ("threadId", x.threadId.map ofInt64),
    ("allThreadsStopped", some (Json.bool x.allThreadsStopped)),
    ("text", x.text.map Json.str) ]

end StoppedBody

/-- Text for the user; a missing category is written as null. -/
structure OutputBody where
  category : Option String := none
  output : String := ""
deriving Repr, Inhabited

namespace OutputBody

/-- Reads the record. -/
def ofJson? : Json → Option OutputBody := Reader.decode do
  let category ← Reader.optional "category" Json.str?
  let output ← Reader.defaulted "output" "" Json.str?
  return { category, output }

/-- Writes the record. -/
def toJson (x : OutputBody) : Json := Json.record
  [ ("category", some (Json.ofOption (x.category.map Json.str))),
    ("output", some (Json.str x.output)) ]

end OutputBody

/-- A thread has started or exited. -/
structure ThreadBody where
  reason : String
  threadId : Int64
deriving Repr, Inhabited

namespace ThreadBody

/-- Reads the record. -/
def ofJson? : Json → Option ThreadBody := Reader.decode do
  let reason ← Reader.required "reason" Json.str?
  let threadId ← Reader.required "threadId" Json.int64?
  return { reason, threadId }

/-- Writes the record. -/
def toJson (x : ThreadBody) : Json := Json.record
  [ ("reason", some (Json.str x.reason)),
    ("threadId", some (ofInt64 x.threadId)) ]

end ThreadBody

/-- The program has ended with a status. -/
structure ExitedBody where
  exitCode : Int32
deriving Repr, Inhabited

namespace ExitedBody

/-- Reads the record. -/
def ofJson? : Json → Option ExitedBody := Reader.decode do
  let exitCode ← Reader.required "exitCode" Json.int32?
  return { exitCode }

/-- Writes the record. -/
def toJson (x : ExitedBody) : Json := Json.record
  [ ("exitCode", some (ofInt32 x.exitCode)) ]

end ExitedBody

/-- Debugging has ended. -/
structure TerminatedBody where
  restart : Bool := false
deriving Repr, Inhabited

namespace TerminatedBody

/-- Reads the record. -/
def ofJson? : Json → Option TerminatedBody := Reader.decode do
  let restart ← Reader.defaulted "restart" false Json.bool?
  return { restart }

/-- Writes the record. -/
def toJson (x : TerminatedBody) : Json := Json.record
  [ ("restart", some (Json.bool x.restart)) ]

end TerminatedBody

end Protocol
end DebugConsole
