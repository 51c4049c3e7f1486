/-
# Messages

Every message is a record with a number and a kind: `request`, `response` or
`event`.  A body or arguments of any form ride along; null counts as absent.
-/

import DebugConsole.Protocol.Record

namespace DebugConsole
namespace Protocol

/-- A request: the client asks, the adapter answers under the same number. -/
structure RequestMessage where
  seq : Int64
  kind : String
  command : String
  arguments : Option Json := none
deriving Repr, Inhabited

namespace RequestMessage

/-- Reads the record. -/
def ofJson? : Json → Option RequestMessage := Reader.decode do
  let seq ← Reader.required "seq" Json.int64?
  let kind ← Reader.required "type" Json.str?
  let command ← Reader.required "command" Json.str?
  let arguments ← Reader.optional "arguments" decodeAny
  return { seq, kind, command, arguments }

/-- Writes the record. -/
def toJson (x : RequestMessage) : Json := Json.record
  [ ("seq", some (ofInt64 x.seq)),
    ("type", some (Json.str x.kind)),
    ("command", some (Json.str x.command)),
    ("arguments", x.arguments) ]

end RequestMessage

/-- The request with a number, a command and arguments. -/
def RequestMessage.ofCommand (seq : Int64) (command : String) (arguments : Option Json) :
    RequestMessage :=
  { seq, kind := "request", command, arguments }

/-- The answer to the request with number `requestSeq`. -/
structure ResponseMessage where
  seq : Int64
  kind : String
  requestSeq : Int64
  success : Bool
  command : String
  message : Option String := none
  body : Option Json := none
deriving Repr, Inhabited

namespace ResponseMessage

/-- Reads the record. -/
def ofJson? : Json → Option ResponseMessage := Reader.decode do
  let seq ← Reader.required "seq" Json.int64?
  let kind ← Reader.required "type" Json.str?
  let requestSeq ← Reader.required "request_seq" Json.int64?
  let success ← Reader.required "success" Json.bool?
  let command ← Reader.required "command" Json.str?
  let message ← Reader.optional "message" Json.str?
  let body ← Reader.optional "body" decodeAny
  return { seq, kind, requestSeq, success, command, message, body }

/-- Writes the record. -/
def toJson (x : ResponseMessage) : Json := Json.record
  [ ("seq", some (ofInt64 x.seq)),
    ("type", some (Json.str x.kind)),
    ("request_seq", some (ofInt64 x.requestSeq)),
    ("success", some (Json.bool x.success)),
    ("command", some (Json.str x.command)),
    ("message", x.message.map Json.str),
    ("body", x.body) ]

end ResponseMessage

/-- Something that the adapter reports unasked. -/
structure EventMessage where
  seq : Int64
  kind : String
  event : String
  body : Option Json := none
deriving Repr, Inhabited

namespace EventMessage

/-- Reads the record. -/
def ofJson? : Json → Option EventMessage := Reader.decode do
  let seq ← Reader.required "seq" Json.int64?
  let kind ← Reader.required "type" Json.str?
  let event ← Reader.required "event" Json.str?
  let body ← Reader.optional "body" decodeAny
  return { seq, kind, event, body }

/-- Writes the record. -/
def toJson (x : EventMessage) : Json := Json.record
  [ ("seq", some (ofInt64 x.seq)),
    ("type", some (Json.str x.kind)),
    ("event", some (Json.str x.event)),
    ("body", x.body) ]

end EventMessage

end Protocol
end DebugConsole
