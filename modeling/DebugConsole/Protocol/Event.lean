/-
# Events

`Event.ofMessage` sorts an event message by its name.  It never fails: an event
with a name of its own, or with a body its kind cannot hold, is `other` and keeps
name and body.

| name | body | a missing or unreadable part |
| --- | --- | --- |
| `initialized` | ignored | |
| `stopped`, `thread`, `output` | the record of that kind | makes the event `other` |
| `continued` | `threadId`, `allThreadsContinued` | counts as 0, as false |
| `exited` | `ExitedBody` | counts as status 0 |
| `terminated` | `TerminatedBody` | counts as no body |
| `breakpoint` | `reason`, `breakpoint` | reason `unknown`; without descriptor `other` |

`Event.toMessage` is the message of an event.
-/

import DebugConsole.Protocol.Body
import DebugConsole.Protocol.Message

namespace DebugConsole
namespace Protocol

/-- Something an adapter reports. -/
inductive Event where
  | initialized
  | stopped (body : StoppedBody)
  | continued (threadId : Int64) (allThreads : Bool)
  | exited (body : ExitedBody)
  | terminated (body : Option TerminatedBody)
  | thread (body : ThreadBody)
  | output (body : OutputBody)
  | breakpoint (reason : String) (descriptor : Descriptor)
  | other (name : String) (body : Option Json)
deriving Repr, Inhabited

namespace Event

/-- The name an event has on the wire. -/
def name : Event → String
  | .initialized => "initialized"
  | .stopped _ => "stopped"
  | .continued _ _ => "continued"
  | .exited _ => "exited"
  | .terminated _ => "terminated"
  | .thread _ => "thread"
  | .output _ => "output"
  | .breakpoint _ _ => "breakpoint"
  | .other name _ => name

/-- Is an event of a kind that the console knows? -/
def isKnown : Event → Bool
  | .other _ _ => false
  | _ => true

/-- Reads the body of a `continued` event. -/
def ofContinued (body : Json) : Event :=
  .continued (((body.get? "threadId").bind Json.int64?).getD 0)
    (((body.get? "allThreadsContinued").bind Json.bool?).getD false)

/-- Reads the body of a `breakpoint` event. -/
def ofBreakpoint? (body : Json) : Option Event := do
  let descriptor ← (body.get? "breakpoint").bind Descriptor.ofJson?
  return .breakpoint (((body.get? "reason").bind Json.str?).getD "unknown") descriptor

/-- The event of a name the console knows, where its body can be read. -/
def known? (name : String) (body : Option Json) : Option Event :=
  match name with
  | "initialized" => some .initialized
  | "stopped" => (body.bind StoppedBody.ofJson?).map .stopped
  | "continued" => some (ofContinued (Json.ofOption body))
  | "exited" => some (.exited ((body.bind ExitedBody.ofJson?).getD { exitCode := 0 }))
  | "terminated" => some (.terminated (body.bind TerminatedBody.ofJson?))
  | "thread" => (body.bind ThreadBody.ofJson?).map .thread
  | "output" => (body.bind OutputBody.ofJson?).map .output
  | "breakpoint" => body.bind ofBreakpoint?
  | _ => none

/-- The event with a name and a body. -/
def ofNamed (name : String) (body : Option Json) : Event :=
  (known? name body).getD (.other name body)

/-- The event of a message. -/
def ofMessage (message : EventMessage) : Event := ofNamed message.event message.body

/-- The body an event is sent with. -/
def body : Event → Option Json
  | .initialized => none
  | .stopped body => some body.toJson
  | .continued threadId allThreads =>
    some (Json.object
      [("threadId", ofInt64 threadId), ("allThreadsContinued", .bool allThreads)])
  | .exited body => some body.toJson
  | .terminated body => body.map TerminatedBody.toJson
  | .thread body => some body.toJson
  | .output body => some body.toJson
  | .breakpoint reason descriptor =>
    some (Json.object [("reason", .str reason), ("breakpoint", descriptor.toJson)])
  | .other _ body => body

/-- The message an event is sent in. -/
def toMessage (seq : Int64) (event : Event) : EventMessage :=
  { seq, kind := "event", event := event.name, body := event.body }

theorem known?_spec {name : String} {body : Option Json} {event : Event}
    (h : known? name body = some event) : event.isKnown ∧ event.name = name := by
  unfold known? at h
  split at h <;> simp only [Option.map_eq_some_iff, Option.bind_eq_some_iff, Option.some.injEq,
    reduceCtorEq] at h
  all_goals first
    | (obtain ⟨_, _, rfl⟩ := h; exact ⟨rfl, rfl⟩)
    | (obtain ⟨b, _, h⟩ := h
       unfold ofBreakpoint? at h
       simp only [bind, Option.bind_eq_some_iff, pure, Option.some.injEq] at h
       obtain ⟨_, _, rfl⟩ := h
       exact ⟨rfl, rfl⟩)

/-- Reading never changes the name of an event. -/
theorem name_ofNamed (name : String) (body : Option Json) : (ofNamed name body).name = name := by
  unfold ofNamed
  cases h : known? name body with
  | none => rfl
  | some event => exact (known?_spec h).2

end Event
end Protocol
end DebugConsole
