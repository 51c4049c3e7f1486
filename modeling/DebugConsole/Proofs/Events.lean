/-
# Events and their messages

The event of a message is told by its name.  An event of a kind the console knows is sent under a
name of that kind with its content as the body, and read from there it is the same event; any other
event is sent as it came.  So every event there is comes back from its message, but for those that
only look like another one:

| event | sent with | read as |
| --- | --- | --- |
| of a known kind | its content | itself |
| `other`, a name no kind has | its body | itself |
| `other`, the name of a kind | a body which that kind can hold | an event of that kind |
| `other`, the name of a kind | a body which that kind cannot hold | itself |

Reading never yields an event of the third row.
-/

import DebugConsole.Proofs.Reencoding
import DebugConsole.Protocol.Event

namespace DebugConsole
namespace Protocol
namespace Event

/-! ### Reading a known kind -/

/-- The body that says which threads go on is read back. -/
theorem ofContinued_body (threadId : Int64) (allThreads : Bool) :
    ofContinued (Json.object [("threadId", ofInt64 threadId),
      ("allThreadsContinued", .bool allThreads)]) = .continued threadId allThreads := by
  have hthread : Json.int64? (ofInt64 threadId) = some threadId :=
    retrieves_int64.read_write threadId
  rw [ofContinued, Json.get?_object (by simp), Json.get?_object (by simp)]
  exact congrArg (fun read : Option Int64 => continued (read.getD 0) allThreads) hthread

/-- The body that describes a breakpoint is read back. -/
theorem ofBreakpoint?_body (reason : String) (descriptor : Descriptor) :
    ofBreakpoint? (Json.object [("reason", .str reason), ("breakpoint", descriptor.toJson)]) =
      some (.breakpoint reason descriptor) := by
  have hdescriptor : Descriptor.ofJson? descriptor.toJson = some descriptor :=
    Descriptor.retrieves.read_write descriptor
  rw [ofBreakpoint?, Json.get?_object (by simp), Json.get?_object (by simp)]
  exact congrArg (Option.bind · fun descriptor => some (breakpoint reason descriptor)) hdescriptor

/-- Events of the known kinds are read back from their bodies. -/
theorem known?_body {event : Event} (h : event.isKnown) :
    known? event.name event.body = some event := by
  cases event with
  | initialized => rfl
  | stopped body => exact congrArg (·.map stopped) (StoppedBody.retrieves.read_write body)
  | continued threadId allThreads => exact congrArg some (ofContinued_body threadId allThreads)
  | exited body =>
    exact congrArg (fun read => some (exited (read.getD { exitCode := 0 })))
      (ExitedBody.retrieves.read_write body)
  | terminated body =>
    cases body with
    | none => rfl
    | some body =>
      exact congrArg (fun read => some (terminated read)) (TerminatedBody.retrieves.read_write body)
  | thread body => exact congrArg (·.map thread) (ThreadBody.retrieves.read_write body)
  | output body => exact congrArg (·.map output) (OutputBody.retrieves.read_write body)
  | breakpoint reason descriptor => exact ofBreakpoint?_body reason descriptor
  | other name body => cases h

/-! ### Reading any message -/

/-- The same where the kind is looked up by its name. -/
theorem ofNamed_body {event : Event} (h : event.isKnown) :
    ofNamed event.name event.body = event := by
  rw [ofNamed, known?_body h]
  rfl

/-- What is not understood is kept. -/
theorem eq_of_ofNamed_eq_other {name other : String} {body kept : Option Json}
    (h : ofNamed name body = .other other kept) :
    known? name body = none ∧ other = name ∧ kept = body := by
  unfold ofNamed at h
  rcases hread : known? name body with _ | event <;> rw [hread] at h
  · cases h
    exact ⟨rfl, rfl, rfl⟩
  · cases (show event = .other other kept from h)
    cases (known?_spec hread).1

/-- What has been read is sent as something that is read in the same way. -/
theorem ofMessage_toMessage_ofMessage (seq : Int64) (message : EventMessage) :
    ofMessage (toMessage seq (ofMessage message)) = ofMessage message := by
  show ofNamed (ofNamed message.event message.body).name (ofNamed message.event message.body).body =
    ofNamed message.event message.body
  cases hread : ofNamed message.event message.body with
  | other name body =>
    obtain ⟨-, rfl, rfl⟩ := eq_of_ofNamed_eq_other hread
    exact hread
  | _ => exact ofNamed_body rfl

/-- **Reading a message inverts writing it and loses nothing.**  From any message with the name and
the body of an event of a known kind that event is read, whatever its content.  Any message at all
is read as an event of its name, which holds the body as it came if it is not understood. -/
theorem ofMessage_faithful :
    (∀ event : Event, event.isKnown → ∀ message : EventMessage,
      message.event = event.name → message.body = event.body → ofMessage message = event) ∧
    ∀ message : EventMessage, (ofMessage message).name = message.event ∧
      ∀ name body, ofMessage message = .other name body → body = message.body := by
  constructor
  · intro event hknown message hname hbody
    rw [ofMessage, hname, hbody, ofNamed_body hknown]
  · refine fun message => ⟨name_ofNamed _ _, fun name body hread => ?_⟩
    exact (eq_of_ofNamed_eq_other hread).2.2

/-- A breakpoint that has moved is read with all that is told about it; without the breakpoint the
event is kept. -/
theorem ofMessage_faithful_moved :
    let descriptor : Descriptor :=
      { id := some 4, verified := true, source := some { path := some "/a.c" }, line := some 7 }
    let kept : Json := Json.object [("reason", .str "changed")]
    ofMessage (toMessage 9 (.breakpoint "changed" descriptor)) = .breakpoint "changed" descriptor ∧
      ∃ body, ofMessage ⟨9, "event", "breakpoint", some kept⟩ = .other "breakpoint" body ∧
        body = some kept := by
  intro descriptor kept
  have hread : ofMessage ⟨9, "event", "breakpoint", some kept⟩ = .other "breakpoint" (some kept) :=
    rfl
  exact ⟨ofMessage_faithful.1 (.breakpoint "changed" descriptor) rfl _ rfl rfl,
    some kept, hread, (ofMessage_faithful.2 _).2 _ _ hread⟩

end Event
end Protocol
end DebugConsole
