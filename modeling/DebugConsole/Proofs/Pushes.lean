/-
# Which breakpoints an adapter was sent

A push is a request that replaces the breakpoints of a path.  It is read off the
list of questions to the environment (`Exchange.push?`), as an adapter reads it off
the wire:

| part | |
| --- | --- |
| `connection` | the connection it was sent on |
| `path`, `lines` | the source and the lines asked for, in the order of the request |
| `answer` | the descriptors, or why there are none |

A push is accepted if the answer has one descriptor per line.  What was sent for the
enabled breakpoints of a path is read back as just their lines
(`push?_argumentsFor`).
-/

import DebugConsole.Proofs.Registry

namespace DebugConsole

open Protocol

namespace Protocol

/-- A 32-bit word is read as it was written. -/
theorem uint32?_ofUInt32 (n : UInt32) : Json.uint32? (ofUInt32 n) = some n := by
  have hlt := n.toNat_lt
  have hfits : (0 : Int) ≤ n.toNat ∧ (n.toNat : Int) < 0x100000000 := ⟨by omega, by omega⟩
  rw [ofUInt32, Json.uint32?, if_pos hfits]
  simp

namespace Reader

/-- A record is read from its members that are there. -/
theorem decode_record {α : Type} (reader : Reader α) (members : List (String × Option Json)) :
    decode reader (Json.record members) = (reader (.named (Json.Fields.ofList
      (members.filterMap fun member => member.2.map (member.1, ·))))).map (·.1) := rfl

/-- One reader after the other. -/
theorem bind_apply {α β : Type} (reader : Reader α) (f : α → Reader β) (form : Form) :
    (reader >>= f) form = (reader form).bind fun read => f read.1 read.2 := rfl

/-- A member that must be there is read. -/
theorem required_named {α : Type} {name : String} {read : Json → Option α}
    {fields : Json.Fields} {value : Json} (h : Json.Fields.find? name fields = some value) :
    required name read (.named fields) = (read value).map (·, .named fields) := by
  simp only [required, bind_apply, member, h, Option.bind_some]

/-- A member with a default is read where it is there. -/
theorem defaulted_named {α : Type} {name : String} {default : α} {read : Json → Option α}
    {fields : Json.Fields} {value : Json} (h : Json.Fields.find? name fields = some value) :
    defaulted name default read (.named fields) = (read value).map (·, .named fields) := by
  simp only [defaulted, bind_apply, member, h, Option.bind_some]

end Reader

/-- A list is read as it was written, item by item. -/
theorem decodeList_encodeList {α : Type} {write : α → Json} {read : Json → Option α}
    {items : List α} (h : ∀ item ∈ items, read (write item) = some item) :
    decodeList read (encodeList write items) = some items := by
  show (items.map write).mapM read = some items
  induction items with
  | nil => rfl
  | cons item rest ih =>
    have hrest := ih fun other hother => h other (List.mem_cons_of_mem _ hother)
    rw [List.map_cons, List.mapM_cons, h item List.mem_cons_self, hrest]
    rfl

/-- A source with a path is read as it was written. -/
theorem Source.ofJson?_ofPath (path : String) :
    Source.ofJson? (Source.ofPath path).toJson = some (Source.ofPath path) := rfl

/-- A breakpoint at a line alone is read back. -/
theorem SourceBreakpoint.ofJson?_line (line : UInt32) :
    SourceBreakpoint.ofJson? (SourceBreakpoint.toJson { line }) = some { line } := by
  have hline : Json.Fields.find? "line" [("line", ofUInt32 line)] = some (ofUInt32 line) := rfl
  rw [ofJson?, toJson, Reader.decode_record, Reader.bind_apply]
  show Option.map _ ((Reader.required "line" Json.uint32? (.named [("line", _)])).bind _) = _
  rw [Reader.required_named hline, uint32?_ofUInt32]
  rfl

/-- The lines to break at in a file are read back. -/
theorem SetBreakpointsArguments.ofJson?_lines (path : String) (lines : List UInt32) :
    ofJson? (toJson { source := .ofPath path, breakpoints := lines.map ({ line := · }) }) =
      some { source := .ofPath path, breakpoints := lines.map ({ line := · }) } := by
  have hlist : decodeList SourceBreakpoint.ofJson? (encodeList SourceBreakpoint.toJson
      (lines.map ({ line := · }))) = some (lines.map ({ line := · })) :=
    decodeList_encodeList (List.forall_mem_map.2 fun line _ => SourceBreakpoint.ofJson?_line line)
  have hsource (source breakpoints : Json) : Json.Fields.find? "source" (Json.Fields.ofList
      [("source", source), ("breakpoints", breakpoints)]) = some source :=
    (Json.Fields.find?_insert_of_ne (show "source" ≠ "breakpoints" by decide) ..).trans
      (Json.Fields.find?_insert_self ..)
  have hbreakpoints (source breakpoints : Json) : Json.Fields.find? "breakpoints"
      (Json.Fields.ofList [("source", source), ("breakpoints", breakpoints)]) =
        some breakpoints := Json.Fields.find?_insert_self ..
  rw [ofJson?, toJson, Reader.decode_record, Reader.bind_apply]
  simp only [List.filterMap_cons, List.filterMap_nil, Option.map_some]
  rw [Reader.required_named (hsource ..), Source.ofJson?_ofPath]
  simp only [Option.map_some, Option.bind_some]
  rw [Reader.bind_apply, Reader.defaulted_named (hbreakpoints ..), hlist]
  rfl

end Protocol

/-- A request that replaced the breakpoints of a path, with its answer. -/
structure Push where
  connection : Nat
  path : String
  lines : List UInt32
  answer : Except Error (List Descriptor)

/-- The descriptors of a push that was answered with one for each line. -/
def Push.accepted? (push : Push) : Option (List Descriptor) :=
  match push.answer with
  | .ok descriptors => if descriptors.length = push.lines.length then some descriptors else none
  | .error _ => none

/-- A push is accepted where it was answered with a descriptor for each line. -/
theorem Push.accepted?_eq_some {push : Push} {descriptors : List Descriptor} :
    push.accepted? = some descriptors ↔
      push.answer = .ok descriptors ∧ descriptors.length = push.lines.length := by
  unfold accepted?
  constructor
  · intro h
    split at h
    · rename_i answered hanswer
      split at h
      · rename_i hlength
        exact Option.some.inj h ▸ ⟨hanswer, hlength⟩
      · cases h
    · cases h
  · rintro ⟨hanswer, hlength⟩
    simp [hanswer, hlength]

/-- Was the push answered, if only with a wrong number of descriptors? -/
def Push.isAnswered (push : Push) : Bool := push.answer.isOk

/-- Of pushes that were made together, oldest first, those whose answers are taken over: none
unless all were answered, and none from the first wrong number of descriptors on. -/
def Push.taken (pushes : List Push) : List Push :=
  if pushes.all (·.isAnswered) then pushes.takeWhile (·.accepted?.isSome) else []

/-- What is accepted was answered. -/
theorem Push.isAnswered_of_accepted {push : Push} (h : push.accepted?.isSome) :
    push.isAnswered := by
  obtain ⟨descriptors, haccepted⟩ := Option.isSome_iff_exists.1 h
  rw [isAnswered, (accepted?_eq_some.1 haccepted).1]
  rfl

/-- What was taken over was accepted. -/
theorem Push.mem_taken {pushes : List Push} {push : Push} (h : push ∈ taken pushes) :
    push ∈ pushes ∧ push.accepted?.isSome := by
  unfold taken at h
  split at h
  · exact ⟨(List.takeWhile_sublist _).subset h, List.all_eq_true.1 List.all_takeWhile push h⟩
  · exact absurd h List.not_mem_nil

/-- A push by itself is taken over just if it is accepted. -/
theorem Push.taken_singleton (push : Push) :
    taken [push] = if push.accepted?.isSome then [push] else [] := by
  by_cases h : push.accepted?.isSome
  · simp [taken, isAnswered_of_accepted h, h]
  · simp [taken, h]

/-- Learns from the answer to a push, in the order of the enabled breakpoints. -/
def Breakpoints.learn (bs : Breakpoints) (push : Push) : Breakpoints :=
  match push.accepted? with
  | some descriptors =>
    bs.describeAll (((bs.enabledFor push.path).map (·.index)).zip descriptors)
  | none => bs

/-- What is learnt from an answer is nothing the user has said. -/
theorem Breakpoints.SameIntent.learn (bs : Breakpoints) (push : Push) :
    SameIntent bs (bs.learn push) := by
  unfold Breakpoints.learn
  split
  · exact .describeAll ..
  · exact .refl bs

/-- Nor is what is learnt from several. -/
theorem Breakpoints.SameIntent.foldl_learn (bs : Breakpoints) (pushes : List Push) :
    SameIntent bs (pushes.foldl Breakpoints.learn bs) := by
  induction pushes generalizing bs with
  | nil => exact .refl bs
  | cons push rest ih => exact (SameIntent.learn bs push).trans (ih _)

/-- The push that a request is with its answer, if it is one. -/
def Request.push? (asked : Request) (answer : Except Error Json) : Option Push :=
  if asked.command = "setBreakpoints" then do
    let args ← asked.arguments.bind SetBreakpointsArguments.ofJson?
    let path ← args.source.path
    return {
      connection := asked.connection
      path
      lines := args.breakpoints.map (·.line)
      answer := (Call.setBreakpoints args).result answer }
  else none

/-- The push that an exchange is, if it is one.  Where it was given up, that is why it has no
descriptors. -/
def Exchange.push? : Exchange → Option Push
  | .request asked answer => asked.push? answer
  | .abandoned asked reason => asked.push? (.error reason)
  | _ => none

/-- Requests of other commands are no pushes. -/
theorem Exchange.push?_of_command_ne {asked : Request} (h : asked.command ≠ "setBreakpoints")
    (answer : Except Error Json) : push? (.request asked answer) = none := if_neg h

/-- What is sent for the enabled breakpoints of a path asks for their lines. -/
theorem Exchange.push?_argumentsFor (bs : Breakpoints) (path : String) (connection : Nat)
    (answer : Except Error Json) :
    push? (.request ((Call.setBreakpoints (bs.argumentsFor path)).on connection) answer) =
      some ⟨connection, path, (bs.enabledFor path).map (·.line),
        (Call.setBreakpoints (bs.argumentsFor path)).result answer⟩ := by
  have hargs : bs.argumentsFor path = { source := .ofPath path, breakpoints :=
      ((bs.enabledFor path).map (·.line)).map ({ line := · }) } := by
    rw [Breakpoints.argumentsFor, List.map_map]
    rfl
  have hread := SetBreakpointsArguments.ofJson?_lines path ((bs.enabledFor path).map (·.line))
  have hcommand : ((Call.setBreakpoints (bs.argumentsFor path)).on connection).command =
      "setBreakpoints" := rfl
  rw [push?, Request.push?, if_pos hcommand]
  show ((some (bs.argumentsFor path).toJson).bind SetBreakpointsArguments.ofJson?).bind _ = _
  rw [Option.bind_some, hargs, hread, Option.bind_some]
  have hlines : (((bs.enabledFor path).map (·.line)).map fun line =>
      ({ line } : SourceBreakpoint)).map (·.line) = (bs.enabledFor path).map (·.line) := by
    simp [Function.comp_def]
  show some _ = some _
  rw [hlines]
  rfl

namespace Debugger

variable {σ : Type}

/-- The pushes so far, last first. -/
def pushes (d : Debugger σ) : List Push := d.exchanges.filterMap Exchange.push?

/-- The last push of a path on the newest connection. -/
def lastPush? (d : Debugger σ) (path : String) : Option Push :=
  d.pushes.find? fun push => push.connection = d.generation && push.path = path

/-- The last push of a path is one on the newest connection. -/
theorem lastPush?_eq_some {d : Debugger σ} {path : String} {push : Push}
    (h : d.lastPush? path = some push) :
    push ∈ d.pushes ∧ push.connection = d.generation ∧ push.path = path :=
  ⟨List.mem_of_find?_eq_some h, by simpa using List.find?_some h⟩

end Debugger
end DebugConsole
