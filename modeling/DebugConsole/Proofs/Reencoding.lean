/-
# What was read from JSON is read again from what it is written as

A record is written as an object that has exactly its members, so whichever form it was read from,
it is read again by name:

| member | written as | read again |
| --- | --- | --- |
| `required`, `defaulted` | its value | the value |
| `optional`, present | its value, never null | the value |
| `optional`, absent | not at all, or as null | absent |
| empty argument list | not at all | the default, which is the empty list |

A list of readers and a list of members that run in step are all that differs from record to record
(`Reads`).  Two kinds of record hold what could be lost on the way: messages a value of any form,
which null would not come back from, and launch and attach arguments the members they do not know,
which come back in the order of their keys.
-/

import DebugConsole.Proofs.Objects
import DebugConsole.Proofs.Pushes
import DebugConsole.Protocol.Arguments
import DebugConsole.Protocol.Body
import DebugConsole.Protocol.Message

namespace DebugConsole
namespace Protocol

variable {α β : Type}

/-- What is written is read back, and is never null. -/
structure Retrieves (read : Json → Option α) (write : α → Json) : Prop where
  read_write (x : α) : read (write x) = some x
  ne_null (x : α) : write x ≠ .null

/-! ### Single values -/

/-- Texts are read as they are written. -/
theorem retrieves_str : Retrieves Json.str? Json.str where
  read_write _ := rfl
  ne_null _ h := by cases h

theorem retrieves_bool : Retrieves Json.bool? Json.bool where
  read_write _ := rfl
  ne_null _ h := by cases h

/-- So are words with and without a sign, as long as they are in their range. -/
theorem retrieves_uint32 : Retrieves Json.uint32? ofUInt32 where
  read_write := uint32?_ofUInt32
  ne_null _ h := by cases h

theorem retrieves_int64 : Retrieves Json.int64? ofInt64 where
  read_write n := by
    have hlow := n.le_toInt
    have hhigh := n.toInt_lt
    rw [ofInt64, Json.int64?, if_pos ⟨hlow, hhigh⟩, Int64.ofInt_toInt]
  ne_null _ h := by cases h

theorem retrieves_int32 : Retrieves Json.int32? ofInt32 where
  read_write n := by
    have hlow := n.le_toInt
    have hhigh := n.toInt_lt
    rw [ofInt32, Json.int32?, if_pos ⟨hlow, hhigh⟩, Int32.ofInt_toInt]
  ne_null _ h := by cases h

/-- A list is read as it is written if its items are. -/
theorem Retrieves.list {read : Json → Option α} {write : α → Json} (h : Retrieves read write) :
    Retrieves (decodeList read) (encodeList write) where
  read_write _ := decodeList_encodeList fun item _ => h.read_write item
  ne_null _ h := by cases h

/-! ### Members -/

namespace Reader

/-- Reads what stands for a member that may be left out or null. -/
def readOptional (read : Json → Option α) : Option Json → Option (Option α)
  | none => some none
  | some .null => some none
  | some value => (read value).map some

/-- A member that may be missing is read as what is found under its name. -/
theorem optional_named {name : String} {read : Json → Option α} {fields : Json.Fields} :
    optional name read (.named fields) =
      (readOptional read (Json.Fields.find? name fields)).map (·, .named fields) := by
  rcases h : Json.Fields.find? name fields with _ | value
  · simp only [optional, bind_apply, member, isListed, h, Option.bind_some, readOptional]
    rfl
  · cases value <;> simp only [optional, bind_apply, member, h, Option.bind_some, readOptional,
      Option.map_map] <;> rfl

/-- Where a member is missing its default stands for it. -/
theorem defaulted_absent {name : String} {default : α} {read : Json → Option α}
    {fields : Json.Fields} (h : Json.Fields.find? name fields = none) :
    defaulted name default read (.named fields) = some (default, .named fields) := by
  simp only [defaulted, bind_apply, member, h, Option.bind_some]
  rfl

/-- An optional value that is not null is read as it was written. -/
theorem readOptional_map {read : Json → Option α} {write : α → Json} {x : Option α}
    (h : ∀ a, x = some a → read (write a) = some a ∧ write a ≠ .null) :
    readOptional read (x.map write) = some x := by
  cases x with
  | none => rfl
  | some a =>
    obtain ⟨hread, hnull⟩ := h a rfl
    rw [Option.map_some, readOptional, hread]
    · rfl
    · exact hnull

end Reader

/-- From any object with these members the reader reads this record. -/
def Reads (reader : Reader α) (members : List (String × Option Json)) (x : α) : Prop :=
  ∀ fields : Json.Fields, (∀ m ∈ members, Json.Fields.find? m.1 fields = m.2) →
    reader (.named fields) = some (x, .named fields)

namespace Reads

variable {members : List (String × Option Json)} {name : String} {read : Json → Option α}
  {write : α → Json} {next : α → Reader β} {y : β}

/-- At the end of a record its value is given. -/
theorem pure (y : β) : Reads (Pure.pure y) members y := fun _ _ => rfl

/-- Members are read one by one, each under its own name. -/
theorem bind {first : Reader α} {value : Option Json} {x : α}
    (hfirst : ∀ fields, Json.Fields.find? name fields = value →
      first (.named fields) = some (x, .named fields))
    (hnext : Reads (next x) members y) : Reads (first >>= next) ((name, value) :: members) y := by
  intro fields h
  obtain ⟨hname, hmembers⟩ := List.forall_mem_cons.1 h
  rw [Reader.bind_apply, hfirst fields hname, Option.bind_some]
  exact hnext fields hmembers

/-- A member that must be there, and is. -/
theorem required {x : α} (h : Retrieves read write) (hnext : Reads (next x) members y) :
    Reads (Reader.required name read >>= next) ((name, some (write x)) :: members) y :=
  .bind (fun fields hname => by rw [Reader.required_named hname, h.read_write]; rfl) hnext

/-- A member with a default that is written out nevertheless. -/
theorem defaulted {default x : α} (h : Retrieves read write) (hnext : Reads (next x) members y) :
    Reads (Reader.defaulted name default read >>= next) ((name, some (write x)) :: members) y :=
  .bind (fun fields hname => by rw [Reader.defaulted_named hname, h.read_write]; rfl) hnext

/-- A member that may be missing, whatever stands for it. -/
theorem optional' {next : Option α → Reader β} {value : Option Json} {x : Option α}
    (h : Reader.readOptional read value = some x) (hnext : Reads (next x) members y) :
    Reads (Reader.optional name read >>= next) ((name, value) :: members) y :=
  .bind (fun fields hname => by rw [Reader.optional_named, hname, h]; rfl) hnext

/-- A member that may be missing, and is written only if it is there. -/
theorem optional {next : Option α → Reader β} {x : Option α} (h : Retrieves read write)
    (hnext : Reads (next x) members y) :
    Reads (Reader.optional name read >>= next) ((name, x.map write) :: members) y :=
  .optional' (Reader.readOptional_map fun a _ => ⟨h.read_write a, h.ne_null a⟩) hnext

end Reads

/-! ### Records -/

/-- The members that are present. -/
def present (members : List (String × Option Json)) : Json.Fields :=
  members.filterMap fun member => member.2.map (member.1, ·)

/-- The members that are there keep their order. -/
theorem keys_present_sublist (members : List (String × Option Json)) :
    ((present members).map (·.1)).Sublist (members.map (·.1)) := by
  induction members with
  | nil => exact List.Sublist.slnil
  | cons member rest ih =>
    obtain ⟨name, _ | value⟩ := member
    · exact ih.cons name
    · exact ih.cons_cons name

/-- A member is found just if it is there. -/
theorem find?_present {members : List (String × Option Json)}
    (hnames : (members.map (·.1)).Nodup) :
    ∀ m ∈ members, Json.Fields.find? m.1 (present members) = m.2 := by
  induction members with
  | nil => exact fun _ hm => absurd hm List.not_mem_nil
  | cons member rest ih =>
    obtain ⟨hnot, hrest⟩ := List.nodup_cons.1 hnames
    obtain ⟨name, value⟩ := member
    have hnone : Json.Fields.find? name (present rest) = none :=
      Json.Fields.find?_eq_none_iff.2 fun hmem => hnot ((keys_present_sublist rest).subset hmem)
    intro m hm
    rcases List.mem_cons.1 hm with rfl | hbehind
    · cases value with
      | none => exact hnone
      | some value => exact if_pos rfl
    · have hne : name ≠ m.1 := fun heq => hnot (List.mem_map.2 ⟨m, hbehind, heq.symm⟩)
      have hfound := ih hrest m hbehind
      cases value with
      | none => exact hfound
      | some value => exact (if_neg hne).trans hfound

/-- The members of a record are those that are there. -/
theorem get?_record {members : List (String × Option Json)} (hnames : (members.map (·.1)).Nodup)
    (key : String) :
    (Json.record members).get? key = Json.Fields.find? key (present members) :=
  Json.get?_object (hnames.sublist (keys_present_sublist members)) key

/-- From a record with its members the reader reads it. -/
theorem Reads.apply_record {reader : Reader α} {members : List (String × Option Json)} {x : α}
    (h : Reads reader members x) (hnames : (members.map (·.1)).Nodup) :
    (reader (.named (Json.Fields.ofList (present members)))).map (·.1) = some x := by
  have hfound : ∀ m ∈ members,
      Json.Fields.find? m.1 (Json.Fields.ofList (present members)) = m.2 := fun m hm =>
    (get?_record hnames m.1).trans (find?_present hnames m hm)
  rw [h _ hfound]
  rfl

/-- **A record is read as it is written** if its members have different names. -/
theorem Retrieves.record {reader : Reader α} {members : α → List (String × Option Json)}
    (hnames : ∀ x, ((members x).map (·.1)).Nodup) (h : ∀ x, Reads reader (members x) x) :
    Retrieves (Reader.decode reader) fun x => Json.record (members x) where
  read_write x := (h x).apply_record (hnames x)
  ne_null _ h := by cases h

/-- A source is read as it is written. -/
theorem Source.retrieves : Retrieves Source.ofJson? Source.toJson :=
  .record (fun x => by simp) fun x =>
    .optional retrieves_str <| .optional retrieves_str <| .optional retrieves_int64 <| .pure x

theorem SourceBreakpoint.retrieves : Retrieves SourceBreakpoint.ofJson? SourceBreakpoint.toJson :=
  .record (fun x => by simp) fun x =>
    .required retrieves_uint32 <| .optional retrieves_uint32 <| .optional retrieves_str <| .pure x

theorem Descriptor.retrieves : Retrieves Descriptor.ofJson? Descriptor.toJson :=
  .record (fun x => by simp) fun x =>
    .optional retrieves_int64 <| .defaulted retrieves_bool <| .optional retrieves_str <|
      .optional Source.retrieves <| .optional retrieves_uint32 <| .pure x

/-- A frame is read as it is written, with its source. -/
theorem StackFrame.retrieves : Retrieves StackFrame.ofJson? StackFrame.toJson :=
  .record (fun x => by simp) fun x =>
    .required retrieves_int64 <| .required retrieves_str <| .optional Source.retrieves <|
      .required retrieves_uint32 <| .defaulted retrieves_uint32 <| .pure x

theorem ThreadInfo.retrieves : Retrieves ThreadInfo.ofJson? ThreadInfo.toJson :=
  .record (fun x => by simp) fun x =>
    .required retrieves_int64 <| .required retrieves_str <| .pure x

theorem Scope.retrieves : Retrieves Scope.ofJson? Scope.toJson :=
  .record (fun x => by simp) fun x =>
    .required retrieves_str <| .required retrieves_int64 <| .defaulted retrieves_bool <| .pure x

theorem Variable.retrieves : Retrieves Variable.ofJson? Variable.toJson :=
  .record (fun x => by simp) fun x =>
    .required retrieves_str <| .required retrieves_str <| .optional retrieves_str <|
      .defaulted retrieves_int64 <| .pure x

/-- What an adapter is able to do is read as it is written, each of its abilities. -/
theorem Capabilities.retrieves : Retrieves Capabilities.ofJson? Capabilities.toJson :=
  .record (fun x => by simp) fun x =>
    .defaulted retrieves_bool <| .defaulted retrieves_bool <| .defaulted retrieves_bool <|
      .defaulted retrieves_bool <| .defaulted retrieves_bool <| .defaulted retrieves_bool <|
        .pure x

/-! ### Arguments -/

theorem InitializeArguments.retrieves :
    Retrieves InitializeArguments.ofJson? InitializeArguments.toJson :=
  .record (fun x => by simp) fun x =>
    .optional retrieves_str <| .optional retrieves_str <| .required retrieves_str <|
      .defaulted retrieves_bool <| .defaulted retrieves_bool <| .optional retrieves_str <|
        .defaulted retrieves_bool <| .pure x

/-- The lines of a source are read as they are written. -/
theorem SetBreakpointsArguments.retrieves :
    Retrieves SetBreakpointsArguments.ofJson? SetBreakpointsArguments.toJson :=
  .record (fun x => by simp) fun x =>
    .required Source.retrieves <| .defaulted SourceBreakpoint.retrieves.list <| .pure x

theorem SetExceptionBreakpointsArguments.retrieves :
    Retrieves SetExceptionBreakpointsArguments.ofJson? SetExceptionBreakpointsArguments.toJson :=
  .record (fun x => by simp) fun x => .required retrieves_str.list <| .pure x

theorem ContinueArguments.retrieves :
    Retrieves ContinueArguments.ofJson? ContinueArguments.toJson :=
  .record (fun x => by simp) fun x => .required retrieves_int64 <| .pure x

theorem StepArguments.retrieves : Retrieves StepArguments.ofJson? StepArguments.toJson :=
  .record (fun x => by simp) fun x => .required retrieves_int64 <| .pure x

theorem PauseArguments.retrieves : Retrieves PauseArguments.ofJson? PauseArguments.toJson :=
  .record (fun x => by simp) fun x => .required retrieves_int64 <| .pure x

theorem StackTraceArguments.retrieves :
    Retrieves StackTraceArguments.ofJson? StackTraceArguments.toJson :=
  .record (fun x => by simp) fun x =>
    .required retrieves_int64 <| .optional retrieves_int64 <| .optional retrieves_int64 <| .pure x

theorem ScopesArguments.retrieves : Retrieves ScopesArguments.ofJson? ScopesArguments.toJson :=
  .record (fun x => by simp) fun x => .required retrieves_int64 <| .pure x

theorem VariablesArguments.retrieves :
    Retrieves VariablesArguments.ofJson? VariablesArguments.toJson :=
  .record (fun x => by simp) fun x => .required retrieves_int64 <| .pure x

theorem EvaluateArguments.retrieves :
    Retrieves EvaluateArguments.ofJson? EvaluateArguments.toJson :=
  .record (fun x => by simp) fun x =>
    .required retrieves_str <| .optional retrieves_int64 <| .optional retrieves_str <| .pure x

theorem SourceArguments.retrieves : Retrieves SourceArguments.ofJson? SourceArguments.toJson :=
  .record (fun x => by simp) fun x => .required retrieves_int64 <| .pure x

/-- What is to become of a program is read as it is written. -/
theorem DisconnectArguments.retrieves :
    Retrieves DisconnectArguments.ofJson? DisconnectArguments.toJson :=
  .record (fun x => by simp) fun x =>
    .defaulted retrieves_bool <| .optional retrieves_bool <| .pure x

/-! ### Bodies -/

/-- Descriptors are read as they are written, in their order. -/
theorem SetBreakpointsBody.retrieves :
    Retrieves SetBreakpointsBody.ofJson? SetBreakpointsBody.toJson :=
  .record (fun x => by simp) fun x => .required Descriptor.retrieves.list <| .pure x

theorem StackTraceBody.retrieves : Retrieves StackTraceBody.ofJson? StackTraceBody.toJson :=
  .record (fun x => by simp) fun x =>
    .required StackFrame.retrieves.list <| .optional retrieves_int64 <| .pure x

theorem ThreadsBody.retrieves : Retrieves ThreadsBody.ofJson? ThreadsBody.toJson :=
  .record (fun x => by simp) fun x => .defaulted ThreadInfo.retrieves.list <| .pure x

theorem ScopesBody.retrieves : Retrieves ScopesBody.ofJson? ScopesBody.toJson :=
  .record (fun x => by simp) fun x => .required Scope.retrieves.list <| .pure x

theorem VariablesBody.retrieves : Retrieves VariablesBody.ofJson? VariablesBody.toJson :=
  .record (fun x => by simp) fun x => .required Variable.retrieves.list <| .pure x

theorem EvaluateBody.retrieves : Retrieves EvaluateBody.ofJson? EvaluateBody.toJson :=
  .record (fun x => by simp) fun x =>
    .required retrieves_str <| .optional retrieves_str <| .defaulted retrieves_int64 <| .pure x

theorem ContinueBody.retrieves : Retrieves ContinueBody.ofJson? ContinueBody.toJson :=
  .record (fun x => by simp) fun x => .defaulted retrieves_bool <| .pure x

theorem SourceBody.retrieves : Retrieves SourceBody.ofJson? SourceBody.toJson :=
  .record (fun x => by simp) fun x => .required retrieves_str <| .optional retrieves_str <| .pure x

/-- A stop is read as it is written, with or without its thread. -/
theorem StoppedBody.retrieves : Retrieves StoppedBody.ofJson? StoppedBody.toJson :=
  .record (fun x => by simp) fun x =>
    .defaulted retrieves_str <| .optional retrieves_str <| .optional retrieves_int64 <|
      .defaulted retrieves_bool <| .optional retrieves_str <| .pure x

/-- A missing category is written as null, and null is read as missing. -/
theorem OutputBody.retrieves : Retrieves OutputBody.ofJson? OutputBody.toJson := by
  refine .record (fun x => by simp) fun x => .optional' ?_ <| .defaulted retrieves_str <| .pure x
  cases x.category <;> rfl

theorem ThreadBody.retrieves : Retrieves ThreadBody.ofJson? ThreadBody.toJson :=
  .record (fun x => by simp) fun x =>
    .required retrieves_str <| .required retrieves_int64 <| .pure x

theorem ExitedBody.retrieves : Retrieves ExitedBody.ofJson? ExitedBody.toJson :=
  .record (fun x => by simp) fun x => .required retrieves_int32 <| .pure x

theorem TerminatedBody.retrieves : Retrieves TerminatedBody.ofJson? TerminatedBody.toJson :=
  .record (fun x => by simp) fun x => .defaulted retrieves_bool <| .pure x

/-! ### What a reader has seen to -/

/-- From members like these the reader yields only records like this, and leaves such members. -/
def Ensures (reader : Reader α) (given : Form → Prop) (P : α → Prop) : Prop :=
  ∀ form x left, given form → reader form = some (x, left) → given left ∧ P x

namespace Ensures

variable {given : Form → Prop} {P : α → Prop} {fields : Json.Fields}

/-- A value that is given is ensured if it is as it should be. -/
theorem pure {x : α} (h : P x) : Ensures (Pure.pure x) given P := by
  intro form y left hform hread
  cases hread
  exact ⟨hform, h⟩

/-- What the first reader ensures may be used by the next. -/
theorem bind {first : Reader β} {next : β → Reader α} {Q : β → Prop}
    (hfirst : Ensures first given Q) (hnext : ∀ b, Q b → Ensures (next b) given P) :
    Ensures (first >>= next) given P := by
  intro form x left hform hread
  rw [Reader.bind_apply] at hread
  obtain ⟨⟨b, rest⟩, hb, hread⟩ := Option.bind_eq_some_iff.1 hread
  obtain ⟨hrest, hfound⟩ := hfirst form b rest hform hb
  exact hnext b hfound rest x left hrest hread

/-- A member that does not matter. -/
theorem skip {first : Reader β} {next : β → Reader α}
    (h : ∀ b, Ensures (next b) (fun _ => True) P) :
    Ensures (first >>= next) (fun _ => True) P :=
  .bind (Q := fun _ => True) (fun _ _ _ _ _ => ⟨trivial, trivial⟩) fun b _ => h b

/-- A value that may be anything is never taken to be there and null. -/
theorem optional_any (name : String) :
    Ensures (Reader.optional name decodeAny) (fun _ => True) (· ≠ some .null) := by
  rintro form x left - hread
  refine ⟨trivial, ?_⟩
  rintro rfl
  rw [Reader.optional, Reader.bind_apply] at hread
  obtain ⟨⟨value, rest⟩, -, hread⟩ := Option.bind_eq_some_iff.1 hread
  dsimp only at hread
  split at hread
  · cases hread
  · rename_i hnull
    cases hread
    exact hnull rfl
  · rw [Reader.bind_apply] at hread
    obtain ⟨⟨listed, rest⟩, -, hread⟩ := Option.bind_eq_some_iff.1 hread
    cases listed <;> cases hread

/-- What a reader ensures holds of everything that is read. -/
theorem of_decode {reader : Reader α} (h : Ensures reader (fun _ => True) P) {value : Json} {x : α}
    (hread : Reader.decode reader value = some x) : P x := by
  cases value with
  | obj fields =>
    obtain ⟨⟨y, left⟩, hfields, rfl⟩ := Option.map_eq_some_iff.1 hread
    exact (h _ y left trivial hfields).2
  | arr items =>
    rw [Reader.decode] at hread
    split at hread
    · cases hread
      exact (h _ x _ trivial ‹_›).2
    · cases hread
  | _ => cases hread

/-- The same where the members of an object are read. -/
theorem of_named {reader : Reader α} {x : α}
    (hread : (reader (.named fields)).map (·.1) = some x)
    (h : Ensures reader (· = .named fields) P) : P x := by
  obtain ⟨⟨y, left⟩, hfields, rfl⟩ := Option.map_eq_some_iff.1 hread
  exact (h _ y left rfl hfields).2

/-- A member that must be there leaves the others to be read. -/
theorem required_named (name : String) (read : Json → Option α) :
    Ensures (Reader.required name read) (· = .named fields) fun _ => True := by
  rintro form x left rfl hread
  cases hfind : Json.Fields.find? name fields with
  | none =>
    simp only [Reader.required, Reader.bind_apply, Reader.member, hfind, Option.bind_some] at hread
    cases hread
  | some value =>
    rw [Reader.required_named hfind] at hread
    obtain ⟨a, -, heq⟩ := Option.map_eq_some_iff.1 hread
    cases heq
    exact ⟨rfl, trivial⟩

/-- So does one with a default. -/
theorem defaulted_named (name : String) (default : α) (read : Json → Option α) :
    Ensures (Reader.defaulted name default read) (· = .named fields) fun _ => True := by
  rintro form x left rfl hread
  cases hfind : Json.Fields.find? name fields with
  | none =>
    rw [Reader.defaulted_absent hfind] at hread
    cases hread
    exact ⟨rfl, trivial⟩
  | some value =>
    rw [Reader.defaulted_named hfind] at hread
    obtain ⟨a, -, heq⟩ := Option.map_eq_some_iff.1 hread
    cases heq
    exact ⟨rfl, trivial⟩

/-- One that may be missing says what was found under its name. -/
theorem optional_named (name : String) (read : Json → Option α) :
    Ensures (Reader.optional name read) (· = .named fields) fun x =>
      Reader.readOptional read (Json.Fields.find? name fields) = some x := by
  rintro form x left rfl hread
  rw [Reader.optional_named] at hread
  obtain ⟨a, ha, heq⟩ := Option.map_eq_some_iff.1 hread
  cases heq
  exact ⟨rfl, ha⟩

end Ensures

/-! ### Messages -/

/-- A body or arguments of any form are read back unless they are null. -/
theorem readOptional_any {value : Option Json} (h : value ≠ some .null) :
    Reader.readOptional decodeAny value = some value := by
  rcases value with _ | (_ | _ | _ | _ | _ | _ | _)
  case some.null => exact absurd rfl h
  all_goals rfl

/-- A request that was read is read again as it is written. -/
theorem RequestMessage.ofJson?_toJson {value : Json} {x : RequestMessage}
    (h : ofJson? value = some x) : ofJson? x.toJson = some x := by
  have hnull : x.arguments ≠ some .null :=
    Ensures.of_decode (P := fun x : RequestMessage => x.arguments ≠ some .null)
      (.skip fun _ => .skip fun _ => .skip fun _ =>
        .bind (.optional_any _) fun _ hnull => .pure hnull) h
  exact Reads.apply_record (.required retrieves_int64 <| .required retrieves_str <|
    .required retrieves_str <| .optional' (readOptional_any hnull) <| .pure x) (by simp)

/-- So is a response. -/
theorem ResponseMessage.ofJson?_toJson {value : Json} {x : ResponseMessage}
    (h : ofJson? value = some x) : ofJson? x.toJson = some x := by
  have hnull : x.body ≠ some .null :=
    Ensures.of_decode (P := fun x : ResponseMessage => x.body ≠ some .null)
      (.skip fun _ => .skip fun _ => .skip fun _ => .skip fun _ => .skip fun _ => .skip fun _ =>
        .bind (.optional_any _) fun _ hnull => .pure hnull) h
  exact Reads.apply_record (.required retrieves_int64 <| .required retrieves_str <|
    .required retrieves_int64 <| .required retrieves_bool <| .required retrieves_str <|
      .optional retrieves_str <| .optional' (readOptional_any hnull) <| .pure x) (by simp)

/-- So is an event. -/
theorem EventMessage.ofJson?_toJson {value : Json} {x : EventMessage}
    (h : ofJson? value = some x) : ofJson? x.toJson = some x := by
  have hnull : x.body ≠ some .null :=
    Ensures.of_decode (P := fun x : EventMessage => x.body ≠ some .null)
      (.skip fun _ => .skip fun _ => .skip fun _ =>
        .bind (.optional_any _) fun _ hnull => .pure hnull) h
  exact Reads.apply_record (.required retrieves_int64 <| .required retrieves_str <|
    .required retrieves_str <| .optional' (readOptional_any hnull) <| .pure x) (by simp)

/-! ### Texts as members -/

/-- Texts under keys in order are read as they are written. -/
theorem decodeTexts_encodeTexts {members : List (String × String)}
    (h : members.Pairwise (·.1 < ·.1)) : decodeTexts (encodeTexts members) = some members := by
  have hsorted : Json.Fields.IsSorted (members.map fun m => (m.1, Json.str m.2)) :=
    List.pairwise_map.2 h
  rw [encodeTexts, Json.object, hsorted.ofList_eq, decodeTexts]
  clear h hsorted
  induction members with
  | nil => rfl
  | cons m rest ih =>
    rw [List.map_cons, List.mapM_cons, ih]
    rfl

/-- The texts that are read from an ordered object are in its order. -/
theorem pairwise_of_decodeTexts {value : Json} {members : List (String × String)}
    (hvalue : value.IsOrdered) (h : decodeTexts value = some members) :
    members.Pairwise (·.1 < ·.1) := by
  have hkeys (fields : Json.Fields) (members : List (String × String))
      (h : fields.mapM (fun field => field.2.str?.map (field.1, ·)) = some members) :
      members.map (·.1) = fields.map (·.1) := by
    induction fields generalizing members with
    | nil =>
      cases h
      rfl
    | cons field rest ih =>
      rw [List.mapM_cons] at h
      obtain ⟨m, hm, h⟩ := Option.bind_eq_some_iff.1 h
      obtain ⟨others, hothers, h⟩ := Option.bind_eq_some_iff.1 h
      obtain ⟨text, -, rfl⟩ := Option.map_eq_some_iff.1 hm
      cases h
      rw [List.map_cons, List.map_cons, ih others hothers]
  cases hvalue with
  | obj hsorted _ =>
    rw [← List.pairwise_map (R := (· < ·)), hkeys _ members h]
    exact List.pairwise_map.2 hsorted
  | _ => cases h

/-! ### Launch and attach arguments -/

/-- Members in the order of keys, none of which is known. -/
structure IsExtra (known : List String) (extra : Json.Fields) : Prop where
  sorted : extra.IsSorted
  unknown : ∀ member ∈ extra, member.1 ∉ known

/-- Members that have no field are extras. -/
theorem isExtra_extraMembers {value : Json} (h : value.IsOrdered) (known : List String) :
    IsExtra known (extraMembers known value) := by
  cases h with
  | obj hsorted _ =>
    refine ⟨hsorted.filter _, fun member hmember => ?_⟩
    simpa using (List.mem_filter.1 hmember).2
  | _ => exact ⟨.nil, fun _ hmember => absurd hmember List.not_mem_nil⟩

/-- An extra is found as it was given. -/
theorem find?_extraMembers (known : List String) (key : String) (value : Json) :
    Json.Fields.find? key (extraMembers known value) =
      if known.contains key then none else value.get? key := by
  cases value with
  | obj fields =>
    have hfilter : Json.Fields.find? key (extraMembers known (.obj fields)) =
        if !known.contains key then Json.Fields.find? key fields else none :=
      Json.Fields.find?_filter (!known.contains ·)
    rw [hfilter]
    cases known.contains key <;> rfl
  | _ => exact (ite_self _).symm

section Extra

variable (known : List String) {members : List (String × Option Json)} {extra : Json.Fields}
  (hnames : members.map (·.1) = known) (hnodup : known.Nodup) (hextra : IsExtra known extra)

include hnames hnodup hextra

/-- Extras have other names than the fields. -/
theorem nodup_extra : ((members ++ extra.map fun m => (m.1, some m.2)).map (·.1)).Nodup := by
  rw [List.map_append, List.map_map, hnames]
  refine List.nodup_append.2 ⟨hnodup, hextra.sorted.nodup, fun name hname other hother heq => ?_⟩
  subst other
  obtain ⟨m, hm, rfl⟩ := List.mem_map.1 hother
  exact hextra.unknown m hm hname

/-- Extra members are written as they are. -/
theorem get?_extra {key : String} (hkey : key ∉ known) :
    (Json.record (members ++ extra.map fun m => (m.1, some m.2))).get? key =
      Json.Fields.find? key extra := by
  have hpresent : present (members ++ extra.map fun m => (m.1, some m.2)) =
      present members ++ extra := by
    rw [present, List.filterMap_append, List.filterMap_map]
    exact congrArg (present members ++ ·) List.filterMap_some
  have hnone : Json.Fields.find? key (present members) = none :=
    Json.Fields.find?_eq_none_iff.2 fun hmem =>
      hkey (hnames ▸ (keys_present_sublist members).subset hmem)
  rw [get?_record (nodup_extra known hnames hnodup hextra), hpresent,
    Json.Fields.find?_append, hnone, Option.none_or]

/-- Extra members are read back. -/
theorem extraMembers_extra :
    extraMembers known (Json.record (members ++ extra.map fun m => (m.1, some m.2))) = extra := by
  have hsorted := (Json.Fields.isSorted_ofList
    (present (members ++ extra.map fun m => (m.1, some m.2)))).filter (!known.contains ·.1)
  refine Json.Fields.IsSorted.ext hsorted hextra.sorted fun key => ?_
  refine (find?_extraMembers known key _).trans ?_
  by_cases hkey : key ∈ known
  · rw [if_pos (List.contains_iff_mem.2 hkey), eq_comm, Json.Fields.find?_eq_none_iff]
    intro hmem
    obtain ⟨m, hm, rfl⟩ := List.mem_map.1 hmem
    exact hextra.unknown m hm hkey
  · rw [if_neg (mt List.contains_iff_mem.1 hkey), get?_extra known hnames hnodup hextra hkey]

end Extra

/-- What was read was there. -/
theorem exists_of_readOptional {read : Json → Option α} {value : Option Json} {a : α}
    (h : Reader.readOptional read value = some (some a)) :
    ∃ given, value = some given ∧ read given = some a := by
  unfold Reader.readOptional at h
  split at h
  · cases h
  · cases h
  · obtain ⟨b, hb, heq⟩ := Option.map_eq_some_iff.1 h
    cases heq
    exact ⟨_, rfl, hb⟩

namespace LaunchArguments

/-- What was read beyond the fields, and the variables, are as they were given. -/
theorem extra_and_env {fields : Json.Fields} {x : LaunchArguments}
    (h : ofJson? (.obj fields) = some x) : x.extra = extraMembers known (.obj fields) ∧
      Reader.readOptional decodeTexts (Json.Fields.find? "env" fields) = some x.env :=
  Ensures.of_named (P := fun x : LaunchArguments => x.extra = extraMembers known (.obj fields) ∧
      Reader.readOptional decodeTexts (Json.Fields.find? "env" fields) = some x.env) h <|
    .bind (.required_named _ _) fun _ _ => .bind (.defaulted_named _ _ _) fun _ _ =>
      .bind (.optional_named _ _) fun _ _ => .bind (.optional_named _ _) fun _ henv =>
        .bind (.defaulted_named _ _ _) fun _ _ => .pure ⟨rfl, henv⟩

/-- An argument list that is left out is read as the empty one. -/
theorem defaulted_args {fields : Json.Fields} {args : List String}
    (h : Json.Fields.find? "args" fields =
      if args.isEmpty then none else some (encodeList Json.str args)) :
    Reader.defaulted "args" [] (decodeList Json.str?) (.named fields) =
      some (args, .named fields) := by
  cases args with
  | nil => exact Reader.defaulted_absent h
  | cons arg rest =>
    rw [Reader.defaulted_named h, retrieves_str.list.read_write]
    rfl

/-- Arguments with extras are read as they are written, if no extra is a field. -/
theorem ofJson?_toJson {x : LaunchArguments} (hextra : IsExtra known x.extra)
    (henv : ∀ env, x.env = some env → env.Pairwise (·.1 < ·.1)) : ofJson? x.toJson = some x := by
  have hsame : extraMembers known x.toJson = x.extra :=
    extraMembers_extra known rfl (by decide) hextra
  unfold ofJson?
  rw [hsame]
  refine Reads.apply_record (.required retrieves_str <| .bind (fun _ => defaulted_args) <|
    .optional retrieves_str <| .optional' (Reader.readOptional_map fun env hsome => ?_) <|
      .defaulted retrieves_bool <| .pure x) (nodup_extra known rfl (by decide) hextra)
  exact ⟨decodeTexts_encodeTexts (henv env hsome), fun h => by cases h⟩

/-- **Arguments of a launch survive** with all that they say. -/
theorem survives {value : Json} (hvalue : value.IsOrdered) {x : LaunchArguments}
    (h : ofJson? value = some x) : ofJson? x.toJson = some x ∧
      ∀ key, key ∉ known → x.toJson.get? key = value.get? key := by
  cases value with
  | obj fields =>
    obtain ⟨hextra, henv⟩ := extra_and_env h
    have hisExtra : IsExtra known x.extra := hextra ▸ isExtra_extraMembers hvalue known
    refine ⟨ofJson?_toJson hisExtra fun env hsome => ?_, fun key hkey => ?_⟩
    · rw [hsome] at henv
      obtain ⟨given, hgiven, hread⟩ := exists_of_readOptional henv
      exact pairwise_of_decodeTexts (hvalue.of_find? hgiven) hread
    · refine (get?_extra known rfl (by decide) hisExtra hkey).trans ?_
      rw [hextra, find?_extraMembers, if_neg (mt List.contains_iff_mem.1 hkey)]
  | _ => cases h

end LaunchArguments

namespace AttachArguments

/-- The arguments of an attachment are one field and the extras. -/
theorem toJson_eq (x : AttachArguments) : x.toJson = Json.record
    ([("pid", x.pid.map ofUInt32)] ++ x.extra.map fun m => (m.1, some m.2)) := rfl

/-- They are read as they are written, if no extra is the field. -/
theorem ofJson?_toJson {x : AttachArguments} (hextra : IsExtra known x.extra) :
    ofJson? x.toJson = some x := by
  have hsame : extraMembers known x.toJson = x.extra := by
    rw [toJson_eq]
    exact extraMembers_extra known rfl (by decide) hextra
  unfold ofJson?
  rw [hsame, toJson_eq]
  exact Reads.apply_record (.optional retrieves_uint32 <| .pure x)
    (nodup_extra known rfl (by decide) hextra)

/-- **Arguments of an attachment survive** with all that they say. -/
theorem survives {value : Json} (hvalue : value.IsOrdered) {x : AttachArguments}
    (h : ofJson? value = some x) : ofJson? x.toJson = some x ∧
      ∀ key, key ∉ known → x.toJson.get? key = value.get? key := by
  cases value with
  | obj fields =>
    have hextra : x.extra = extraMembers known (.obj fields) :=
      Ensures.of_named (P := fun x : AttachArguments => x.extra = extraMembers known (.obj fields))
        h <| .bind (.optional_named _ _) fun _ _ => .pure rfl
    have hisExtra : IsExtra known x.extra := hextra ▸ isExtra_extraMembers hvalue known
    refine ⟨ofJson?_toJson hisExtra, fun key hkey => ?_⟩
    rw [toJson_eq, get?_extra known rfl (by decide) hisExtra hkey, hextra, find?_extraMembers,
      if_neg (mt List.contains_iff_mem.1 hkey)]
  | _ => cases h

end AttachArguments

/-! ### All records -/

/-- What is read from any value at all is read again, the same, from what it is written as. -/
def Survives (read : Json → Option α) (write : α → Json) : Prop :=
  ∀ value x, read value = some x → read (write x) = some x

/-- What is read as it is written survives. -/
theorem Retrieves.survives {read : Json → Option α} {write : α → Json} (h : Retrieves read write) :
    Survives read write := fun _ x _ => h.read_write x

/-- What is read from a value in the order of keys is read again, the same, from what it is written
as, and every member that is not known is written as it was. -/
def SurvivesWhole (known : List String) (read : Json → Option α) (write : α → Json) : Prop :=
  ∀ value : Json, value.IsOrdered → ∀ x, read value = some x → read (write x) = some x ∧
    ∀ key, key ∉ known → (write x).get? key = value.get? key

/-- The records that are both read and written. -/
structure RecordsSurvive : Prop where
  requestMessage : Survives RequestMessage.ofJson? RequestMessage.toJson
  responseMessage : Survives ResponseMessage.ofJson? ResponseMessage.toJson
  eventMessage : Survives EventMessage.ofJson? EventMessage.toJson
  initializeArguments : Survives InitializeArguments.ofJson? InitializeArguments.toJson
  launchArguments :
    SurvivesWhole LaunchArguments.known LaunchArguments.ofJson? LaunchArguments.toJson
  attachArguments :
    SurvivesWhole AttachArguments.known AttachArguments.ofJson? AttachArguments.toJson
  setBreakpointsArguments :
    Survives SetBreakpointsArguments.ofJson? SetBreakpointsArguments.toJson
  setExceptionBreakpointsArguments :
    Survives SetExceptionBreakpointsArguments.ofJson? SetExceptionBreakpointsArguments.toJson
  continueArguments : Survives ContinueArguments.ofJson? ContinueArguments.toJson
  stepArguments : Survives StepArguments.ofJson? StepArguments.toJson
  pauseArguments : Survives PauseArguments.ofJson? PauseArguments.toJson
  stackTraceArguments : Survives StackTraceArguments.ofJson? StackTraceArguments.toJson
  scopesArguments : Survives ScopesArguments.ofJson? ScopesArguments.toJson
  variablesArguments : Survives VariablesArguments.ofJson? VariablesArguments.toJson
  evaluateArguments : Survives EvaluateArguments.ofJson? EvaluateArguments.toJson
  sourceArguments : Survives SourceArguments.ofJson? SourceArguments.toJson
  disconnectArguments : Survives DisconnectArguments.ofJson? DisconnectArguments.toJson
  capabilities : Survives Capabilities.ofJson? Capabilities.toJson
  setBreakpointsBody : Survives SetBreakpointsBody.ofJson? SetBreakpointsBody.toJson
  stackTraceBody : Survives StackTraceBody.ofJson? StackTraceBody.toJson
  threadsBody : Survives ThreadsBody.ofJson? ThreadsBody.toJson
  scopesBody : Survives ScopesBody.ofJson? ScopesBody.toJson
  variablesBody : Survives VariablesBody.ofJson? VariablesBody.toJson
  evaluateBody : Survives EvaluateBody.ofJson? EvaluateBody.toJson
  continueBody : Survives ContinueBody.ofJson? ContinueBody.toJson
  sourceBody : Survives SourceBody.ofJson? SourceBody.toJson
  source : Survives Source.ofJson? Source.toJson
  sourceBreakpoint : Survives SourceBreakpoint.ofJson? SourceBreakpoint.toJson
  descriptor : Survives Descriptor.ofJson? Descriptor.toJson
  stackFrame : Survives StackFrame.ofJson? StackFrame.toJson
  threadInfo : Survives ThreadInfo.ofJson? ThreadInfo.toJson
  scope : Survives Scope.ofJson? Scope.toJson
  scopeVariable : Survives Variable.ofJson? Variable.toJson
  stoppedBody : Survives StoppedBody.ofJson? StoppedBody.toJson
  outputBody : Survives OutputBody.ofJson? OutputBody.toJson
  threadBody : Survives ThreadBody.ofJson? ThreadBody.toJson
  exitedBody : Survives ExitedBody.ofJson? ExitedBody.toJson
  terminatedBody : Survives TerminatedBody.ofJson? TerminatedBody.toJson

/-- **Whatever a record was read from**, an object or a list, with null or missing or unknown
members, **it is read again from what it is written as**. -/
theorem records_survive : RecordsSurvive where
  requestMessage _ _ := RequestMessage.ofJson?_toJson
  responseMessage _ _ := ResponseMessage.ofJson?_toJson
  eventMessage _ _ := EventMessage.ofJson?_toJson
  initializeArguments := InitializeArguments.retrieves.survives
  launchArguments _ hvalue _ := LaunchArguments.survives hvalue
  attachArguments _ hvalue _ := AttachArguments.survives hvalue
  setBreakpointsArguments := SetBreakpointsArguments.retrieves.survives
  setExceptionBreakpointsArguments := SetExceptionBreakpointsArguments.retrieves.survives
  continueArguments := ContinueArguments.retrieves.survives
  stepArguments := StepArguments.retrieves.survives
  pauseArguments := PauseArguments.retrieves.survives
  stackTraceArguments := StackTraceArguments.retrieves.survives
  scopesArguments := ScopesArguments.retrieves.survives
  variablesArguments := VariablesArguments.retrieves.survives
  evaluateArguments := EvaluateArguments.retrieves.survives
  sourceArguments := SourceArguments.retrieves.survives
  disconnectArguments := DisconnectArguments.retrieves.survives
  capabilities := Capabilities.retrieves.survives
  setBreakpointsBody := SetBreakpointsBody.retrieves.survives
  stackTraceBody := StackTraceBody.retrieves.survives
  threadsBody := ThreadsBody.retrieves.survives
  scopesBody := ScopesBody.retrieves.survives
  variablesBody := VariablesBody.retrieves.survives
  evaluateBody := EvaluateBody.retrieves.survives
  continueBody := ContinueBody.retrieves.survives
  sourceBody := SourceBody.retrieves.survives
  source := Source.retrieves.survives
  sourceBreakpoint := SourceBreakpoint.retrieves.survives
  descriptor := Descriptor.retrieves.survives
  stackFrame := StackFrame.retrieves.survives
  threadInfo := ThreadInfo.retrieves.survives
  scope := Scope.retrieves.survives
  scopeVariable := Variable.retrieves.survives
  stoppedBody := StoppedBody.retrieves.survives
  outputBody := OutputBody.retrieves.survives
  threadBody := ThreadBody.retrieves.survives
  exitedBody := ExitedBody.retrieves.survives
  terminatedBody := TerminatedBody.retrieves.survives

/-- Arguments out of order, with a null, an empty list and a member that only the adapter knows. -/
def launchText : String :=
  "\x7b\"stopOnEntry\":true,\"program\":\"a.out\",\"env\":\x7b\"B\":\"2\",\"A\":\"1\"\x7d," ++
    "\"cwd\":null,\"args\":[],\"console\":\"none\"\x7d"

/-- These arguments, and an answer given as a list with nulls at its end. -/
theorem records_survive_scripted :
    (∃ value x, Json.parse launchText = some value ∧ LaunchArguments.ofJson? value = some x ∧
      LaunchArguments.ofJson? x.toJson = some x ∧
      (x.toJson.get? "console").bind Json.str? = some "none") ∧
    ResponseMessage.ofJson?
        (ResponseMessage.toJson ⟨3, "response", 7, false, "launch", none, none⟩) =
      some ⟨3, "response", 7, false, "launch", none, none⟩ := by
  constructor
  · have hread : ((Json.parse launchText).bind LaunchArguments.ofJson?).isSome := by decide +kernel
    have hconsole : ((Json.parse launchText).bind (Json.get? "console")).bind Json.str? =
        some "none" := by decide +kernel
    obtain ⟨x, hx⟩ := Option.isSome_iff_exists.1 hread
    obtain ⟨value, hparse, hdecoded⟩ := Option.bind_eq_some_iff.1 hx
    rw [hparse, Option.bind_some] at hconsole
    obtain ⟨hagain, hextra⟩ :=
      records_survive.launchArguments value (Json.isOrdered_parse hparse) x hdecoded
    rw [← hextra "console" (by decide)] at hconsole
    exact ⟨value, x, hparse, hdecoded, hagain, hconsole⟩
  · have hlist : ResponseMessage.ofJson? (.arr [.int 3, .str "response", .int 7, .bool false,
        .str "launch", .null, .null]) =
          some ⟨3, "response", 7, false, "launch", none, none⟩ := rfl
    exact records_survive.responseMessage _ _ hlist

end Protocol
end DebugConsole
