/-
# What the simulated adapter does with a request

Each request is answered by one response, and what follows it are events; other messages are not
answered (`isAnswered_answers`).  Of what the adapter knows most stays with a request:

| | changed by |
| --- | --- |
| whether it has attached to the program | `launch`, `attach` |
| the lines of the paths | `setBreakpoints` |
| the lines ahead | `configurationDone`, `continue` |
| where the program stands | these two, `next`, `stepIn` |
| whether it was disconnected | `disconnect` |

`Effect` says how, once for all commands.
-/

import DebugConsole.Adapter.Simulated
import DebugConsole.Proofs.Objects

namespace DebugConsole
namespace Simulation

/-! ### Messages -/

/-- The command of a request; other messages have none. -/
def command? (message : Json) : Option String :=
  if (message.get? "type").bind Json.str? = some "request" then
    some (((message.get? "command").bind Json.str?).getD "")
  else none

/-- The arguments of a request. -/
def argumentsOf (message : Json) : Json := (message.get? "arguments").getD (.obj [])

/-- What is sent for a message. -/
def answers (message : Json) (s : Simulation) : List Json := (respond message s).1

/-- The adapter after a message. -/
def next (message : Json) (s : Simulation) : Simulation := (respond message s).2

/-- The adapter after some messages. -/
def after (messages : List Json) (s : Simulation) : Simulation :=
  messages.foldl (fun s message => next message s) s

/-- Everything that is sent for some messages. -/
def replies : List Json → Simulation → List Json
  | [], _ => []
  | message :: rest, s => answers message s ++ replies rest (next message s)

/-- A message is an event with a name. -/
def IsEvent (name : String) (message : Json) : Prop :=
  (message.get? "type").bind Json.str? = some "event" ∧
    (message.get? "event").bind Json.str? = some name

/-- A message is the response to a request, with a body. -/
structure IsResponse (request body : Json) (message : Json) : Prop where
  type : (message.get? "type").bind Json.str? = some "response"
  request_seq : message.get? "request_seq" = some (.int (number request "seq"))
  body : message.get? "body" = some body

/-! ### What a request does -/

/-- The path that lines are set for. -/
def pathOf (arguments : Json) : String :=
  (((arguments.get? "source").bind (·.get? "path")).bind Json.str?).getD "unknown"

/-- The lines that are asked for and can be verified, in their order. -/
def verifiableLines (arguments : Json) : List Nat :=
  (((arguments.get? "breakpoints").bind Json.arr?).getD []).filterMap fun breakpoint =>
    match breakpoint.get? "line" with
    | some (.int n) => if 0 ≤ n ∧ n < 10000 then some n.toNat else none
    | _ => none

/-- What follows when the program is resumed: it stops at a line, or it is over. -/
def outcome : Option Location → List String
  | some _ => ["stopped"]
  | none => ["output", "exited", "terminated"]

/-- Does a command let the program stand somewhere else? -/
def movesOn (command : String) : Bool :=
  ["configurationDone", "continue", "next", "stepIn"].contains command

/-- What a message with a command, or with none, does to the adapter, but for the numbers that it
gives out; what follows the answer are events. -/
structure Effect (command? : Option String) (arguments : Json) (s : Simulation)
    (followers : List Json) (s' : Simulation) : Prop where
  attached : s'.attached =
    if command? = some "launch" then false
    else if command? = some "attach" then true else s.attached
  disconnected : s'.disconnected = (s.disconnected || command? = some "disconnect")
  breakpoints : s'.breakpoints =
    if command? = some "setBreakpoints" then
      setLines (pathOf arguments) (verifiableLines arguments) s.breakpoints
    else s.breakpoints
  ahead : s'.ahead =
    if command? = some "configurationDone" then
      if s.attached then hits s.breakpoints else (hits s.breakpoints).tail
    else if command? = some "continue" then s.ahead.tail else s.ahead
  location : command?.all (!movesOn ·) → s'.location = s.location
  events : ∀ e ∈ followers, ∃ name, IsEvent name e

/-- An event takes one number and changes nothing else. -/
theorem event_spec (name : String) (body : Json) (s : Simulation) :
    (event name body s).2 = { s with seq := s.seq + 1 } ∧ IsEvent name (event name body s).1 := by
  have hevent : (event name body s).1 = Json.object
    [("seq", .int (s.seq + 1 : Nat)), ("type", "event"), ("event", name), ("body", body)] := rfl
  refine ⟨rfl, ?_⟩
  rw [hevent, IsEvent, Json.get?_object (by simp), Json.get?_object (by simp)]
  exact ⟨rfl, rfl⟩

/-- The program goes on to the next line ahead, or to its end. -/
theorem resume_spec (s : Simulation) :
    ∃ seq, (resume s).2 = { s with seq, ahead := s.ahead.tail, location := s.ahead.head? } ∧
      List.Forall₂ IsEvent (outcome s.ahead.head?) (resume s).1 := by
  obtain ⟨seq, attached, disconnected, breakpointCount, breakpoints, ahead, location⟩ := s
  cases ahead with
  | nil =>
    exact ⟨_, rfl, .cons (event_spec "output" _ _).2 <| .cons (event_spec "exited" _ _).2 <|
      .cons (event_spec "terminated" _ _).2 .nil⟩
  | cons hit rest => exact ⟨_, rfl, .cons (event_spec "stopped" _ _).2 .nil⟩

/-- Ids are given to the lines that can be verified, and nothing else changes. -/
theorem verify_spec (path : String) (lines : List Nat) (s : Simulation) :
    ∃ breakpointCount, (verify path lines s).2 = { s with breakpointCount } ∧
      (verify path lines s).1.2 = lines.filter (· < unverifiableLine) := by
  induction lines generalizing s with
  | nil => exact ⟨_, rfl, rfl⟩
  | cons line rest ih =>
    unfold verify
    by_cases hline : unverifiableLine ≤ line
    · obtain ⟨count, hstate, hlines⟩ := ih s
      rw [if_pos hline, List.filter_cons_of_neg (by simpa using hline)]
      exact ⟨count, hstate, hlines⟩
    · obtain ⟨count, hstate, hlines⟩ := ih { s with breakpointCount := s.breakpointCount + 1 }
      rw [if_neg hline, List.filter_cons_of_pos (by simpa using hline)]
      exact ⟨count, hstate, congrArg (line :: ·) hlines⟩

/-- The lines that are asked for and can be verified are those that are set. -/
theorem filter_requestedLines (arguments : Json) :
    (requestedLines arguments).filter (· < unverifiableLine) = verifiableLines arguments := by
  rw [requestedLines, List.filter_filterMap, verifiableLines]
  refine List.filterMap_congr fun breakpoint _ => ?_
  cases breakpoint.get? "line" with
  | none => rfl
  | some value =>
    cases value with
    | int n =>
      rw [Option.bind_some, unsigned?, Json.uint64?, unverifiableLine]
      dsimp only
      by_cases hword : 0 ≤ n ∧ n < 0x10000000000000000
      · have hnat : (UInt64.ofNat n.toNat).toNat = n.toNat :=
          UInt64.toNat_ofNat_of_lt' (by rw [UInt64.size]; omega)
        have hlow : n.toNat < 10000 ↔ 0 ≤ n ∧ n < 10000 := by omega
        rw [if_pos hword, Option.map_some, hnat, Option.filter_some]
        exact if_congr (decide_eq_true_iff.trans hlow) rfl rfl
      · rw [if_neg hword, if_neg (by omega)]
        rfl
    | _ => rfl

/-- The lines of a path are set. -/
theorem perform_setBreakpoints (arguments : Json) (s : Simulation) : ∃ breakpointCount,
    (perform "setBreakpoints" arguments s).2 = { s with
      breakpointCount
      breakpoints := setLines (pathOf arguments) (verifiableLines arguments) s.breakpoints } := by
  obtain ⟨count, hstate, hlines⟩ := verify_spec (pathOf arguments) (requestedLines arguments) s
  rw [filter_requestedLines] at hlines
  have hrun : (perform "setBreakpoints" arguments s).2 =
      let verified := verify (pathOf arguments) (requestedLines arguments) s
      { verified.2 with
        breakpoints := setLines (pathOf arguments) verified.1.2 verified.2.breakpoints } := rfl
  rw [hrun]
  dsimp only
  rw [hstate, hlines]
  exact ⟨count, rfl⟩

/-- The end of the configuration starts the program, which runs to its first stop. -/
theorem perform_configurationDone (arguments : Json) (s : Simulation) :
    let s₁ := { s with ahead := hits s.breakpoints }
    perform "configurationDone" arguments s =
      if s.attached then ({}, s₁) else ({ followers := (resume s₁).1 }, (resume s₁).2) := by
  intro s₁
  have hrun : perform "configurationDone" arguments s = (if s₁.attached then pure {}
    else do return { followers := ← resume } : Handler Answer) s₁ := rfl
  rw [hrun]
  split_ifs <;> rfl

/-- A launched program is resumed when it is configured. -/
theorem perform_configurationDone_of_launched {s : Simulation} (h : s.attached = false)
    (arguments : Json) : ∃ seq,
      (perform "configurationDone" arguments s).2 =
        { s with seq, ahead := (hits s.breakpoints).tail, location := (hits s.breakpoints).head? } ∧
      List.Forall₂ IsEvent (outcome (hits s.breakpoints).head?)
        (perform "configurationDone" arguments s).1.followers := by
  have hrun := (perform_configurationDone arguments s).trans (if_neg (Bool.not_eq_true _ ▸ h))
  rw [hrun]
  exact resume_spec { s with ahead := hits s.breakpoints }

/-- Going on leads to the next stop ahead, if there is one. -/
theorem perform_continue (arguments : Json) (s : Simulation) : ∃ seq,
    (perform "continue" arguments s).2 =
      { s with seq, ahead := s.ahead.tail, location := s.ahead.head? } ∧
    List.Forall₂ IsEvent ("continued" :: outcome s.ahead.head?)
      (perform "continue" arguments s).1.followers := by
  obtain ⟨hstate, hcontinued⟩ := event_spec "continued" (Json.object
    [("threadId", .int 1), ("allThreadsContinued", true)]) s
  obtain ⟨seq, heq, hevents⟩ := resume_spec { s with seq := s.seq + 1 }
  rw [← hstate] at heq hevents
  exact ⟨seq, heq, .cons hcontinued hevents⟩

/-- All messages in a list of events are events. -/
theorem exists_isEvent {names : List String} {events : List Json}
    (h : List.Forall₂ IsEvent names events) : ∀ e ∈ events, ∃ name, IsEvent name e := by
  induction h with
  | nil => exact nofun
  | cons hfirst _ ih => exact List.forall_mem_cons.2 ⟨⟨_, hfirst⟩, ih⟩

/-- `setBreakpoints` has the effect of setting the lines that can be verified. -/
theorem effect_setBreakpoints (arguments : Json) (s : Simulation) :
    Effect (some "setBreakpoints") arguments s (perform "setBreakpoints" arguments s).1.followers
      (perform "setBreakpoints" arguments s).2 := by
  obtain ⟨count, heq⟩ := perform_setBreakpoints arguments s
  rw [heq]
  exact ⟨rfl, (Bool.or_false _).symm, rfl, rfl, fun _ => rfl, nofun⟩

/-- `configurationDone` has the effect of a program that runs to its first stop. -/
theorem effect_configurationDone (arguments : Json) (s : Simulation) :
    Effect (some "configurationDone") arguments s
      (perform "configurationDone" arguments s).1.followers
      (perform "configurationDone" arguments s).2 := by
  cases hattached : s.attached with
  | true =>
    have hrun := (perform_configurationDone arguments s).trans (if_pos hattached)
    rw [hrun]
    exact ⟨rfl, (Bool.or_false _).symm, rfl, (if_pos hattached).symm, nofun, nofun⟩
  | false =>
    obtain ⟨seq, heq, hevents⟩ := perform_configurationDone_of_launched hattached arguments
    rw [heq]
    exact ⟨rfl, (Bool.or_false _).symm, rfl, (if_neg (Bool.not_eq_true _ ▸ hattached)).symm, nofun,
      exists_isEvent hevents⟩

/-- `continue` has the effect of a program that runs to its next stop. -/
theorem effect_continue (arguments : Json) (s : Simulation) :
    Effect (some "continue") arguments s (perform "continue" arguments s).1.followers
      (perform "continue" arguments s).2 := by
  obtain ⟨seq, heq, hevents⟩ := perform_continue arguments s
  rw [heq]
  exact ⟨rfl, (Bool.or_false _).symm, rfl, rfl, nofun, exists_isEvent hevents⟩

/-- **What a request does**, by its command. -/
theorem effect_perform (command : String) (arguments : Json) (s : Simulation) :
    Effect (some command) arguments s (perform command arguments s).1.followers
      (perform command arguments s).2 := by
  have hone (name : String) (body : Json) (s : Simulation) :
      ∀ e ∈ [(event name body s).1], ∃ name, IsEvent name e :=
    exists_isEvent (.cons (event_spec name body s).2 .nil)
  unfold perform
  split
  -- the commands in their order: first `launch`, `attach` and `pause`, with one event each; those
  -- left over do nothing but answer
  case h_2 | h_3 | h_16 =>
    exact ⟨rfl, (Bool.or_false _).symm, rfl, rfl, fun _ => rfl, hone _ _ _⟩
  case h_4 => exact effect_setBreakpoints arguments s
  case h_6 => exact effect_configurationDone arguments s
  case h_11 =>
    refine ⟨rfl, (Bool.or_false _).symm, rfl, rfl, fun _ => rfl, ?_⟩
    show ∀ e ∈ (evaluate _).followers, _
    unfold evaluate
    split <;> exact nofun
  case h_12 => split <;> exact ⟨rfl, (Bool.or_false _).symm, rfl, rfl, fun _ => rfl, nofun⟩
  case h_13 => exact effect_continue arguments s
  case h_14 | h_15 => exact ⟨rfl, (Bool.or_false _).symm, rfl, rfl, nofun, hone _ _ _⟩
  case h_17 => exact ⟨rfl, (Bool.or_true _).symm, rfl, rfl, fun _ => rfl, nofun⟩
  case h_18 =>
    have hother {name : String} (hne : command = name → False) : some command ≠ some name :=
      fun heq => hne (Option.some.inj heq)
    refine ⟨?_, ?_, ?_, ?_, fun _ => rfl, nofun⟩
    · rw [if_neg (hother ‹command = "launch" → False›),
        if_neg (hother ‹command = "attach" → False›)]
      rfl
    · rw [decide_eq_false (hother ‹command = "disconnect" → False›), Bool.or_false]
      rfl
    · rw [if_neg (hother ‹command = "setBreakpoints" → False›)]
      rfl
    · rw [if_neg (hother ‹command = "configurationDone" → False›),
        if_neg (hother ‹command = "continue" → False›)]
      rfl
  all_goals exact ⟨rfl, (Bool.or_false _).symm, rfl, rfl, fun _ => rfl, nofun⟩

/-! ### What a message does -/

/-- What is no request is ignored. -/
theorem respond_of_none {message : Json} (h : command? message = none) (s : Simulation) :
    respond message s = ([], s) := by
  have hother : (message.get? "type").bind Json.str? ≠ some "request" := by
    intro hrequest
    rw [command?, if_pos hrequest] at h
    cases h
  rw [respond, if_pos hother]
  rfl

/-- The response to a request. -/
def responseTo (request : Json) (command : String) (answer : Answer) (seq : Nat) : Json :=
  Json.record
    [ ("seq", some (.int seq)), ("type", some "response"),
      ("request_seq", some (.int (number request "seq"))),
      ("success", some answer.success), ("command", some command), ("body", some answer.body),
      ("message", if answer.success then none else some answer.reason) ]

/-- A response carries the number of its request and the body it was given. -/
theorem isResponse_responseTo (request : Json) (command : String) (answer : Answer) (seq : Nat) :
    IsResponse request answer.body (responseTo request command answer seq) := by
  obtain ⟨success, body, followers⟩ := answer
  cases success <;> refine ⟨?_, ?_, ?_⟩ <;>
    rw [responseTo, Json.record, Json.get?_object (by simp)] <;> rfl

/-- A request is carried out, and the response comes before what follows it. -/
theorem respond_of_command {message : Json} {command : String}
    (h : command? message = some command) (s : Simulation) : respond message s =
      let run := perform command (argumentsOf message) s
      (responseTo message command run.1 (run.2.seq + 1) :: run.1.followers,
        { run.2 with seq := run.2.seq + 1 }) := by
  have hrequest : (message.get? "type").bind Json.str? = some "request" := by
    by_contra hother
    rw [command?, if_neg hother] at h
    cases h
  rw [command?, if_pos hrequest] at h
  rw [respond, if_neg (not_not_intro hrequest), ← Option.some.inj h]
  rfl

/-- A message with a command is answered by one response, before all events. -/
theorem answers_of_command {message : Json} {command : String}
    (h : command? message = some command) (s : Simulation) : ∃ response,
      answers message s =
        response :: (perform command (argumentsOf message) s).1.followers ∧
      IsResponse message (perform command (argumentsOf message) s).1.body response := by
  rw [answers, respond_of_command h]
  exact ⟨_, rfl, isResponse_responseTo ..⟩

/-- **What a message does**, by its command. -/
theorem effect_next (message : Json) (s : Simulation) :
    Effect (command? message) (argumentsOf message) s (answers message s).tail
      (next message s) := by
  cases h : command? message with
  | none =>
    rw [answers, next, respond_of_none h]
    exact ⟨rfl, (Bool.or_false _).symm, rfl, rfl, fun _ => rfl, nofun⟩
  | some command =>
    have heffect := effect_perform command (argumentsOf message) s
    rw [answers, next, respond_of_command h]
    exact ⟨heffect.attached, heffect.disconnected, heffect.breakpoints, heffect.ahead,
      heffect.location, heffect.events⟩

/-- The path and the lines that a message sets. -/
def setting? (message : Json) : Option (String × List Nat) :=
  if command? message = some "setBreakpoints" then
    some (pathOf (argumentsOf message), verifiableLines (argumentsOf message))
  else none

/-- Only `setBreakpoints` changes the lines that are set, for one path. -/
theorem breakpoints_next (message : Json) (s : Simulation) : (next message s).breakpoints =
    (setting? message).elim s.breakpoints fun set => setLines set.1 set.2 s.breakpoints := by
  rw [(effect_next message s).breakpoints, setting?]
  split <;> rfl

/-- After one message more the adapter is one step further. -/
theorem after_append (messages : List Json) (message : Json) (s : Simulation) :
    after (messages ++ [message]) s = next message (after messages s) := List.foldl_concat ..

/-- The program stays at a line until it moves on. -/
theorem location_after {messages : List Json}
    (h : ∀ message ∈ messages, (command? message).all (!movesOn ·)) (s : Simulation) :
    (after messages s).location = s.location := by
  induction messages generalizing s with
  | nil => rfl
  | cons message rest ih =>
    exact (ih (fun message hmem => h message (List.mem_cons_of_mem _ hmem)) _).trans
      ((effect_next message s).location (h message List.mem_cons_self))

/-- A request is answered by one response that carries its number, before its events; what is no
request is not answered. -/
def IsAnswered (message : Json) (sent : List Json) : Prop :=
  match command? message with
  | none => sent = []
  | some _ => ∃ response body events, sent = response :: events ∧
      IsResponse message body response ∧ ∀ e ∈ events, ∃ name, IsEvent name e

/-- Whatever the message says, it is answered. -/
theorem isAnswered_answers (message : Json) (s : Simulation) :
    IsAnswered message (answers message s) := by
  rw [IsAnswered]
  cases h : command? message with
  | none => exact congrArg Prod.fst (respond_of_none h s)
  | some command =>
    obtain ⟨response, hsent, hresponse⟩ := answers_of_command h s
    exact ⟨response, _, _, hsent, hresponse, (effect_perform command _ s).events⟩

end Simulation
end DebugConsole
