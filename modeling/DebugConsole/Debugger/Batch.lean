/-
# Calls that are made together

Calls that do not depend on each other's answers are made together.  First they are
sent, in their order; then their answers are awaited, in the order in which these
come.  The first failure ends it:

| a call fails | calls after it | calls before it |
| --- | --- | --- |
| as soon as it is sent | are not sent | are given up where they are not answered |
| later | are given up where they are not answered | the same |

What was sent is on record in the order in which it was sent, answered or not.
-/

import DebugConsole.Debugger.State

namespace DebugConsole

open Protocol

/-- A call as a request on a connection. -/
def Protocol.Call.on {α : Type} (call : Call α) (connection : Nat) : Request :=
  ⟨connection, call.command, call.arguments⟩

/-- A call that was sent, with its answer as soon as there is one. -/
structure Sent (α : Type) where
  call : Call α
  answer : Option (Except Error Json)

namespace Sent

variable {α : Type}

/-- Is its answer still awaited? -/
def isOpen (s : Sent α) : Bool := s.answer.isNone

/-- What its answer means. -/
def result? (s : Sent α) : Option (Except Error α) := s.answer.map s.call.result

/-- The result of a call that has succeeded. -/
def value? (s : Sent α) : Option α :=
  match s.result? with
  | some (.ok value) => some value
  | _ => none

/-- Why a call has failed. -/
def failure? (s : Sent α) : Option Error :=
  match s.result? with
  | some (.error e) => some e
  | _ => none

/-- A call as a question with its answer, if it has one. -/
def exchange? (connection : Nat) (s : Sent α) : Option Exchange :=
  s.answer.map (.request (s.call.on connection) ·)

/-- A call as a question, which was given up for this reason if it has no answer. -/
def exchange (connection : Nat) (reason : Error) (s : Sent α) : Exchange :=
  (s.exchange? connection).getD (.abandoned (s.call.on connection) reason)

/-- Answers the call that has a place among the open ones. -/
def answerAt (answer : Except Error Json) : List (Sent α) → Nat → List (Sent α)
  | [], _ => []
  | s :: rest, place =>
    if s.isOpen then
      if place = 0 then { s with answer := some answer } :: rest
      else s :: answerAt answer rest (place - 1)
    else s :: answerAt answer rest place

/-- What calls that were made together come to, and what was asked. -/
def conclude (connection : Nat) (batch : List (Sent α)) : Except Error (List α) × List Exchange :=
  match batch.findSome? (·.failure?) with
  | some e => (.error e, batch.map (·.exchange connection e))
  | none => (.ok (batch.filterMap (·.value?)), batch.filterMap (·.exchange? connection))

end Sent

namespace Reaction

variable {σ α : Type} [Environment σ]

/-- Sends a request without waiting; its answer may be there at once. -/
def post (asked : Request) : Reaction σ (Option (Except Error Json)) := fun d =>
  let ((answer, arrivals), environment) := Environment.post asked d.environment
  (answer, { d.receive arrivals with environment })

/-- Waits until one of these requests is answered. -/
def await (first : Request) (others : List Request) :
    Reaction σ (Fin (others.length + 1) × Except Error Json) := fun d =>
  let ((place, reply), environment) := Environment.await first others d.environment
  ((place, reply.answer), { d.receive reply.arrivals with environment })

/-- Sends calls in order, up to the first that fails at once. -/
def postEach (connection : Nat) : List (Call α) → Reaction σ (List (Sent α))
  | [] => return []
  | call :: rest => do
    let s : Sent α := ⟨call, ← post (call.on connection)⟩
    if s.failure?.isSome then return [s]
    return s :: (← postEach connection rest)

/-- Waits for at most so many answers, until none is open or a call has failed. -/
def awaitEach (connection : Nat) : Nat → List (Sent α) → Reaction σ (List (Sent α))
  | 0, batch => return batch
  | count + 1, batch => do
    if batch.any (·.failure?.isSome) then return batch
    match batch.filter (·.isOpen) with
    | [] => return batch
    | first :: others =>
      let (place, answer) ← await (first.call.on connection) (others.map (·.call.on connection))
      awaitEach connection count (Sent.answerAt answer batch place)

end Reaction

/-- Makes calls together on the newest connection; the first failure ends it. -/
def Action.sendAll {σ α : Type} [Environment σ] (calls : List (Call α)) : Action σ (List α) :=
  fun d =>
    let connection := d.generation
    let (batch, d) := Reaction.postEach connection calls d
    let (batch, d) := Reaction.awaitEach connection batch.length batch d
    let (result, asked) := Sent.conclude connection batch
    (result, { d with exchanges := asked.reverse ++ d.exchanges })

end DebugConsole
