/-
# Requests in flight

A client numbers its requests 1, 2, 3, … and enters each into its table before it
is written.  Requests that are sent at the same time may take these steps in any
order.  The reader takes the adapter's messages one by one:

| message | |
| --- | --- |
| response with the number of a request in the table | kept for the request, which leaves it |
| any other response | dropped |
| event | kept for the session |
| request, any other type, malformed, no JSON | dropped |

When the stream ends the reader empties the table and stops; it does not look
again.  A request is over once it was written and found its response or the end
of the stream, when it could not be written, or when its time was up.

`Client.step` is one occurrence; requests, reader and clock may take turns in any
order.
-/

import DebugConsole.Error
import DebugConsole.Json.Reader
import DebugConsole.Json.Writer
import DebugConsole.Protocol.Event

namespace DebugConsole

open Protocol

/-- What an answer to a command means. -/
def Protocol.ResponseMessage.result (command : String) (response : ResponseMessage) :
    Except Error Json :=
  if response.success then .ok (Json.ofOption response.body)
  else .error (.requestFailed command (response.message.getD "Unknown error"))

/-- What the reader makes of a message. -/
inductive Heard where
  | response (response : ResponseMessage)
  | event (event : Event)
  /-- A request, any other type, a malformed message or no JSON. -/
  | nothing

/-- Reads a message. -/
def Heard.ofText (text : String) : Heard :=
  match Json.parse text with
  | none => .nothing
  | some message =>
    match (message.get? "type").bind Json.str? with
    | some "response" => (ResponseMessage.ofJson? message).elim .nothing .response
    | some "event" => (EventMessage.ofJson? message).elim .nothing (.event ∘ Event.ofMessage)
    | _ => .nothing

/-- Where a request that was entered stands with the reader. -/
inductive Slot where
  /-- It is in the table. -/
  | tabled
  | answered (response : ResponseMessage)
  /-- It was taken out of the table without a response. -/
  | dropped

namespace Slot

/-- Keeps a response for a request in the table. -/
def answer (response : ResponseMessage) : Slot → Slot
  | .tabled => .answered response
  | slot => slot

/-- Takes a request out of the table. -/
def drop : Slot → Slot
  | .tabled => .dropped
  | slot => slot

/-- How a written request ends, once the reader has left something for it. -/
def result? (command : String) : Slot → Option (Except Error Json)
  | .tabled => none
  | .answered response => some (response.result command)
  | .dropped => some (.error .adapterCrashed)

end Slot

/-- How far a request has come. -/
inductive Ticket.Stage where
  /-- It is not in the table yet. -/
  | numbered
  /-- It was entered into the table, and is being written. -/
  | entered (slot : Slot)
  | written (slot : Slot)
  | ended (outcome : Except Error Json)

/-- Changes what the reader keeps of a request. -/
def Ticket.Stage.onSlot (f : Slot → Slot) : Ticket.Stage → Ticket.Stage
  | .entered slot => .entered (f slot)
  | .written slot => .written (f slot)
  | stage => stage

/-- A request of a client. -/
structure Ticket where
  seq : Nat
  command : String
  stage : Ticket.Stage := .numbered

namespace Ticket

/-- How the request ended, once it has. -/
def outcome (t : Ticket) : Option (Except Error Json) :=
  match t.stage with
  | .ended outcome => some outcome
  | _ => none

/-- Enters the request into the table. -/
def enter (t : Ticket) : Ticket :=
  match t.stage with
  | .numbered => { t with stage := .entered .tabled }
  | _ => t

/-- A request that was written. -/
def write (t : Ticket) : Ticket :=
  match t.stage with
  | .entered slot => { t with stage := .written slot }
  | _ => t

/-- A request that could not be written; it leaves the table, and a response is lost. -/
def refuse (reason : String) (t : Ticket) : Ticket :=
  match t.stage with
  | .entered _ => { t with stage := .ended (.error (.inputOutput reason)) }
  | _ => t

/-- A request whose time is up; it leaves the table.  One that found something is not concerned. -/
def expire (seconds : Nat) (t : Ticket) : Ticket :=
  match t.stage with
  | .written .tabled => { t with stage := .ended (.error (.timeout t.command seconds)) }
  | _ => t

/-- Ends a written request with what the reader left for it. -/
def finish (t : Ticket) : Ticket :=
  match t.stage with
  | .written slot =>
    match slot.result? t.command with
    | some outcome => { t with stage := .ended outcome }
    | none => t
  | _ => t

/-- Keeps a response for its request. -/
def answer (response : ResponseMessage) (t : Ticket) : Ticket :=
  if (t.seq : Int) = response.requestSeq.toInt then
    { t with stage := t.stage.onSlot (·.answer response) }
  else t

/-- Takes the request out of the table. -/
def drop (t : Ticket) : Ticket := { t with stage := t.stage.onSlot Slot.drop }

end Ticket

/-- The requests of a connection and what its reader has heard. -/
structure Client where
  /-- The number of the next request. -/
  nextSeq : Nat := 1
  /-- Every request, oldest first. -/
  tickets : List Ticket := []
  /-- Events that were heard, oldest first. -/
  events : List Event := []
  /-- The reader has stopped. -/
  ended : Bool := false

namespace Client

/-- One occurrence in the life of a client. -/
inductive Step where
  | numbered (command : String)
  | entered (seq : Nat)
  | written (seq : Nat)
  | unwritable (seq : Nat) (reason : String)
  | heard (text : String)
  | streamEnded
  | expired (seq seconds : Nat)
  | finished (seq : Nat)
deriving DecidableEq, Repr, Inhabited

/-- The request with a number. -/
def ticket? (seq : Nat) (c : Client) : Option Ticket := c.tickets.find? (·.seq = seq)

/-- How the request with a number ended. -/
def outcome? (seq : Nat) (c : Client) : Option (Except Error Json) :=
  (c.ticket? seq).bind Ticket.outcome

/-- Changes every request. -/
def onTickets (f : Ticket → Ticket) (c : Client) : Client := { c with tickets := c.tickets.map f }

/-- Changes the request with a number. -/
def onTicket (seq : Nat) (f : Ticket → Ticket) (c : Client) : Client :=
  c.onTickets fun t => if t.seq = seq then f t else t

/-- Gives a request the next number. -/
def number (command : String) (c : Client) : Client where
  nextSeq := c.nextSeq + 1
  tickets := c.tickets ++ [{ seq := c.nextSeq, command }]
  events := c.events
  ended := c.ended

/-- The message of a request. -/
def requestMessage (seq : Nat) (command : String) (arguments : Option Json) : RequestMessage :=
  RequestMessage.ofCommand (Int64.ofNat seq) command arguments

/-- The reader takes one message. -/
def hear (text : String) (c : Client) : Client :=
  if c.ended then c
  else
    match Heard.ofText text with
    | .response response => c.onTickets (·.answer response)
    | .event event => { c with events := c.events ++ [event] }
    | .nothing => c

/-- The reader stops and empties the table. -/
def endStream (c : Client) : Client :=
  if c.ended then c else { c.onTickets Ticket.drop with ended := true }

/-- Goes on by one occurrence. -/
def step (c : Client) : Step → Client
  | .numbered command => c.number command
  | .entered seq => c.onTicket seq Ticket.enter
  | .written seq => c.onTicket seq Ticket.write
  | .unwritable seq reason => c.onTicket seq (·.refuse reason)
  | .heard text => c.hear text
  | .streamEnded => c.endStream
  | .expired seq seconds => c.onTicket seq (·.expire seconds)
  | .finished seq => c.onTicket seq Ticket.finish

end Client
end DebugConsole
