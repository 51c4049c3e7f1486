/-
# Adapter programs

An adapter program reads requests and writes bytes.  There are two that need no
debugger on the machine:

| program | |
| --- | --- |
| `simulated` | the simulated adapter; it exits after `disconnect` |
| `recorded` | it writes the n-th of a list of answers after the n-th request, then exits or hangs |

A recorded program keeps the requests it has read.  A program that has exited
reads nothing.
-/

import DebugConsole.Adapter.Simulated

namespace DebugConsole

/-- A program with prepared answers. -/
structure Recording where
  /-- What is left to be written, answer by answer. -/
  answers : List (List UInt8) := []
  /-- The program stays behind the last answer and says nothing more. -/
  hangs : Bool := false
  /-- The requests it has read, oldest first. -/
  heard : List Json := []
deriving Inhabited

/-- An adapter program. -/
inductive Program where
  | simulated (state : Simulation)
  | recorded (recording : Recording)
deriving Inhabited

namespace Program

/-- Has the program exited? -/
def exited : Program → Bool
  | .simulated s => s.disconnected
  | .recorded r => r.answers.isEmpty && !r.hangs

/-- The program reads the text of a request: what it writes.  A text that is no JSON is passed
over. -/
def read (text : String) (program : Program) : List UInt8 × Program :=
  match program, Json.parse text with
  | _, none => ([], program)
  | .simulated s, some request =>
    if s.disconnected then ([], program)
    else
      let (sent, s) := (Simulation.respond request).run s
      (sent.flatMap Simulation.send, .simulated s)
  | .recorded r, some request =>
    match r.answers with
    | [] => ([], program)
    | answer :: rest =>
      (answer, .recorded { r with answers := rest, heard := r.heard ++ [request] })

/-- The requests that a recorded program has read. -/
def heard : Program → List Json
  | .simulated _ => []
  | .recorded r => r.heard

end Program
end DebugConsole
