/-
# What lies outside the debugger

The debugger asks its environment for four things: a connection to an adapter, the
answer to a request, the text of a file, the canonical form of a path.  An
environment is any type of states with answers to these questions
(`Environment`); each answer may depend on everything asked before.

Requests that do not depend on each other's answers are made together: each of them is
posted, and only then are their answers awaited, which come in any order.

Besides the answer, events, the end of the adapter's stream and the answer to the
start request may arrive while a request is under way (`Arrivals`).

`Exchange` is one question with its answer, or a request whose answer was not waited for
any longer.  The debugger keeps the list of them, in the order in which they were asked.
-/

import DebugConsole.Error
import DebugConsole.Protocol.Event

namespace DebugConsole

/-- How an adapter is started. -/
structure Executable where
  command : String
  args : List String := []
deriving DecidableEq, Repr, Inhabited

/-- A request on the connection that was opened as number `connection`. -/
structure Request where
  connection : Nat
  command : String
  arguments : Option Json
deriving Repr, Inhabited

/-- What reaches the debugger from the adapter of the newest connection. -/
structure Arrivals where
  /-- Events, in the order in which they were sent. -/
  events : List Protocol.Event := []
  /-- The stream of events ends after those. -/
  ended : Bool := false
  /-- The answer to the launch or attach request. -/
  started : Option (Except Error Unit) := none
deriving Inhabited

/-- The answer to a request, and what arrived before it. -/
structure Reply where
  answer : Except Error Json
  arrivals : Arrivals := {}

/-- A place among one request and others, counted from the first and round again. -/
def placeAmong (others : List Request) (place : Nat) : Fin (others.length + 1) :=
  ⟨place % (others.length + 1), Nat.mod_lt place (Nat.succ_pos others.length)⟩

/-- Answers to what the debugger asks, from a state of type `σ`. -/
class Environment (σ : Type) where
  /-- Starts an adapter and connects to it. -/
  connect : Executable → σ → Except Error Unit × σ
  /-- Sends a request and waits for its answer. -/
  request : Request → σ → Reply × σ
  /-- Sends one of several requests that are made together, without waiting.  Its answer may be
  there at once; where nothing else is said it always is. -/
  post : Request → σ → (Option (Except Error Json) × Arrivals) × σ := fun asked environment =>
    let (reply, environment) := request asked environment
    ((some reply.answer, reply.arrivals), environment)
  /-- Waits until one of the posted requests without an answer has one, and gives its place among
  them.  Where all are answered at once none is awaited; it would be the first. -/
  await : (first : Request) → (others : List Request) → σ →
      (Fin (others.length + 1) × Reply) × σ := fun first others environment =>
    let (reply, environment) := request first environment
    ((placeAmong others 0, reply), environment)
  /-- Sends a launch or attach request without waiting. -/
  start : Request → σ → Arrivals × σ
  /-- Reads a file as text. -/
  readFile : String → σ → Except FileProblem String
  /-- The absolute path without links and dots, where the file exists. -/
  canonical? : String → σ → Option String

/-- One question to the environment, with its answer. -/
inductive Exchange where
  | connect (executable : Executable) (outcome : Except Error Unit)
  | request (request : Request) (answer : Except Error Json)
  /-- A request was made together with others and given up before it was answered, because one of
  them had failed. -/
  | abandoned (request : Request) (reason : Error)
  | start (request : Request)
  | read (path : String) (outcome : Except FileProblem String)
  | resolve (path : String) (outcome : Option String)

/-- The path that was asked about. -/
def Exchange.path? : Exchange → Option String
  | .read path _ => some path
  | .resolve path _ => some path
  | _ => none

end DebugConsole
