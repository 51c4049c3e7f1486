/-
# The debugger

A debugger drives at most one session with an adapter at a time.  Its phase says
how far the program is:

| phase | |
| --- | --- |
| `initializing` | the adapter has not said that it is ready |
| `configuring` | the user sets breakpoints; `run` goes on |
| `running`, `stopped` | the program runs, or stands at some line |
| `terminated` | the program is gone |

An operation is an `Action`: it changes the debugger, also where it fails.  What
happens without the user is a `Reaction`, which never fails.
-/

import DebugConsole.Breakpoint
import DebugConsole.Console
import DebugConsole.Debugger.Environment
import DebugConsole.Protocol.Call
import DebugConsole.SourceText
import DebugConsole.Thread

namespace DebugConsole

open Protocol

/-- How far the program is. -/
inductive Phase where
  | initializing
  | configuring
  | running
  | stopped
  | terminated
deriving DecidableEq, Repr, Inhabited

namespace Phase

/-- The word for a phase. -/
def name : Phase → String
  | .initializing => "initializing"
  | .configuring => "configuring"
  | .running => "running"
  | .stopped => "stopped"
  | .terminated => "terminated"

/-- Has the program been started? -/
def isStarted : Phase → Bool
  | .initializing => false
  | .configuring => false
  | _ => true

end Phase

/-- How the adapter gets hold of the program. -/
inductive StartMode where
  | launch (args : LaunchArguments)
  | attach (args : AttachArguments)
deriving Repr, Inhabited

namespace StartMode

/-- The request that starts the program. -/
def call : StartMode → Call Unit
  | .launch args => Call.launch args
  | .attach args => Call.attach args

/-- Is the program launched by the adapter? -/
def isLaunch : StartMode → Bool
  | .launch _ => true
  | .attach _ => false

end StartMode

/-- Everything needed to start a session. -/
structure Target where
  executable : Executable
  /-- Tells the adapter which kind of adapter it is taken for. -/
  adapterId : String
  mode : StartMode
deriving Repr, Inhabited

/-- How far the request is that starts the program. -/
inductive StartProgress where
  /-- It will be sent as soon as the current operation is over. -/
  | unsent (mode : StartMode)
  | awaiting
  | answered (result : Except Error Unit)
deriving Inhabited

/-- An open session with an adapter. -/
structure Session where
  /-- Events that have arrived and were not handled. -/
  inbox : List Event := []
  /-- The adapter's stream has ended. -/
  ended : Bool := false
  /-- The end of the stream was handed out. -/
  endReported : Bool := false
  /-- The request that starts the program, until its answer is handed out. -/
  start : Option StartProgress := none
deriving Inhabited

/-- The debugger with its environment. -/
structure Debugger (σ : Type) where
  environment : σ
  console : Console := {}
  target : Option Target := none
  session : Option Session := none
  /-- How many connections were opened; also the number of the session. -/
  generation : Nat := 0
  phase : Phase := .initializing
  capabilities : Capabilities := {}
  breakpoints : Breakpoints := {}
  threads : Threads := {}
  texts : SourceTexts := {}
  /-- Categories of output that are not shown. -/
  suppressed : List String := ["stderr", "telemetry"]
  /-- The program the debugger was attached to is gone, so the console should end. -/
  shutdownRequested : Bool := false
  /-- What was asked of the environment, last first. -/
  exchanges : List Exchange := []

/-- What happens without the user; it never fails. -/
abbrev Reaction (σ α : Type) := StateM (Debugger σ) α

/-- An operation of the user; a failure keeps what was changed before it. -/
abbrev Action (σ α : Type) := ExceptT Error (StateM (Debugger σ)) α

namespace Session

/-- Takes in what arrived; nothing follows the end of the stream. -/
def receive (s : Session) (arrivals : Arrivals) : Session where
  inbox := if s.ended then s.inbox else s.inbox ++ arrivals.events
  ended := s.ended || arrivals.ended
  endReported := s.endReported
  start :=
    match s.start, arrivals.started with
    | some .awaiting, some result => some (.answered result)
    | start, _ => start

end Session

namespace Debugger

variable {σ : Type}

/-- Is the adapter to launch the program? -/
def launches (d : Debugger σ) : Bool := d.target.any (·.mode.isLaunch)

/-- Was the debugger told to attach to a program? -/
def attaches (d : Debugger σ) : Bool := d.target.any (!·.mode.isLaunch)

/-- Does anything that arrives on a connection still reach a session?  Only the connection of
the open session counts, until its stream has ended. -/
def listensTo (connection : Nat) (d : Debugger σ) : Bool :=
  d.generation = connection && d.session.any (!·.ended)

/-- Takes in what arrived for the open session. -/
def receive (arrivals : Arrivals) (d : Debugger σ) : Debugger σ :=
  { d with session := d.session.map (·.receive arrivals) }

end Debugger

namespace Reaction

variable {σ : Type}

/-- Changes the console. -/
def onConsole (f : Console → Console) : Reaction σ Unit :=
  modify fun d => { d with console := f d.console }

/-- Writes a line. -/
def say (line : String) : Reaction σ Unit := onConsole (·.writeLine line)

/-- Starts to take commands. -/
def openInput : Reaction σ Unit := onConsole (·.openInput)

/-- Stops taking commands. -/
def closeInput : Reaction σ Unit := onConsole (·.closeInput)

/-- Enters a phase. -/
def enter (phase : Phase) : Reaction σ Unit := modify fun d => { d with phase }

/-- Changes the threads. -/
def onThreads (f : Threads → Threads) : Reaction σ Unit :=
  modify fun d => { d with threads := f d.threads }

end Reaction

namespace Action

variable {σ : Type}

/-- A result that was computed from the state. -/
def ofExcept {α : Type} (result : Except Error α) : Action σ α := ExceptT.mk (pure result)

/-- A reaction as part of an operation. -/
def react {α : Type} (reaction : Reaction σ α) : Action σ α := ExceptT.lift reaction

/-- Checks that there is a session, and that the program was started unless that does not
matter. -/
def requireSession (beforeStart : Bool) : Action σ Unit := do
  let d ← get
  if d.session.isNone then throw .noSession
  if !beforeStart && !d.phase.isStarted then throw .notYetRunning

/-- Changes the threads where that is possible. -/
def onThreads (f : Threads → Except Error Threads) : Action σ Unit := do
  let threads ← ofExcept (f (← get).threads)
  modify fun d => { d with threads }

variable [Environment σ]

/-- Sends a request on the newest connection and waits for the answer. -/
def request (command : String) (arguments : Option Json) : Action σ Json := fun d =>
  let request : Request := ⟨d.generation, command, arguments⟩
  let (reply, environment) := Environment.request request d.environment
  (reply.answer, { d.receive reply.arrivals with
    environment, exchanges := .request request reply.answer :: d.exchanges })

/-- Makes a call on the newest connection. -/
def send {α : Type} (call : Call α) : Action σ α := fun d =>
  let (answer, d) := request call.command call.arguments d
  (call.result answer, d)

/-- Opens a connection; the session on it begins. -/
def connect (executable : Executable) : Action σ Unit := fun d =>
  let (outcome, environment) := Environment.connect executable d.environment
  let d := { d with environment, exchanges := .connect executable outcome :: d.exchanges }
  match outcome with
  | .ok () => (.ok (), { d with generation := d.generation + 1, session := some {} })
  | .error e => (.error e, d)

/-- Reads a file as text. -/
def readFile (path : String) : Action σ String := fun d =>
  let outcome := Environment.readFile path d.environment
  (outcome.mapError (.fileRead path), { d with exchanges := .read path outcome :: d.exchanges })

/-- The canonical form of a path, or the path itself where it has none. -/
def canonical (path : String) : Action σ String := fun d =>
  let outcome := Environment.canonical? path d.environment
  (.ok (outcome.getD path), { d with exchanges := .resolve path outcome :: d.exchanges })

end Action

namespace Reaction

variable {σ : Type} [Environment σ]

/-- Sends the request that starts the program, where it is still unsent. -/
def sendStart : Reaction σ Unit := do
  let d ← get
  match d.session with
  | some session =>
    match session.start with
    | some (.unsent mode) =>
      let request : Request := ⟨d.generation, mode.call.command, mode.call.arguments⟩
      let (arrivals, environment) := Environment.start request d.environment
      set { d with
        environment
        exchanges := .start request :: d.exchanges
        session := some ({ session with start := some .awaiting }.receive arrivals) }
    | _ => return
  | none => return

end Reaction
end DebugConsole
