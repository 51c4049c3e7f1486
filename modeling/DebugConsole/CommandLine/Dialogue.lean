/-
# The dialogue with the user

Signals of the session come before the lines of the user: a line is taken only
when no signal is left, and only while the console is open.  An error of a command
is shown and does not end the dialogue; the prompt follows unless the console has
closed.  The dialogue ends with the input, or when the debugged program is gone for
good.

| `Turn` | |
| --- | --- |
| `listening` | the next line is wanted |
| `finished` | the program should end |
-/

import DebugConsole.Adapter.Host
import DebugConsole.Command.Table
import DebugConsole.Debugger.Signal

namespace DebugConsole
namespace CommandLine

/-- A debugger on a host. -/
abbrev HostDebugger := Debugger Host

/-- What a debugger without signals waits for. -/
inductive Turn where
  | listening
  | finished
deriving DecidableEq, Repr, Inhabited

/-- Something happens although no signal is left: a program has exited, or, where the user cannot do
anything, has taken too long. -/
def wake? (d : HostDebugger) : Option HostDebugger :=
  let noticed :=
    match d.environment.noticeExit? with
    | some noticed => some noticed
    | none => if d.console.isOpen then none else d.environment.noticeTime?
  noticed.map fun (arrivals, environment) => { d with environment }.receive arrivals

/-- Handles signals until none is left, at most so many. -/
def settleAll : Nat → HostDebugger → Turn × HostDebugger
  | 0, d => (.finished, d)
  | fuel + 1, d =>
    if d.shutdownRequested then (.finished, d)
    else
      match Debugger.takeSignal d with
      | (some signal, d) => settleAll fuel (Debugger.settle signal d).2
      | (none, d) =>
        match wake? d with
        | some d => settleAll fuel d
        | none => (if d.console.isOpen then .listening else .finished, d)

/-- How many signals may follow one line. -/
def maxSignals : Nat := 1000000

/-- Handles the signals that are there. -/
def settle (d : HostDebugger) : Turn × HostDebugger := settleAll maxSignals d

/-- Runs a line of the user. -/
def runLine {σ : Type} [Environment σ] (table : CommandTable σ) (line : String) :
    Reaction σ Unit := do
  match ← (table.dispatch line).run with
  | .ok () => pure ()
  | .error e => Reaction.say ("Error: " ++ e.message)
  Reaction.sendStart
  Reaction.onConsole (·.showPrompt)

/-- Goes on with lines until they end. -/
def converse (table : CommandTable Host) : List String → HostDebugger → HostDebugger
  | lines, d =>
    match settle d with
    | (.finished, d) => d
    | (.listening, d) =>
      match lines with
      | [] => d
      | line :: rest => converse table rest (runLine table line d).2

end CommandLine
end DebugConsole
