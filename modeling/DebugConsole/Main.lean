/-
# The program on a machine

Reads lines from standard input and writes what the console shows.  The adapter
`mock_adapter` runs inside the program; no other can be started.

The debugger reads files from a tree of those that were loaded.  A step that asks
for others is taken back, the files are loaded, and it is taken again: so a step
sees every file as it is on the machine.
-/

import DebugConsole.CommandLine.Run

namespace DebugConsole
namespace Machine

/-- Loads a file, or a directory with those above it, into a tree. -/
def load (tree : FileTree) (path : String) : IO FileTree := do
  let found ← try pure (some (← IO.FS.realPath path)) catch _ => pure none
  match found with
  | none => return tree
  | some real =>
    try return tree.write real.toString (← IO.FS.readBinFile real).toList
    catch _ => return tree.addDirectory (Text.pathParts real.toString)

/-- The tree of the files at these paths. -/
def loadAll (paths : List String) : IO FileTree := do
  let here := Text.pathParts (← IO.currentDir).toString
  let start : FileTree := { current := here }
  paths.foldlM load (start.addDirectory here)

/-- The paths that were asked about between two states. -/
def asked (before after : CommandLine.HostDebugger) : List String :=
  (after.exchanges.take (after.exchanges.length - before.exchanges.length)).filterMap
    Exchange.path?

/-- Takes a step with all files that it asks for. -/
partial def withFiles {α : Type}
    (step : CommandLine.HostDebugger → α × CommandLine.HostDebugger)
    (known : List String) (d : CommandLine.HostDebugger) :
    IO (α × CommandLine.HostDebugger) := do
  let files ← loadAll known
  let (a, after) := step { d with environment := { d.environment with files } }
  match (asked d after).filter fun path => !known.contains path with
  | [] => return (a, after)
  | missing => withFiles step (known ++ missing) d

/-- Writes what the console shows more than before. -/
def showNew (before after : CommandLine.HostDebugger) : IO Unit := do
  let out ← IO.getStdout
  out.putStr (String.ofList (after.console.text.toList.drop before.console.text.length))
  out.flush

/-- The text of a line without its end; none at the end of the input. -/
def nextLine : IO (Option String) := do
  try
    let line ← (← IO.getStdin).getLine
    return (CommandLine.inputLines (Utf8.encode line)).head?
  catch _ => return none

/-- Talks with the user until the dialogue is over. -/
partial def converse (table : CommandTable Host) (d : CommandLine.HostDebugger) :
    IO CommandLine.HostDebugger := do
  let (turn, settled) ← withFiles CommandLine.settle [] d
  showNew d settled
  match turn with
  | .finished => return settled
  | .listening =>
    match ← nextLine with
    | none => return settled
    | some line =>
      let ((), after) ← withFiles (fun d => CommandLine.runLine table line d) [] settled
      showNew settled after
      converse table after

/-- The variables that tell where files of the user are. -/
def userDirectories : IO UserDirectories := do
  return { home := ← IO.getEnv "HOME", configHome := ← IO.getEnv "XDG_CONFIG_HOME"
           dataHome := ← IO.getEnv "XDG_DATA_HOME" }

/-- Debugs what the options say. -/
def debug (options : CommandLine.Options) : IO UInt32 := do
  let directories ← userDirectories
  let files ← loadAll
    ((options.config.or directories.configFile?).toList ++ options.program.toList)
  let host : Host :=
    { files, programs := [("mock_adapter", .simulated {})], searchPath := [""] }
  let (result, opening) := CommandLine.start host directories options
  match result with
  | .error e =>
    (← IO.getStderr).putStr ("Error: " ++ e.message ++ "\n")
    return 1
  | .ok () =>
    let d ← converse opening.table opening.debugger
    let ((), after) := Debugger.closeSession d
    showNew d after
    return 0

end Machine
end DebugConsole

open DebugConsole in
/-- The program. -/
def main (args : List String) : IO UInt32 := do
  match CommandLine.Request.ofArguments args with
  | .version => (← IO.getStdout).putStr CommandLine.versionLine; return 0
  | .help => (← IO.getStdout).putStr CommandLine.usage; return 0
  | .misuse => (← IO.getStderr).putStr CommandLine.usage; return 2
  | .debug options => Machine.debug options
