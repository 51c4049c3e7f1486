/-
# The program

A run of the program reads its arguments and its configuration, starts the session
and talks with the user.  What goes wrong before the dialogue begins ends the
program:

| | exit status | |
| --- | --- | --- |
| arguments that are wrong | 2 | the usage is shown |
| no configuration, adapter or program, no session | 1 | the error is shown |
| otherwise | 0 | |

The configuration is the file that the arguments name; without one, the file of the
user, if there is one.
-/

import DebugConsole.CommandLine.Dialogue
import DebugConsole.CommandLine.Options
import DebugConsole.Config.Basic
import DebugConsole.Config.Location

namespace DebugConsole
namespace CommandLine

/-- The name and the version of the program. -/
def versionLine : String := "dapshell 0.1.0\n"

/-- How the program is used. -/
def usage : String :=
  String.intercalate "\n"
    [ "Interactive debugger console for DAP adapters", "",
      "Usage: dapshell [OPTIONS] [PROGRAM] [-- <ARGS>...]", "",
      "Arguments:",
      "  [PROGRAM]  Path to the executable to debug",
      "  [ARGS]...  Arguments to pass to the program", "",
      "Options:",
      "      --attach <PID>     Attach to a running process instead of launching one",
      "      --adapter <ADAPTER>",
      "                         Debug adapter to use (default from config, else lldb-dap)",
      "      --stop-on-entry    Stop at program entry point",
      "      --config <FILE>    Configuration file to use instead of the default one",
      "  -h, --help             Print help",
      "  -V, --version          Print version", "" ]

/-- The configuration of a run. -/
def configOf (files : FileTree) (directories : UserDirectories) (path? : Option String) :
    Except Error Config :=
  match path? with
  | some path => Config.load files.readText path
  | none =>
    match directories.configFile? with
    | some path => if files.contains path then Config.load files.readText path else .ok {}
    | none => .ok {}

/-- The adapter with a name: from the configuration, or else from the search path. -/
def adapterOf (host : Host) (config : Config) (name : String) : Except Error AdapterConfig :=
  match config.adapter? name with
  | some adapter => .ok adapter
  | none =>
    match host.search? name with
    | some path => .ok { path }
    | none => .error (.adapterNotFound name "config file, PATH")

/-- What is to be debugged. -/
def modeOf (files : FileTree) (options : Options) : Except Error StartMode :=
  match options.attach, options.program with
  | some pid, _ => .ok (.attach { pid := some pid })
  | none, some program =>
    .ok (.launch
      { program := (files.canonical? program).getD program
        args := options.arguments
        cwd := some (FileTree.absolute files.current)
        stopOnEntry := options.stopOnEntry })
  | none, none => .error (.usage "Nothing to debug: pass a program to launch or --attach <pid>")

/-- The target of a run. -/
def targetOf (host : Host) (config : Config) (options : Options) : Except Error Target := do
  let name := options.adapter.getD config.defaultAdapter
  let adapter ← adapterOf host config name
  let mode ← modeOf host.files options
  return { executable := { command := adapter.path, args := adapter.args }
           adapterId := adapter.adapterId.getD name
           mode }

/-- A session that is about to begin, and the commands for it. -/
structure Opening where
  debugger : HostDebugger
  table : CommandTable Host

/-- Starts the session of a run. -/
def start (host : Host) (directories : UserDirectories) (options : Options) :
    Except Error Unit × Opening :=
  let idle : HostDebugger := { environment := host }
  let opened : Except Error (Config × Target) := do
    let config ← configOf host.files directories options.config
    return (config, ← targetOf host config options)
  match opened with
  | .error e => (.error e, { debugger := idle, table := {} })
  | .ok (config, target) =>
    let d : HostDebugger :=
      { idle with
        environment := { host with requestSeconds := config.requestSeconds }
        console := { prompt := config.console.prompt }
        suppressed := config.console.suppressed }
    let (result, d) := Debugger.launch target d
    (result, { debugger := (Reaction.sendStart d).2
               table := CommandTable.builtin config.console.commands })

/-- The lines in these pieces of input, up to the first that is not text. -/
def readableLines : List (List UInt8) → List String
  | [] => []
  | [last] => if last.isEmpty then [] else (Utf8.decode last).toOption.toList
  | piece :: rest =>
    match Utf8.decode piece with
    | .ok line => String.ofList (Text.dropReturn line.toList.reverse).reverse :: readableLines rest
    | .error _ => []

/-- The lines of some input, up to the first that is not text. -/
def inputLines (bytes : List UInt8) : List String := readableLines (Text.pieces 0x0A bytes)

/-- What a run leaves behind. -/
structure Outcome where
  status : UInt32
  output : String := ""
  errors : String := ""
  host : Host

/-- A whole run. -/
def run (host : Host) (directories : UserDirectories) (args : List String)
    (input : List UInt8) : Outcome :=
  match Request.ofArguments args with
  | .version => { status := 0, output := versionLine, host }
  | .help => { status := 0, output := usage, host }
  | .misuse => { status := 2, errors := usage, host }
  | .debug options =>
    let (result, opening) := start host directories options
    match result with
    | .error e =>
      { status := 1, output := opening.debugger.console.text
        errors := "Error: " ++ e.message ++ "\n", host := opening.debugger.environment }
    | .ok () =>
      let d := converse opening.table (inputLines input) opening.debugger
      let d := (Debugger.closeSession d).2
      { status := 0, output := d.console.text, host := d.environment }

end CommandLine
end DebugConsole
