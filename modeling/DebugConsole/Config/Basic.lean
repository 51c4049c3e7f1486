/-
# The configuration

A configuration is a TOML document.  What is absent has its default; what is
present has to be of the right form; keys that mean nothing are ignored.

| key | | default |
| --- | --- | --- |
| `adapters.NAME.path` | the executable of an adapter | required |
| `adapters.NAME.args` | its arguments | none |
| `adapters.NAME.adapter_id` | the kind of adapter it is told to be | its name |
| `defaults.adapter` | the adapter to use | `lldb-dap` |
| `timeouts.dap_request_secs` | how long a request may take | 30 |
| `console.suppressed_output_categories` | output that is not shown | `stderr`, `telemetry` |
| `console.prompt` | the prompt | `dbg> ` |
| `console.list_lines` | lines that `list` shows | 10 |
| `console.backtrace_levels` | frames that `backtrace` asks for | 100 |
-/

import DebugConsole.Command.Builtin
import DebugConsole.Toml.Reader

namespace DebugConsole

/-- How an adapter of the configuration is started. -/
structure AdapterConfig where
  path : String
  args : List String := []
  adapterId : Option String := none
deriving DecidableEq, Repr, Inhabited

/-- What the user can set about the console. -/
structure ConsoleConfig where
  suppressed : List String := ["stderr", "telemetry"]
  prompt : String := "dbg> "
  commands : CommandOptions := {}
deriving DecidableEq, Repr, Inhabited

/-- What the user can set. -/
structure Config where
  /-- Adapters by their names. -/
  adapters : List (String × AdapterConfig) := []
  defaultAdapter : String := "lldb-dap"
  /-- How many seconds a request may take. -/
  requestSeconds : Nat := 30
  console : ConsoleConfig := {}
deriving DecidableEq, Repr, Inhabited

/-- Reads an adapter. -/
def AdapterConfig.ofToml? (value : Toml) : Option AdapterConfig := do
  match ← value.fields? ["path", "args", "adapter_id"] with
  | [path, args, adapterId] =>
    let path ← (← path).text?
    let args ← Toml.defaulted Toml.texts? [] args
    let adapterId ← Toml.defaulted (fun v => v.text?.map some) none adapterId
    return { path, args, adapterId }
  | _ => none

/-- Reads the settings of the console. -/
def ConsoleConfig.ofToml? (value : Toml) : Option ConsoleConfig := do
  let names := ["suppressed_output_categories", "prompt", "list_lines", "backtrace_levels"]
  match ← value.fields? names with
  | [suppressed, prompt, listLines, backtraceLevels] =>
    let suppressed ← Toml.defaulted Toml.texts? ["stderr", "telemetry"] suppressed
    let prompt ← Toml.defaulted Toml.text? "dbg> " prompt
    let listLines ← Toml.defaulted Toml.natural? 10 listLines
    let backtraceLevels ← Toml.defaulted Toml.integer? 100 backtraceLevels
    return { suppressed, prompt,
             commands := { listLines, backtraceLevels := Int64.ofInt backtraceLevels } }
  | _ => none

namespace Config

/-- Reads the adapters. -/
def adaptersOf? : Toml → Option (List (String × AdapterConfig))
  | .table _ entries => entries.mapM fun entry => do
    return (entry.1, ← AdapterConfig.ofToml? entry.2)
  | _ => none

/-- Reads a field that stands alone in its section. -/
def single? {α : Type} (name : String) (read : Toml → Option α) (default : α) (value : Toml) :
    Option α := do
  match ← value.fields? [name] with
  | [field] => Toml.defaulted read default field
  | _ => none

/-- Reads a configuration. -/
def ofToml? (value : Toml) : Option Config := do
  match ← value.fields? ["adapters", "defaults", "timeouts", "console"] with
  | [adapters, defaults, timeouts, console] =>
    let adapters ← Toml.defaulted adaptersOf? [] adapters
    let defaultAdapter ←
      Toml.defaulted (single? "adapter" Toml.text? "lldb-dap") "lldb-dap" defaults
    let requestSeconds ←
      Toml.defaulted (single? "dap_request_secs" Toml.natural? 30) 30 timeouts
    let console ← Toml.defaulted ConsoleConfig.ofToml? {} console
    return { adapters, defaultAdapter, requestSeconds, console }
  | _ => none

/-- Reads the text of a configuration. -/
def parse (text : String) : Except Error Config :=
  match Toml.parse text with
  | .error problem => .error (.configInvalid problem.message)
  | .ok value =>
    match ofToml? value with
    | some config => .ok config
    | none => .error (.configInvalid "a setting is missing or has the wrong form")

/-- Reads a configuration from a file. -/
def load (read : String → Except FileProblem String) (path : String) : Except Error Config := do
  parse (← (read path).mapError (.fileRead path))

/-- The adapter with a name. -/
def adapter? (config : Config) (name : String) : Option AdapterConfig :=
  (config.adapters.find? (·.1 = name)).map (·.2)

end Config
end DebugConsole
