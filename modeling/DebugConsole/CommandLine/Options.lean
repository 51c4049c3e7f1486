/-
# Arguments of the program

    dapshell [OPTIONS] [PROGRAM] [-- ARGS...]

| option | |
| --- | --- |
| `--attach PID` | attaches to a process; not together with a program |
| `--adapter NAME` | the adapter to use |
| `--stop-on-entry` | the program stops before it runs |
| `--config FILE` | the configuration |
| `--version`, `-V`; `--help`, `-h` | nothing is debugged |

The value of an option follows it, or `=`.  An option stands at most once.  The
first argument that is wrong counts, and one that asks for the version or for help
before it.
-/

import DebugConsole.Text.Numeral
import DebugConsole.Text.Path

namespace DebugConsole
namespace CommandLine

/-- What the arguments say about the session. -/
structure Options where
  program : Option String := none
  /-- The arguments of the program. -/
  arguments : List String := []
  attach : Option UInt32 := none
  adapter : Option String := none
  stopOnEntry : Bool := false
  config : Option String := none
deriving DecidableEq, Repr, Inhabited

/-- What the arguments ask for. -/
inductive Request where
  | debug (options : Options)
  | version
  | help
  | misuse
deriving DecidableEq, Repr, Inhabited

/-- An option with a value. -/
inductive ValueOption where
  | attach
  | adapter
  | config
deriving DecidableEq, Repr, Inhabited

namespace ValueOption

/-- The option with a name. -/
def ofName? : String → Option ValueOption
  | "attach" => some .attach
  | "adapter" => some .adapter
  | "config" => some .config
  | _ => none

/-- Takes in the value of an option that did not have one. -/
def set? (value : String) (o : Options) : ValueOption → Option Options
  | .attach =>
    match o.attach, Text.integer? value with
    | none, some n =>
      if 0 ≤ n ∧ n < 0x100000000 then some { o with attach := some (UInt32.ofNat n.toNat) }
      else none
    | _, _ => none
  | .adapter => if o.adapter.isSome then none else some { o with adapter := some value }
  | .config =>
    if o.config.isSome || value = "" then none else some { o with config := some value }

end ValueOption

/-- Does an argument look like an option? -/
def isOption (arg : String) : Bool :=
  match arg.toList with
  | '-' :: _ :: _ => true
  | _ => false

/-- A finished list of options. -/
def conclude (o : Options) : Request :=
  if o.attach.isSome && o.program.isSome then .misuse else .debug o

/-- Reads arguments behind those that said `o`; an option may be waiting for its value. -/
def read : Options → Option ValueOption → List String → Request
  | o, none, [] => conclude o
  | _, some _, [] => .misuse
  | o, some option, arg :: rest =>
    if isOption arg then .misuse
    else
      match option.set? arg o with
      | some o => read o none rest
      | none => .misuse
  | o, none, arg :: rest =>
    match arg.toList with
    | ['-', '-'] => conclude { o with arguments := rest }
    | '-' :: '-' :: name =>
      match Text.splitFirst? '=' name with
      | none =>
        match String.ofList name with
        | "version" => .version
        | "help" => .help
        | "stop-on-entry" =>
          if o.stopOnEntry then .misuse else read { o with stopOnEntry := true } none rest
        | name =>
          match ValueOption.ofName? name with
          | some option => read o (some option) rest
          | none => .misuse
      | some (name, value) =>
        match (ValueOption.ofName? (String.ofList name)).bind (·.set? (String.ofList value) o) with
        | some o => read o none rest
        | none => .misuse
    | '-' :: 'V' :: _ => .version
    | '-' :: 'h' :: _ => .help
    | '-' :: _ :: _ => .misuse
    | [] => .misuse
    | _ =>
      if o.program.isSome then .misuse else read { o with program := some arg } none rest

/-- What a list of arguments asks for. -/
def Request.ofArguments (args : List String) : Request := read {} none args

end CommandLine
end DebugConsole
