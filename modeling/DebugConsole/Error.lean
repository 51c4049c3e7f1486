/-
# What can go wrong

`Error` names the cause; `Error.message` is the sentence shown at the prompt.

| group | causes |
| --- | --- |
| session | `noSession`, `notYetRunning`, `nothingToRelaunch`, `nothingToRun` |
| breakpoints | `breakpointNotFound`, `breakpointIdNotFound` |
| threads | `threadNotFound`, `noFocusThread`, `frameNotFound`, `scopeNotFound` |
| adapter | `adapterNotFound`, `adapterStartFailed`, `adapterCrashed` |
| requests | `protocol`, `requestFailed`, `timeout` |
| console | `unknownCommand`, `usage` |
| files and text | `configInvalid`, `inputOutput`, `fileRead`, `json` |
-/

import DebugConsole.Text.Quoted
import DebugConsole.Text.Utf8

namespace DebugConsole

/-- Why an adapter's bytes or answers break the protocol. -/
inductive ProtocolProblem where
  | malformedHeader (line : String)
  | invalidLength (text : String)
  | missingLength
  | lengthTooLarge (length : Nat)
  | bodyNotText (flaw : Utf8.Flaw)
  | malformedResponse (command : String)
  | descriptorCount (path : String) (returned requested : Nat)
  | other (text : String)
deriving DecidableEq, Repr, Inhabited

namespace ProtocolProblem

/-- The wording of a breach of protocol. -/
def message : ProtocolProblem → String
  | .malformedHeader line => "Malformed header: " ++ Text.quoted line
  | .invalidLength text => "Invalid Content-Length: " ++ text
  | .missingLength => "Missing Content-Length header"
  | .lengthTooLarge length => "Content-Length too large: " ++ toString length ++ " bytes"
  | .bodyNotText flaw => "Invalid UTF-8: " ++ flaw.message
  | .malformedResponse command =>
    "Failed to parse " ++ command ++ " response: the body does not have the expected form"
  | .descriptorCount path returned requested =>
    "setBreakpoints for " ++ path ++ " returned " ++ toString returned ++ " breakpoints, " ++
      toString requested ++ " were requested"
  | .other text => text

end ProtocolProblem

/-- Why a file cannot be read as text, or not be run. -/
inductive FileProblem where
  | notFound
  | isDirectory
  | notDirectory
  | notPermitted
  | notText
  | nameTooLong
  | nulInName
  | nulInCommand
  | argumentTooLong
  | other (text : String)
deriving DecidableEq, Repr, Inhabited

namespace FileProblem

/-- The wording of a file problem. -/
def message : FileProblem → String
  | .notFound => "No such file or directory (os error 2)"
  | .isDirectory => "Is a directory (os error 21)"
  | .notDirectory => "Not a directory (os error 20)"
  | .notPermitted => "Permission denied (os error 13)"
  | .notText => "stream did not contain valid UTF-8"
  | .nameTooLong => "File name too long (os error 36)"
  | .nulInName => "file name contained an unexpected NUL byte"
  | .nulInCommand => "nul byte found in provided data"
  | .argumentTooLong => "Argument list too long (os error 7)"
  | .other text => text

end FileProblem

/-- The cause of a failed operation. -/
inductive Error where
  | noSession
  | notYetRunning
  | nothingToRelaunch
  | nothingToRun
  | breakpointNotFound (index : Nat)
  | breakpointIdNotFound (id : Int64)
  | threadNotFound (id : Int64)
  | noFocusThread
  | frameNotFound (index available : Nat)
  | scopeNotFound (name : String)
  | adapterNotFound (name searched : String)
  | adapterStartFailed (reason : String)
  | adapterCrashed
  | protocol (problem : ProtocolProblem)
  | requestFailed (command reason : String)
  | timeout (command : String) (seconds : Nat)
  | unknownCommand (word : String)
  | usage (text : String)
  | configInvalid (detail : String)
  | inputOutput (reason : String)
  | fileRead (path : String) (problem : FileProblem)
  | json (detail : String)
deriving DecidableEq, Repr, Inhabited

namespace Error

/-- The sentence shown for an error. -/
def message : Error → String
  | .noSession => "There is no active debugging session."
  | .notYetRunning => "The program is not yet running (use 'run' to start it)."
  | .nothingToRelaunch => "There is nothing to relaunch."
  | .nothingToRun => "There is nothing to run, or already attached to a process."
  | .breakpointNotFound index => "Breakpoint #" ++ toString index ++ " not found"
  | .breakpointIdNotFound id =>
    "No breakpoint is registered under adapter id " ++ toString id.toInt
  | .threadNotFound id => "Thread " ++ toString id.toInt ++ " not found"
  | .noFocusThread => "There is no focus thread. Wait for the program to stop."
  | .frameNotFound _ available =>
    "There are only " ++ toString available ++ " frames in the thread's stack trace."
  | .scopeNotFound name => "There is no scope named '" ++ name ++ "' in the current context."
  | .adapterNotFound name searched =>
    "Debug adapter '" ++ name ++ "' not found. Searched: " ++ searched
  | .adapterStartFailed reason => "Debug adapter failed to start: " ++ reason
  | .adapterCrashed => "Debug adapter crashed unexpectedly"
  | .protocol problem => "DAP protocol error: " ++ problem.message
  | .requestFailed command reason => "DAP request '" ++ command ++ "' failed: " ++ reason
  | .timeout command seconds =>
    "DAP request '" ++ command ++ "' timed out after " ++ toString seconds ++ " seconds"
  | .unknownCommand word =>
    "Unknown command '" ++ word ++ "'. Type 'help' for a list of commands."
  | .usage text => text
  | .configInvalid detail => "Invalid configuration file: " ++ detail
  | .inputOutput reason => "IO error: " ++ reason
  | .fileRead path problem => "Failed to read file '" ++ path ++ "': " ++ problem.message
  | .json detail => "JSON error: " ++ detail

end Error
end DebugConsole
