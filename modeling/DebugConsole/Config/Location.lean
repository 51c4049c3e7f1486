/-
# Where files of the user are

| | first choice | otherwise |
| --- | --- | --- |
| configuration | `$XDG_CONFIG_HOME/dapshell` | `$HOME/.config/dapshell` |
| data | `$XDG_DATA_HOME/dapshell` | `$HOME/.local/share/dapshell` |

A first choice counts only as an absolute path.  Without a home directory in the
variable `HOME` the one of the account counts.
-/

import DebugConsole.Text.Path

namespace DebugConsole

/-- The variables that tell where files of the user are. -/
structure UserDirectories where
  home : Option String := none
  configHome : Option String := none
  dataHome : Option String := none
  /-- The home directory of the account. -/
  accountHome : Option String := none
deriving DecidableEq, Repr, Inhabited

namespace UserDirectories

/-- The name of the program's directories. -/
def programName : String := "dapshell"

/-- The home directory. -/
def home? (u : UserDirectories) : Option String :=
  match u.home with
  | some "" => u.accountHome
  | some path => some path
  | none => u.accountHome

/-- A directory that a variable names, or one below the home directory. -/
def choose (variableValue : Option String) (home : String) (below : List String) : String :=
  match variableValue.filter Text.isAbsolute with
  | some path => path
  | none => below.foldl Text.joinPath home

/-- The directory of the configuration. -/
def configDirectory? (u : UserDirectories) : Option String :=
  u.home?.map fun home => Text.joinPath (choose u.configHome home [".config"]) programName

/-- The file of the configuration. -/
def configFile? (u : UserDirectories) : Option String :=
  u.configDirectory?.map (Text.joinPath · "config.toml")

/-- The directory of the logs. -/
def logDirectory? (u : UserDirectories) : Option String :=
  u.home?.map fun home =>
    Text.joinPath (Text.joinPath (choose u.dataHome home [".local", "share"]) programName) "logs"

end UserDirectories
end DebugConsole
