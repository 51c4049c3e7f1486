/-
# Commands

A command has a name, other names and a way to run.  `CommandTable` finds the
command of a word: `slots` gives for each word the place of a command in
`commands`.  Where two commands claim one word, the one registered last has it.

A line is cut into words; the first is the command, the others are its
arguments.  A line without words does nothing.
-/

import DebugConsole.Debugger.State
import DebugConsole.Text.Blank

namespace DebugConsole

/-- A command of the console. -/
structure Command (σ : Type) where
  name : String
  aliases : List String := []
  /-- One line that says what the command does. -/
  help : String
  run : List String → Action σ Unit

/-- The commands and the words they are found by. -/
structure CommandTable (σ : Type) where
  commands : List (Command σ) := []
  slots : List (String × Nat) := []

namespace CommandTable

variable {σ : Type}

/-- The place that a list of slots gives for a word. -/
def slotIn (word : String) : List (String × Nat) → Option Nat
  | [] => none
  | (w, place) :: rest => if w = word then some place else slotIn word rest

/-- Adds a command; it takes over every word it claims. -/
def register (table : CommandTable σ) (command : Command σ) : CommandTable σ where
  commands := table.commands ++ [command]
  slots :=
    (command.aliases.reverse ++ [command.name]).map (·, table.commands.length) ++ table.slots

/-- The command of a word. -/
def find? (table : CommandTable σ) (word : String) : Option (Command σ) :=
  (slotIn word table.slots).bind fun place => table.commands[place]?

/-- The table with these commands, registered in order. -/
def ofList (commands : List (Command σ)) : CommandTable σ := commands.foldl register {}

/-- Runs the command of a line. -/
def dispatch (table : CommandTable σ) (line : String) : Action σ Unit :=
  match Text.words line with
  | [] => return
  | word :: args =>
    match table.find? word with
    | some command => command.run args
    | none => throw (.unknownCommand word)

end CommandTable
end DebugConsole
