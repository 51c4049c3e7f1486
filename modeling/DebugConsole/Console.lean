/-
# The console

A console holds what was written to it and whether it takes commands.  Opening a
closed console shows the prompt; opening an open one shows nothing.  Every
opening counts.
-/

import DebugConsole.Text.Line

namespace DebugConsole

/-- What the user sees, and whether commands are read. -/
structure Console where
  /-- Everything written so far. -/
  text : String := ""
  isOpen : Bool := false
  /-- How often the console was opened. -/
  openedCount : Nat := 0
  /-- Shown when the console opens. -/
  prompt : String := ""
deriving DecidableEq, Repr, Inhabited

namespace Console

/-- Writes text as it is. -/
def write (s : String) (c : Console) : Console := { c with text := c.text ++ s }

/-- Writes text and ends the line. -/
def writeLine (s : String) (c : Console) : Console := c.write (s ++ "\n")

/-- Shows the prompt while the console is open. -/
def showPrompt (c : Console) : Console := if c.isOpen then c.write c.prompt else c

/-- Starts to take commands. -/
def openInput (c : Console) : Console :=
  let opened := { c with isOpen := true, openedCount := c.openedCount + 1 }
  if c.isOpen then opened else opened.showPrompt

/-- Stops taking commands. -/
def closeInput (c : Console) : Console := { c with isOpen := false }

/-- The written text, line by line. -/
def lines (c : Console) : List String := Text.lines c.text

@[simp] theorem text_write (s : String) (c : Console) : (c.write s).text = c.text ++ s := rfl

@[simp] theorem isOpen_write (s : String) (c : Console) : (c.write s).isOpen = c.isOpen := rfl

@[simp] theorem isOpen_writeLine (s : String) (c : Console) :
    (c.writeLine s).isOpen = c.isOpen := rfl

@[simp] theorem isOpen_openInput (c : Console) : c.openInput.isOpen = true := by
  unfold openInput showPrompt
  split <;> simp [write]

@[simp] theorem isOpen_closeInput (c : Console) : c.closeInput.isOpen = false := rfl

end Console
end DebugConsole
