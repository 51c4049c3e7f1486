/-
# Quoted text

A text between quotes, made safe to show on one line.  The quote and the reverse
solidus get a reverse solidus in front; NUL, tab, line feed and carriage return
have a letter; every other character without a visible form is written as its
code point, `\u{…}` in hexadecimal.
-/

import DebugConsole.Text.Unseen

namespace DebugConsole
namespace Text

/-- The hexadecimal digits of a number, in lower case. -/
def hex (n : Nat) : List Char := Nat.toDigits 16 n

/-- One character inside a quoted text. -/
def quotedChar (c : Char) : List Char :=
  if c = '"' then ['\\', '"']
  else if c = '\\' then ['\\', '\\']
  else if c = '\x00' then ['\\', '0']
  else if c = '\t' then ['\\', 't']
  else if c = '\n' then ['\\', 'n']
  else if c = '\r' then ['\\', 'r']
  else if isUnseen c then ['\\', 'u', '\x7b'] ++ hex c.toNat ++ ['\x7d']
  else [c]

/-- The text between quotes. -/
def quoted (s : String) : String :=
  String.ofList ('"' :: s.toList.flatMap quotedChar ++ ['"'])

end Text
end DebugConsole
