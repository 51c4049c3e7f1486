/-
# Source text

`SourceTexts` keeps the lines of every text obtained so far under its key: a
reference that an adapter gave out, or the path of a file.  A text is obtained at
most once per key until `flush`; a failure to obtain it is not kept.

`window` cuts lines out of a text.  Lines are numbered from 1; a window that
starts at line 0 starts at line 1, and one that reaches beyond the last line
ends there.
-/

import DebugConsole.Error
import DebugConsole.Text.Line

namespace DebugConsole

namespace SourceTexts

/-- What a text is kept under. -/
inductive Key where
  | reference (reference : Int64)
  | path (path : String)
deriving DecidableEq, Repr, Inhabited

end SourceTexts

/-- The texts obtained so far, as lines. -/
structure SourceTexts where
  entries : List (SourceTexts.Key × List String) := []
deriving DecidableEq, Repr, Inhabited

namespace SourceTexts

/-- The kept lines under a key in a list of entries. -/
def lookupIn (key : Key) : List (Key × List String) → Option (List String)
  | [] => none
  | (k, lines) :: rest => if k = key then some lines else lookupIn key rest

/-- The kept lines under a key. -/
def find? (texts : SourceTexts) (key : Key) : Option (List String) :=
  lookupIn key texts.entries

/-- Keeps the lines of a text under a key. -/
def keep (texts : SourceTexts) (key : Key) (lines : List String) : SourceTexts :=
  ⟨(key, lines) :: texts.entries⟩

/-- The lines under a key; the text is obtained only where it is not kept yet. -/
def fetch {m : Type → Type} [Monad m] (texts : SourceTexts) (key : Key)
    (source : m (Except Error String)) : m (Except Error (List String) × SourceTexts) :=
  match texts.find? key with
  | some lines => pure (.ok lines, texts)
  | none => do
    match ← source with
    | .ok text => pure (.ok (Text.lines text), texts.keep key (Text.lines text))
    | .error e => pure (.error e, texts)

/-- The lines of a text that an adapter holds under a reference. -/
def byReference {m : Type → Type} [Monad m] (texts : SourceTexts) (reference : Int64)
    (fetcher : Int64 → m (Except Error String)) : m (Except Error (List String) × SourceTexts) :=
  texts.fetch (.reference reference) (fetcher reference)

/-- The lines of a file. -/
def byPath {m : Type → Type} [Monad m] (texts : SourceTexts) (path : String)
    (read : String → m (Except FileProblem String)) :
    m (Except Error (List String) × SourceTexts) :=
  texts.fetch (.path path) do return (← read path).mapError (.fileRead path)

/-- Forgets every text. -/
def flush : SourceTexts := {}

/-- Is nothing kept? -/
def isEmpty (texts : SourceTexts) : Bool := texts.entries.isEmpty

end SourceTexts

/-- The sum of two machine words, the greatest word where it does not fit. -/
def addSaturating (a b : Nat) : Nat := min (a + b) (UInt64.size - 1)

/-- The lines from number `start` on, at most `length` of them. -/
def window (lines : List String) (start length : Nat) : List String :=
  let first := max start 1
  if lines.length < first then []
  else
    let stop := min (addSaturating (first - 1) length) lines.length
    (lines.take stop).drop (first - 1)

end DebugConsole
