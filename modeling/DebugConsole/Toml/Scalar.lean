/-
# Texts and numbers in TOML

Every reader takes a value from the front of the characters and gives back what
follows it.

| value | written |
| --- | --- |
| text | `"…"` with escapes, `'…'` without; three quotes let it run over several lines |
| integer | decimal with a sign, or `0x`, `0o`, `0b`; at most 63 bits and a sign |
| real | decimal with a fraction, an exponent or both; `inf`, `nan` |
| moment | `1979-05-27`, `07:32:00.5`, `1979-05-27T07:32:00`, the last also with `Z` or `-07:00` |

One underscore may stand between two digits.  A decimal number has no leading
zero.  A line end in a text counts as a line feed.
-/

import DebugConsole.Binary64.Decimal
import DebugConsole.Json.Reader
import DebugConsole.Text.Numeral
import DebugConsole.Toml.Basic

namespace DebugConsole
namespace Toml

/-- Is the character a blank or a tab? -/
def isGap (c : Char) : Bool := c = ' ' || c = '\t'

/-- Drops blanks and tabs. -/
def dropGaps (cs : List Char) : List Char := cs.dropWhile isGap

/-- Takes the end of a line. -/
def newline? : List Char → Option (List Char)
  | '\n' :: rest => some rest
  | '\r' :: '\n' :: rest => some rest
  | _ => none

/-- May the character stand in a comment?  Of the control characters below U+0080 only the tab. -/
def isPrintable (c : Char) : Bool := c = '\t' || (0x20 ≤ c.toNat && c.toNat ≠ 0x7F)

/-! ## Texts -/

/-- May the character stand for itself between double quotes? -/
def isBasic (c : Char) : Bool := isPrintable c && c ≠ '"' && c ≠ '\\'

/-- May the character stand between single quotes? -/
def isLiteral (c : Char) : Bool := isPrintable c && c ≠ '\''

/-- A number of hexadecimal digits, behind a value read so far. -/
def hexDigits? : Nat → Nat → List Char → Option (Nat × List Char)
  | 0, value, cs => some (value, cs)
  | count + 1, value, c :: rest => do hexDigits? count (value * 16 + (← Json.hexValue? c)) rest
  | _ + 1, _, [] => none

/-- The character with a code point. -/
def scalar? (n : Nat) : Option Char := if n.isValidChar then some (Char.ofNat n) else none

/-- The character of an escape, behind the reverse solidus. -/
def escape? : List Char → Option (Char × List Char)
  | 'b' :: rest => some ('\x08', rest)
  | 't' :: rest => some ('\t', rest)
  | 'n' :: rest => some ('\n', rest)
  | 'f' :: rest => some ('\x0c', rest)
  | 'r' :: rest => some ('\r', rest)
  | '"' :: rest => some ('"', rest)
  | '\\' :: rest => some ('\\', rest)
  | 'u' :: rest => do
    let (n, rest) ← hexDigits? 4 0 rest
    return (← scalar? n, rest)
  | 'U' :: rest => do
    let (n, rest) ← hexDigits? 8 0 rest
    return (← scalar? n, rest)
  | _ => none

/-- The rest of a text in double quotes; `acc` holds the characters so far, last first. -/
def basicText : Nat → List Char → List Char → Option (String × List Char)
  | 0, _, _ => none
  | _ + 1, acc, '"' :: rest => some (String.ofList acc.reverse, rest)
  | fuel + 1, acc, '\\' :: rest => do
    let (c, rest) ← escape? rest
    basicText fuel (c :: acc) rest
  | fuel + 1, acc, c :: rest => if isBasic c then basicText fuel (c :: acc) rest else none
  | _ + 1, _, [] => none

/-- The rest of a text in single quotes. -/
def literalText (acc : List Char) : List Char → Option (String × List Char)
  | '\'' :: rest => some (String.ofList acc.reverse, rest)
  | c :: rest => if isLiteral c then literalText (c :: acc) rest else none
  | [] => none

/-- Drops blanks, tabs and line ends. -/
def dropBlankLines : List Char → List Char
  | '\n' :: rest => dropBlankLines rest
  | '\r' :: '\n' :: rest => dropBlankLines rest
  | ' ' :: rest => dropBlankLines rest
  | '\t' :: rest => dropBlankLines rest
  | cs => cs

/-- Where a run of quotes ends a text of several lines: the quotes that still belong to it, and what
follows.  Up to two quotes stand for themselves. -/
def closing? (quote : Char) (cs : List Char) : Option (List Char × List Char) :=
  let run := (cs.takeWhile (· = quote)).length
  if run < 3 then none
  else
    let inner := min (run - 3) 2
    some (List.replicate inner quote, cs.drop (inner + 3))

/-- The rest of a text of several lines between double quotes.  A reverse solidus at the end of a
line joins the next line that is not blank. -/
def basicLines : Nat → List Char → List Char → Option (String × List Char)
  | 0, _, _ => none
  | _ + 1, _, [] => none
  | fuel + 1, acc, c :: rest =>
    if c = '"' then
      match closing? '"' (c :: rest) with
      | some (quotes, rest) => some (String.ofList (acc.reverse ++ quotes), rest)
      | none => basicLines fuel (c :: acc) rest
    else if c = '\\' then
      match newline? (dropGaps rest) with
      | some rest => basicLines fuel acc (dropBlankLines rest)
      | none => do
        let (c, rest) ← escape? rest
        basicLines fuel (c :: acc) rest
    else
      match newline? (c :: rest) with
      | some rest => basicLines fuel ('\n' :: acc) rest
      | none => if isBasic c then basicLines fuel (c :: acc) rest else none

/-- The rest of a text of several lines between single quotes. -/
def literalLines : Nat → List Char → List Char → Option (String × List Char)
  | 0, _, _ => none
  | _ + 1, _, [] => none
  | fuel + 1, acc, c :: rest =>
    if c = '\'' then
      match closing? '\'' (c :: rest) with
      | some (quotes, rest) => some (String.ofList (acc.reverse ++ quotes), rest)
      | none => literalLines fuel (c :: acc) rest
    else
      match newline? (c :: rest) with
      | some rest => literalLines fuel ('\n' :: acc) rest
      | none => if isLiteral c then literalLines fuel (c :: acc) rest else none

/-- A text on one line. -/
def lineText? : List Char → Option (String × List Char)
  | '"' :: rest => basicText (rest.length + 1) [] rest
  | '\'' :: rest => literalText [] rest
  | _ => none

/-- A text; a line end right behind three quotes does not count. -/
def quotedText? : List Char → Option (String × List Char)
  | '"' :: '"' :: '"' :: rest => basicLines (rest.length + 1) [] ((newline? rest).getD rest)
  | '\'' :: '\'' :: '\'' :: rest => literalLines (rest.length + 1) [] ((newline? rest).getD rest)
  | cs => lineText? cs

/-! ## Numbers -/

/-- More digits, with single underscores between digits; `acc` holds the digits so far, last
first. -/
def moreDigits (p : Char → Bool) (acc : List Char) : List Char → Option (List Char × List Char)
  | '_' :: c :: rest => if p c then moreDigits p (c :: acc) rest else none
  | c :: rest =>
    if c = '_' then none
    else if p c then moreDigits p (c :: acc) rest
    else some (acc.reverse, c :: rest)
  | [] => some (acc.reverse, [])

/-- One or more digits. -/
def digits? (p : Char → Bool) : List Char → Option (List Char × List Char)
  | c :: rest => if p c then moreDigits p [c] rest else none
  | [] => none

/-- The number that digits of a base stand for. -/
def ofDigits (base : Nat) (digits : List Char) : Nat :=
  digits.foldl (fun n c => n * base + (Json.hexValue? c).getD 0) 0

/-- Takes a sign: is it a minus? -/
def sign : List Char → Bool × List Char
  | '-' :: rest => (true, rest)
  | '+' :: rest => (false, rest)
  | cs => (false, cs)

/-- The digits of a decimal number without leading zero. -/
def whole? : List Char → Option (List Char × List Char)
  | '0' :: rest => some (['0'], rest)
  | cs => digits? Text.isDigit cs

/-- A fraction, if there is one. -/
def fraction : List Char → Option (List Char × List Char)
  | '.' :: rest => digits? Text.isDigit rest
  | cs => some ([], cs)

/-- An exponent, if there is one. -/
def exponent (cs : List Char) : Option (Int × List Char) :=
  let read (cs : List Char) : Option (Int × List Char) := do
    let (negative, cs) := sign cs
    let (digits, rest) ← digits? Text.isDigit cs
    return (if negative then -(ofDigits 10 digits : Int) else ofDigits 10 digits, rest)
  match cs with
  | 'e' :: rest => read rest
  | 'E' :: rest => read rest
  | cs => some (0, cs)

/-- The characters in front of what follows. -/
def spelling (cs rest : List Char) : String := String.ofList (cs.take (cs.length - rest.length))

/-- An infinity or no number. -/
def special? (cs : List Char) : Option (Toml × List Char) :=
  match (sign cs).2 with
  | 'i' :: 'n' :: 'f' :: rest => some (.real (spelling cs rest), rest)
  | 'n' :: 'a' :: 'n' :: rest => some (.real (spelling cs rest), rest)
  | _ => none

/-- A number with a fraction or an exponent, below the overflow of a binary64 number. -/
def real? (cs : List Char) : Option (Toml × List Char) := do
  let (negative, afterSign) := sign cs
  let (whole, afterWhole) ← whole? afterSign
  let (part, afterPart) ← fraction afterWhole
  let (power, rest) ← exponent afterPart
  if rest.length = afterWhole.length then none
  let value : Decimal := ⟨ofDigits 10 (whole ++ part), power - part.length⟩
  if !negative && !value.isFinite then none
  return (.real (spelling cs rest), rest)

/-- An integer within 64 bits. -/
def signed? (n : Int) (rest : List Char) : Option (Toml × List Char) :=
  if -0x8000000000000000 ≤ n ∧ n < 0x8000000000000000 then some (.integer n, rest) else none

/-- Is the character a hexadecimal digit? -/
def isHex (c : Char) : Bool := (Json.hexValue? c).isSome

/-- Is the character one of `0`–`7`? -/
def isOctal (c : Char) : Bool := '0' ≤ c && c ≤ '7'

/-- Is the character `0` or `1`? -/
def isBinary (c : Char) : Bool := c = '0' || c = '1'

/-- An integer. -/
def wholeNumber? : List Char → Option (Toml × List Char)
  | '0' :: 'x' :: rest => do
    let (digits, rest) ← digits? isHex rest
    signed? (ofDigits 16 digits) rest
  | '0' :: 'o' :: rest => do
    let (digits, rest) ← digits? isOctal rest
    signed? (ofDigits 8 digits) rest
  | '0' :: 'b' :: rest => do
    let (digits, rest) ← digits? isBinary rest
    signed? (ofDigits 2 digits) rest
  | cs => do
    let (negative, cs) := sign cs
    let (digits, rest) ← whole? cs
    signed? (if negative then -(ofDigits 10 digits : Int) else ofDigits 10 digits) rest

/-! ## Dates and times -/

/-- A number of exactly so many digits between two bounds. -/
def fixed? (count low high : Nat) (cs : List Char) : Option (Nat × List Char) :=
  let digits := cs.take count
  if digits.length = count && digits.all Text.isDigit then
    let n := ofDigits 10 digits
    if low ≤ n ∧ n ≤ high then some (n, cs.drop count) else none
  else none

/-- Takes one character. -/
def mark? (c : Char) : List Char → Option (List Char)
  | c' :: rest => if c' = c then some rest else none
  | [] => none

/-- How many days a month has. -/
def daysIn (year month : Nat) : Nat :=
  if month = 2 then
    if year % 4 = 0 ∧ (year % 100 ≠ 0 ∨ year % 400 = 0) then 29 else 28
  else if month = 4 ∨ month = 6 ∨ month = 9 ∨ month = 11 then 30
  else 31

/-- What follows a date. -/
def date? (cs : List Char) : Option (List Char) := do
  let (year, cs) ← fixed? 4 0 9999 cs
  let (month, cs) ← fixed? 2 1 12 (← mark? '-' cs)
  let (_, cs) ← fixed? 2 1 (daysIn year month) (← mark? '-' cs)
  return cs

/-- What follows a time. -/
def time? (cs : List Char) : Option (List Char) := do
  let (_, cs) ← fixed? 2 0 23 cs
  let (_, cs) ← fixed? 2 0 59 (← mark? ':' cs)
  let (_, cs) ← fixed? 2 0 60 (← mark? ':' cs)
  match cs with
  | '.' :: c :: rest => if Text.isDigit c then return rest.dropWhile Text.isDigit else return cs
  | _ => return cs

/-- What follows the distance from universal time. -/
def offset? : List Char → Option (List Char)
  | 'Z' :: rest => some rest
  | 'z' :: rest => some rest
  | c :: rest => do
    if c ≠ '+' && c ≠ '-' then none
    let (_, cs) ← fixed? 2 0 23 rest
    let (_, cs) ← fixed? 2 0 59 (← mark? ':' cs)
    return cs
  | [] => none

/-- What follows a date, a time, or a date with a time. -/
def afterMoment? (cs : List Char) : Option (List Char) :=
  match date? cs with
  | none => time? cs
  | some (c :: rest) =>
    if c = 'T' || c = 't' || c = ' ' then
      match time? rest with
      | some rest => some ((offset? rest).getD rest)
      | none => some (c :: rest)
    else some (c :: rest)
  | some [] => some []

/-- A date or time. -/
def moment? (cs : List Char) : Option (Toml × List Char) :=
  (afterMoment? cs).map fun rest => (.moment (spelling cs rest), rest)

/-- A value that holds no other values. -/
def leaf? : List Char → Option (Toml × List Char)
  | 't' :: 'r' :: 'u' :: 'e' :: rest => some (.bool true, rest)
  | 'f' :: 'a' :: 'l' :: 's' :: 'e' :: rest => some (.bool false, rest)
  | cs =>
    match cs.head? with
    | some '"' => (quotedText? cs).map fun (s, rest) => (.text s, rest)
    | some '\'' => (quotedText? cs).map fun (s, rest) => (.text s, rest)
    | _ => moment? cs <|> real? cs <|> special? cs <|> wholeNumber? cs

end Toml
end DebugConsole
