/-
# Reading JSON text

`Json.parse` accepts one value with blanks around it and nothing else.  Text is
first cut into tokens (`Token.scan`), then tokens are read as a value
(`readValue`).

| rule | |
| --- | --- |
| blanks | space, tab, line feed, carriage return |
| text | no character below U+0020 unescaped; a surrogate escape only as one half of a pair |
| number | no leading zero or plus; a digit on each side of a point; in the range of binary64 |
| nesting | at most 127 lists and objects around a value |
| key given twice | the later member counts |
-/

import DebugConsole.Json.Basic
import DebugConsole.Json.Number

namespace DebugConsole

namespace Json

/-- A lexical unit of JSON text. -/
inductive Token where
  | openArr
  | closeArr
  | openObj
  | closeObj
  | comma
  | colon
  | text (s : String)
  /-- A number or one of the words `null`, `true`, `false`. -/
  | leaf (value : Json)

/-- The value of a hexadecimal digit. -/
def hexValue? (c : Char) : Option Nat :=
  if '0' ≤ c ∧ c ≤ '9' then some (c.toNat - '0'.toNat)
  else if 'a' ≤ c ∧ c ≤ 'f' then some (c.toNat - 'a'.toNat + 10)
  else if 'A' ≤ c ∧ c ≤ 'F' then some (c.toNat - 'A'.toNat + 10)
  else none

/-- Four hexadecimal digits. -/
def readUnit? : List Char → Option (Nat × List Char)
  | a :: b :: c :: d :: rest => do
    let a ← hexValue? a
    let b ← hexValue? b
    let c ← hexValue? c
    let d ← hexValue? d
    return (((a * 16 + b) * 16 + c) * 16 + d, rest)
  | _ => none

/-- Is this unit the first half of a surrogate pair? -/
def isHighSurrogate (unit : Nat) : Bool := 0xD800 ≤ unit && unit < 0xDC00

/-- Is this unit the second half of a surrogate pair? -/
def isLowSurrogate (unit : Nat) : Bool := 0xDC00 ≤ unit && unit < 0xE000

/-- The character of an escape after `\u`: one unit, or a pair of surrogates. -/
def readEscapedChar? (cs : List Char) : Option (Char × List Char) := do
  let (unit, rest) ← readUnit? cs
  if isHighSurrogate unit then
    match rest with
    | '\\' :: 'u' :: rest => do
      let (second, rest) ← readUnit? rest
      if isLowSurrogate second then
        return (Char.ofNat (0x10000 + (unit - 0xD800) * 0x400 + (second - 0xDC00)), rest)
      else none
    | _ => none
  else if isLowSurrogate unit then none
  else return (Char.ofNat unit, rest)

/-- The rest of a quoted text after the opening quote; `acc` holds what was read, last first. -/
def readText? : Nat → List Char → List Char → Option (String × List Char)
  | 0, _, _ => none
  | _ + 1, _, [] => none
  | fuel + 1, acc, c :: rest =>
    if c = '"' then some (String.ofList acc.reverse, rest)
    else if c = '\\' then
      match rest with
      | '"' :: rest => readText? fuel ('"' :: acc) rest
      | '\\' :: rest => readText? fuel ('\\' :: acc) rest
      | '/' :: rest => readText? fuel ('/' :: acc) rest
      | 'b' :: rest => readText? fuel ('\x08' :: acc) rest
      | 'f' :: rest => readText? fuel ('\x0c' :: acc) rest
      | 'n' :: rest => readText? fuel ('\n' :: acc) rest
      | 'r' :: rest => readText? fuel ('\r' :: acc) rest
      | 't' :: rest => readText? fuel ('\t' :: acc) rest
      | 'u' :: rest =>
        match readEscapedChar? rest with
        | some (c, rest) => readText? fuel (c :: acc) rest
        | none => none
      | _ => none
    else if c.toNat < 32 then none
    else readText? fuel (c :: acc) rest

/-- The fraction after a point: its digits, at least one. -/
def readFraction? : List Char → Option (List Char × List Char)
  | '.' :: rest =>
    match rest.span Char.isDigit with
    | ([], _) => none
    | (digits, rest) => some (digits, rest)
  | rest => some ([], rest)

/-- An exponent: whether it is negative, and its size. -/
abbrev Exponent := Bool × Nat

/-- The exponent after `e` or `E`; none where there is no such letter. -/
def readExponent? (cs : List Char) : Option (Option Exponent × List Char) :=
  let digits (negative : Bool) (cs : List Char) : Option (Option Exponent × List Char) :=
    match cs.span Char.isDigit with
    | ([], _) => none
    | (digits, rest) => some (some (negative, ofDigits digits), rest)
  match cs with
  | c :: rest =>
    if c = 'e' || c = 'E' then
      match rest with
      | '-' :: rest => digits true rest
      | '+' :: rest => digits false rest
      | rest => digits false rest
    else some (none, cs)
  | [] => some (none, cs)

/-- The whole part of a number: `0` alone or digits that do not start with `0`. -/
def readWhole? (cs : List Char) : Option (List Char × List Char) :=
  match cs with
  | '0' :: rest => some (['0'], rest)
  | _ =>
    match cs.span Char.isDigit with
    | ([], _) => none
    | (digits, rest) => some (digits, rest)

/-- A whole number: an `int` where it fits, a `real` otherwise. -/
def ofWhole? (negative : Bool) (s : Scaled) : Option Json :=
  if s.exponent ≠ 0 then (s.value? negative).map .real
  else if negative then
    if s.significand = 0 || 0x8000000000000000 < s.significand then (s.value? negative).map .real
    else some (.int (-(s.significand : Int)))
  else some (.int s.significand)

/-- A number: a `real` where it has a fraction or an exponent. -/
def readNumber? (cs : List Char) : Option (Json × List Char) := do
  let (negative, cs) := match cs with
    | '-' :: rest => (true, rest)
    | _ => (false, cs)
  let (whole, cs) ← readWhole? cs
  let (fraction, cs) ← readFraction? cs
  let (exponent, cs) ← readExponent? cs
  let scaled := (Scaled.whole 0 whole).fraction fraction
  match exponent with
  | some (falls, size) => return (.real (← scaled.raise? negative falls size), cs)
  | none =>
    if fraction.isEmpty then return (← ofWhole? negative scaled, cs)
    else return (.real (← scaled.value? negative), cs)

/-- Drops a fixed word. -/
def dropWord? : List Char → List Char → Option (List Char)
  | [], cs => some cs
  | w :: word, c :: cs => if w = c then dropWord? word cs else none
  | _ :: _, [] => none

/-- The next token of a text that does not start with a blank. -/
def readToken? (c : Char) (rest : List Char) : Option (Token × List Char) :=
  match c with
  | '[' => some (.openArr, rest)
  | ']' => some (.closeArr, rest)
  | '{' => some (.openObj, rest)
  | '}' => some (.closeObj, rest)
  | ',' => some (.comma, rest)
  | ':' => some (.colon, rest)
  | '"' => (readText? (rest.length + 1) [] rest).map fun (s, rest) => (.text s, rest)
  | 'n' => (dropWord? "ull".toList rest).map fun rest => (.leaf .null, rest)
  | 't' => (dropWord? "rue".toList rest).map fun rest => (.leaf (.bool true), rest)
  | 'f' => (dropWord? "alse".toList rest).map fun rest => (.leaf (.bool false), rest)
  | _ => (readNumber? (c :: rest)).map fun (v, rest) => (.leaf v, rest)

/-- Is the character a blank between tokens? -/
def isGap (c : Char) : Bool := c = ' ' || c = '\t' || c = '\n' || c = '\r'

namespace Token

/-- Cuts text into tokens; `acc` holds those found so far, last first. -/
def scanFrom : Nat → List Token → List Char → Option (List Token)
  | 0, _, _ => none
  | _ + 1, acc, [] => some acc.reverse
  | fuel + 1, acc, c :: rest =>
    if isGap c then scanFrom fuel acc rest
    else match readToken? c rest with
      | some (token, rest) => scanFrom fuel (token :: acc) rest
      | none => none

/-- The tokens of a text, none where it holds something that is no token. -/
def scan (cs : List Char) : Option (List Token) := scanFrom (cs.length + 1) [] cs

end Token

/-- How many lists and objects may stand around a value. -/
def maxNesting : Nat := 127

mutual

/-- One value at the start of a token list; `depth` more levels may be opened. -/
def readValue : Nat → Nat → List Token → Option (Json × List Token)
  | 0, _, _ => none
  | _ + 1, _, [] => none
  | fuel + 1, depth, token :: rest =>
    match token with
    | .leaf value => some (value, rest)
    | .text s => some (.str s, rest)
    | .openArr =>
      match depth, rest with
      | 0, _ => none
      | _ + 1, .closeArr :: rest => some (.arr [], rest)
      | depth + 1, rest => readItems fuel depth [] rest
    | .openObj =>
      match depth, rest with
      | 0, _ => none
      | _ + 1, .closeObj :: rest => some (.obj [], rest)
      | depth + 1, rest => readMembers fuel depth [] rest
    | _ => none

/-- The items of a list up to its closing bracket; `acc` holds those read, last first. -/
def readItems : Nat → Nat → List Json → List Token → Option (Json × List Token)
  | 0, _, _, _ => none
  | fuel + 1, depth, acc, tokens =>
    match readValue fuel depth tokens with
    | some (value, .comma :: rest) => readItems fuel depth (value :: acc) rest
    | some (value, .closeArr :: rest) => some (.arr (value :: acc).reverse, rest)
    | _ => none

/-- The members of an object up to its closing brace. -/
def readMembers : Nat → Nat → Fields → List Token → Option (Json × List Token)
  | 0, _, _, _ => none
  | fuel + 1, depth, acc, .text key :: .colon :: tokens =>
    match readValue fuel depth tokens with
    | some (value, .comma :: rest) => readMembers fuel depth (Fields.insert key value acc) rest
    | some (value, .closeObj :: rest) => some (.obj (Fields.insert key value acc), rest)
    | _ => none
  | _ + 1, _, _, _ => none

end

/-- The value a text holds; none where the text is no JSON. -/
def parse (text : String) : Option Json := do
  let tokens ← Token.scan text.toList
  match readValue (2 * tokens.length + 2) maxNesting tokens with
  | some (value, []) => some value
  | _ => none

end Json
end DebugConsole
