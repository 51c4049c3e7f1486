/-
# Frames

On the wire a message is a block of header lines, an empty line, and a body whose
length in bytes one of the lines gives.  `Frame.write` writes the one line
`Content-Length: n`; `Frame.next` is generous about what it reads:

| header line | |
| --- | --- |
| ends with a line feed, carriage returns before it are dropped | empty: the block is over |
| `name: value`, named `Content-Length` in any case | the value is the length; the last counts |
| any other name | ignored |
| no colon, or a value that is no length | refused; reading goes on behind the line |

Blanks around name and value do not matter.  A stream that has ended may break
off inside a line, which then counts as a line; a stream that goes on is
`waiting` there.
-/

import DebugConsole.Error
import DebugConsole.Text.Blank
import DebugConsole.Text.Numeral

namespace DebugConsole
namespace Frame

/-- The longest body that is read, 64 MiB. -/
def maxLength : Nat := 64 * 1024 * 1024

/-- The name of the header line that counts, in lower case. -/
def lengthName : List Char := "content-length".toList

/-- The bytes of a message with this text as its body. -/
def write (text : String) : List UInt8 :=
  Utf8.encode ("Content-Length: " ++ toString (Utf8.size text) ++ "\r\n\r\n") ++ Utf8.encode text

/-- What a header line says. -/
inductive Header where
  | blank
  | ignored
  | length (n : Nat)
deriving DecidableEq, Repr, Inhabited

/-- Is the character part of a line end? -/
def isLineEnd (c : Char) : Bool := c = '\r' || c = '\n'

/-- Reads a header line without its end. -/
def Header.ofLine (line : List Char) : Except ProtocolProblem Header :=
  if line.isEmpty then .ok .blank
  else
    match line.span (· ≠ ':') with
    | (_, []) => .error (.malformedHeader (String.ofList line))
    | (name, _ :: value) =>
      if (Text.trimChars name).map Char.toLower = lengthName then
        let value := String.ofList (Text.trimChars value)
        match Text.uint64? value with
        | some n => .ok (.length n.toNat)
        | none => .error (.invalidLength value)
      else .ok .ignored

/-- Reads the bytes of a header line. -/
def Header.ofBytes (bytes : List UInt8) : Except Error Header :=
  match Utf8.decode bytes with
  | .error flaw => .error (.inputOutput flaw.message)
  | .ok line => (Header.ofLine (Text.dropEndWhile isLineEnd line.toList)).mapError .protocol

/-- What a stream holds next. -/
inductive Outcome where
  /-- A message, and the bytes behind it. -/
  | message (text : String) (rest : List UInt8)
  /-- No message, and the bytes behind what was consumed. -/
  | failed (error : Error) (rest : List UInt8)
  /-- The bytes so far are the beginning of a message. -/
  | waiting
deriving DecidableEq, Repr, Inhabited

/-- Reads the body behind a header block that gave this length. -/
def body (ended : Bool) (length? : Option Nat) (bytes : List UInt8) : Outcome :=
  match length? with
  | none => .failed (.protocol .missingLength) bytes
  | some n =>
    if maxLength < n then .failed (.protocol (.lengthTooLarge n)) bytes
    else if bytes.length < n then
      if ended then .failed .adapterCrashed [] else .waiting
    else
      match Utf8.decode (bytes.take n) with
      | .ok text => .message text (bytes.drop n)
      | .error flaw => .failed (.protocol (.bodyNotText flaw)) (bytes.drop n)

/-- Reads on inside a header block: `line` holds the bytes of the current line, last first,
`length?` the length that the lines before it gave. -/
def scan (ended : Bool) : List UInt8 → Option Nat → List UInt8 → Outcome
  | line, length?, [] =>
    if !ended then .waiting
    else if line.isEmpty then .failed .adapterCrashed []
    else
      match Header.ofBytes line.reverse with
      | .error e => .failed e []
      | .ok .blank => body ended length? []
      | .ok _ => .failed .adapterCrashed []
  | line, length?, byte :: rest =>
    if byte = 0x0A then
      match Header.ofBytes (byte :: line).reverse with
      | .error e => .failed e rest
      | .ok .blank => body ended length? rest
      | .ok .ignored => scan ended [] length? rest
      | .ok (.length n) => scan ended [] (some n) rest
    else scan ended (byte :: line) length? rest

/-- The next message of a stream of which these bytes are left; more may come unless the stream
has ended. -/
def next (ended : Bool) (bytes : List UInt8) : Outcome := scan ended [] none bytes

/-- Does reading stop for good at this error? -/
def isFinal : Error → Bool
  | .adapterCrashed => true
  | .inputOutput _ => true
  | _ => false

/-- What a stream holds that ends with these bytes: message by message, up to a limit, and no
further than the first error that is final. -/
def results : Nat → List UInt8 → List (Except Error String)
  | 0, _ => []
  | limit + 1, bytes =>
    match next true bytes with
    | .message text rest => .ok text :: results limit rest
    | .failed e rest => .error e :: (if isFinal e then [] else results limit rest)
    | .waiting => []

end Frame
end DebugConsole
