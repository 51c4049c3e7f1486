/-
# A client and its program

A link joins a client to an adapter program.  Requests wait in the outbox until
the program reads them; what it writes waits until the reader takes it.  Time is
told by what has to happen: a client that waits lets the program read and write
(`turn`), then, if that did not help, sees the end of its stream (`hangUp`) or
finds that its time is up (`timeUp`).

A request is written when the pipe to the program has taken all of it.  A pipe
holds `pipeSize` bytes that were not read, so a longer request, or one behind it,
is written only as the program reads; it cannot be written any more when the
program exits before that.

A program that has exited is noticed only by waiting, so a request that is written
meanwhile fails like one that was written before.
-/

import DebugConsole.Adapter.Program
import DebugConsole.Wire.Client

namespace DebugConsole

/-- A client with the program it talks to. -/
structure Link where
  program : Program
  client : Client := {}
  /-- Numbers and texts of requests that were not read, oldest first. -/
  outbox : List (Nat × String) := []
  /-- Bytes that the program wrote and the reader has not taken. -/
  unread : List UInt8 := []
deriving Inhabited

namespace Link

/-- How many bytes a pipe holds, 64 KiB. -/
def pipeSize : Nat := 64 * 1024

/-- What is said of a request that cannot be written to a program that is gone. -/
def brokenPipe : String := "Broken pipe (os error 32)"

/-- Does the pipe hold all that was not read? -/
def fits (l : Link) : Bool :=
  (l.outbox.flatMap fun request => Frame.write request.2).length ≤ pipeSize

/-- Sends a request without waiting, and gives its number.  It cannot be written when the stream
has ended and the program is gone. -/
def post (command : String) (arguments : Option Json) (l : Link) : Nat × Link :=
  let seq := l.client.nextSeq
  let client := (l.client.number command).step (.entered seq)
  if l.client.ended && l.program.exited then
    (seq, { l with client := client.step (.unwritable seq brokenPipe) })
  else
    let text := (Client.requestMessage seq command arguments).toJson.print
    let l := { l with client, outbox := l.outbox ++ [(seq, text)] }
    (seq, if l.fits then { l with client := l.client.step (.written seq) } else l)

/-- The program reads one request, which is written by then. -/
def serve (request : Nat × String) (l : Link) : Link :=
  let (written, program) := l.program.read request.2
  { l with
    program
    client := l.client.step (.written request.1)
    unread := l.unread ++ written }

/-- The program reads requests until it exits. -/
def serveAll : List (Nat × String) → Link → Link
  | [], l => { l with outbox := [] }
  | request :: rest, l =>
    if l.program.exited then { l with outbox := request :: rest }
    else serveAll rest (l.serve request)

/-- The program reads what it reads at all. -/
def deliver (l : Link) : Link := l.serveAll l.outbox

/-- What a program has left that has exited was written before, or cannot be written. -/
def refuseUnread (l : Link) : Link :=
  if l.program.exited then
    { l with
      client := l.outbox.foldl (fun client request =>
        client.step (.unwritable request.1 brokenPipe)) l.client
      outbox := [] }
  else l

/-- The reader takes whole messages, at most so many; a message it cannot read ends the stream. -/
def listen : Nat → Link → Link
  | 0, l => l
  | fuel + 1, l =>
    if l.client.ended then l
    else
      match Frame.next false l.unread with
      | .message text rest => listen fuel { l with client := l.client.hear text, unread := rest }
      | .failed _ rest => { l with client := l.client.endStream, unread := rest }
      | .waiting => l

/-- Ends every request that can be ended. -/
def finish (l : Link) : Link := { l with client := l.client.onTickets Ticket.finish }

/-- The program reads and writes, and the reader takes what there is. -/
def turn (l : Link) : Link :=
  let l := l.deliver
  (l.listen (l.unread.length + 1)).refuseUnread.finish

/-- The end of the stream is noticed. -/
def hangUp (l : Link) : Link := { l with client := l.client.endStream }.finish

/-- So much time goes by that every request is over. -/
def timeUp (seconds : Nat) (l : Link) : Link :=
  { l with client := l.client.onTickets (Ticket.expire seconds) }

/-- Waits until something has happened. -/
def waitFor (seconds : Nat) (happened : Link → Bool) (l : Link) : Link :=
  let l := l.turn
  if happened l then l
  else
    let l := if l.program.exited then l.hangUp else l
    if happened l then l else l.timeUp seconds

/-- Is a request over? -/
def isOver (l : Link) (seq : Nat) : Bool := (l.client.outcome? seq).isSome

/-- Waits until these requests are over. -/
def await (seconds : Nat) (seqs : List Nat) (l : Link) : Link :=
  l.waitFor seconds fun l => seqs.all l.isOver

/-- Waits until one of these requests is over. -/
def awaitAny (seconds : Nat) (seqs : List Nat) (l : Link) : Link :=
  l.waitFor seconds fun l => seqs.any l.isOver

/-- How these requests ended. -/
def outcomes (seqs : List Nat) (l : Link) : List (Except Error Json) :=
  seqs.map fun seq => (l.client.outcome? seq).getD (.error .adapterCrashed)

end Link
end DebugConsole
