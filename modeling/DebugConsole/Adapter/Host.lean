/-
# A host with adapter programs

A host has files and knows adapter programs by their paths.  Connecting starts a
fresh copy of a program; a path that leads to no program is a file that cannot be
run, or nothing at all (`load`).  A name without `/` is looked for in the
directories of the search path (`loadFirst`).  Command and arguments hold no NUL.

Time stands still on a host while anything can happen.  When nothing is left to
do, the end of a stream is noticed (`noticeExit?`); when not even the user can do
anything, the time of the request that starts the program is up (`noticeTime?`).
-/

import DebugConsole.Adapter.Link
import DebugConsole.Debugger.Environment
import DebugConsole.FileTree

namespace DebugConsole

/-- Files, adapter programs, and the connection to one of them. -/
structure Host where
  files : FileTree := {}
  programs : List (String × Program) := []
  searchPath : List String := []
  /-- How long a request may take. -/
  requestSeconds : Nat := 30
  link : Option Link := none
  /-- The number of the start request that is not answered yet. -/
  starting : Option Nat := none
  /-- The numbers of requests that were made together with others and have no answer yet, in the
  order in which they were sent. -/
  posted : List Nat := []
  /-- Requests that were read by programs of earlier connections, oldest first. -/
  heardBefore : List Json := []
deriving Inhabited

namespace Host

/-- The program with a path. -/
def program? (host : Host) (path : String) : Option Program :=
  (host.programs.find? (·.1 = path)).map (·.2)

/-- The program that a path leads to. -/
def load (host : Host) (path : String) : Except FileProblem Program :=
  match host.program? path, host.files.resolve path with
  | some program, _ => .ok program
  | none, .ok parts =>
    match host.program? (FileTree.absolute parts) with
    | some program => .ok program
    | none => .error .notPermitted
  | none, .error problem => .error problem

/-- Where a command may lie: at its path, or in the directories that are searched. -/
def places (host : Host) (command : String) : List String :=
  if command = "" || command.toList.contains '/' then [command]
  else host.searchPath.map (Text.joinPath · command)

/-- The path of a program that a name leads to. -/
def search? (host : Host) (command : String) : Option String :=
  (host.places command).find? fun path => (host.load path).isOk

/-- The first program at these places.  A place without a file is passed over, a file that may
not be run is remembered, and any other problem ends the search. -/
def loadFirst (host : Host) (problem : FileProblem) : List String → Except FileProblem Program
  | [] => .error problem
  | place :: rest =>
    match host.load place with
    | .ok program => .ok program
    | .error .notPermitted => loadFirst host .notPermitted rest
    | .error .notFound => loadFirst host (passOver .notFound) rest
    | .error .notDirectory => loadFirst host (passOver .notDirectory) rest
    | .error other => .error other
where
  passOver (last : FileProblem) : FileProblem :=
    if problem = .notPermitted then problem else last

/-- The program of a command; a name that is too long for a file is not looked for. -/
def loadCommand (host : Host) (command : String) : Except FileProblem Program :=
  if !command.toList.contains '/' && FileTree.maxName < command.utf8ByteSize then
    .error .nameTooLong
  else host.loadFirst .notFound (host.places command)

/-- The longest argument of a program, in bytes. -/
def maxArgument : Nat := 131071

/-- The program that is started, or why none can be. -/
def launch (host : Host) (executable : Executable) : Except FileProblem Program :=
  if (executable.command :: executable.args).any (·.toList.contains '\x00') then
    .error .nulInCommand
  else
    match host.loadCommand executable.command with
    | .ok program =>
      if executable.args.any (maxArgument < ·.utf8ByteSize) then .error .argumentTooLong
      else .ok program
    | .error problem => .error problem

/-- The requests that recorded programs have read, oldest first. -/
def heard (host : Host) : List Json :=
  host.heardBefore ++ ((host.link.map (·.program.heard)).getD [])

/-- Hands over what the reader has heard. -/
def collect (host : Host) (link : Link) : Arrivals × Host :=
  let started := host.starting.bind link.client.outcome?
  ({ events := link.client.events
     ended := link.client.ended
     started := started.map fun outcome => outcome.map fun _ => () },
    { host with
      link := some { link with client := { link.client with events := [] } }
      starting := if started.isSome then none else host.starting })

/-- Notices that the program has exited. -/
def noticeExit? (host : Host) : Option (Arrivals × Host) :=
  match host.link with
  | some link =>
    if link.program.exited && !link.client.ended then some (host.collect link.hangUp) else none
  | none => none

/-- Notices that the program has not answered the start request in time. -/
def noticeTime? (host : Host) : Option (Arrivals × Host) :=
  match host.link, host.starting with
  | some link, some _ => some (host.collect (link.timeUp host.requestSeconds))
  | _, _ => none

/-- Waits until one of these requests is over; without any time to wait it is too late at once. -/
def wait (host : Host) (seqs : List Nat) (link : Link) : Link :=
  if host.requestSeconds = 0 then link.timeUp 0 else link.awaitAny host.requestSeconds seqs

instance : Environment Host where
  connect executable host :=
    match host.launch executable with
    | .ok program =>
      (.ok (), { host with
        link := some { program }
        starting := none
        posted := []
        heardBefore := host.heard })
    | .error problem =>
      (.error (.adapterStartFailed
        ("Failed to start " ++ executable.command ++ ": " ++ problem.message)), host)
  request request host :=
    match host.link with
    | none => ({ answer := .error .adapterCrashed }, host)
    | some link =>
      let (seq, link) := link.post request.command request.arguments
      let link := host.wait [seq] link
      let (arrivals, host) := host.collect link
      ({ answer := (link.client.outcome? seq).getD (.error .adapterCrashed), arrivals }, host)
  post request host :=
    match host.link with
    | none => ((some (.error .adapterCrashed), {}), host)
    | some link =>
      let (seq, link) := link.post request.command request.arguments
      let link := if host.requestSeconds = 0 then link.timeUp 0 else link
      match link.client.outcome? seq with
      | some outcome => ((some outcome, {}), { host with link := some link })
      | none => ((none, {}), { host with link := some link, posted := host.posted ++ [seq] })
  await _ others host :=
    match host.link with
    | none => ((placeAmong others 0, { answer := .error .adapterCrashed }), host)
    | some link =>
      let seqs := host.posted.drop (host.posted.length - (others.length + 1))
      let link := host.wait seqs link
      let place := seqs.findIdx link.isOver
      let answer := (seqs[place]?.bind link.client.outcome?).getD (.error .adapterCrashed)
      let posted := match seqs[place]? with
        | some seq => host.posted.erase seq
        | none => host.posted
      let (arrivals, host) := { host with posted }.collect link
      ((placeAmong others place, { answer, arrivals }), host)
  start request host :=
    match host.link with
    | none => ({}, host)
    | some link =>
      let (seq, link) := link.post request.command request.arguments
      { host with starting := some seq }.collect link.turn
  readFile path host := host.files.readText path
  canonical? path host := host.files.canonical? path

end Host
end DebugConsole
