/-
# Runs of a debugger

A run begins with a debugger that has done nothing and goes on by moves, in any
order and number:

| move | |
| --- | --- |
| `operate` | an operation of the user |
| `write` | the host writes to the console |
| `sendStart` | the host lets the start request be sent |
| `take` | the host takes the next signal |
| `handle` | the host hands in a signal, at once or much later |
| `hear` | something arrives on a connection |
| `elsewhere` | the environment changes by itself |

A run may hand in signals that were never taken, in any order; what holds for all of
these runs holds for those of a careful host.  The adapters answer as the environment
pleases.
-/

import DebugConsole.Adapter.Scripted
import DebugConsole.Proofs.Lifecycle

namespace DebugConsole

open Protocol

variable {σ : Type}

/-- What a user may ask a debugger to do. -/
inductive Operation where
  | launch (target : Target)
  | relaunch
  | close
  | run
  | pause
  | resume
  | stepIn
  | stepOver
  | activeThread
  | knownThreads
  | focusThread (id : Int64)
  | stackTrace (threadId levels : Int64)
  | selectFrame (threadId : Int64) (place : UInt64)
  | currentFrame
  | scopeContents (scopeName : Option String)
  | evaluate (expression : String)
  | sourceLines (source : Source) (start length : Nat)
  | canonical (path : String)
  | setBreakpoint (path : String) (line : UInt32)
  | setEnabled (index : Nat) (enabled : Bool)
  | deleteBreakpoint (index : Nat)

/-- What happens next to a debugger. -/
inductive Move (σ : Type) where
  | operate (operation : Operation)
  | write (text : String)
  | sendStart
  | take
  | handle (signal : Signal)
  | hear (connection : Nat) (arrivals : Arrivals)
  | elsewhere (change : σ → σ)

section Next

variable [Environment σ]

/-- What an operation leaves behind, whether or not it fails. -/
def Operation.act (operation : Operation) (d : Debugger σ) : Debugger σ :=
  match operation with
  | .launch target => (Debugger.launch target d).2
  | .relaunch => (Debugger.relaunch d).2
  | .close => (Debugger.closeSession d).2
  | .run => (Debugger.run d).2
  | .pause => (Debugger.pause d).2
  | .resume => (Debugger.continueRunning d).2
  | .stepIn => (Debugger.stepIn d).2
  | .stepOver => (Debugger.stepOver d).2
  | .activeThread => (Debugger.activeThread d).2
  | .knownThreads => (Debugger.knownThreads d).2
  | .focusThread id => (Debugger.focusThread id d).2
  | .stackTrace threadId levels => (Debugger.stackTrace threadId levels d).2
  | .selectFrame threadId place => (Debugger.selectFrame threadId place d).2
  | .currentFrame => (Debugger.currentFrame d).2
  | .scopeContents scopeName => (Debugger.scopeContents scopeName d).2
  | .evaluate expression => (Debugger.evaluate expression d).2
  | .sourceLines source start length => (Debugger.sourceLines source start length d).2
  | .canonical path => (Action.canonical path d).2
  | .setBreakpoint path line => (Debugger.setBreakpoint path line d).2
  | .setEnabled index enabled => (Debugger.setEnabled index enabled d).2
  | .deleteBreakpoint index => (Debugger.deleteBreakpoint index d).2

/-- The debugger after a move.  Only the newest connection is listened to. -/
def Move.next (move : Move σ) (d : Debugger σ) : Debugger σ :=
  match move with
  | .operate operation => operation.act d
  | .write text => (Reaction.onConsole (·.write text) d).2
  | .sendStart => (Reaction.sendStart d).2
  | .take => (Debugger.takeSignal d).2
  | .handle signal => (Debugger.handle signal d).2
  | .hear connection arrivals => if d.generation = connection then d.receive arrivals else d
  | .elsewhere change => { d with environment := change d.environment }

/-- An event of the open session is taken. -/
theorem Move.next_event_of_isOpen {connection : Nat} {d : Debugger σ} (h : d.isOpen connection)
    (event : Event) :
    (Move.handle (.event connection event)).next d = (Debugger.onEvent event d).2 := by
  have hopen : d.isOpen (Signal.event connection event).generation := h
  rw [Move.next, Debugger.handle_apply, if_pos hopen]
  rfl

/-- A move, and the debugger it was made in. -/
structure Step (σ : Type) where
  before : Debugger σ
  move : Move σ

/-- The debugger that a step leads to. -/
def Step.after (step : Step σ) : Debugger σ := step.move.next step.before

/-- A run to a debugger, with its steps, last first. -/
inductive Run : List (Step σ) → Debugger σ → Prop
  | start (environment : σ) (console : Console) (suppressed : List String) :
    Run [] { environment, console, suppressed }
  | step {history : List (Step σ)} {d : Debugger σ} (run : Run history d) (move : Move σ) :
    Run (⟨d, move⟩ :: history) (move.next d)

/-- The steps of moves that are made one after the other, last first, and where they lead. -/
def Move.steps : List (Move σ) → List (Step σ) → Debugger σ → List (Step σ) × Debugger σ
  | [], history, d => (history, d)
  | move :: rest, history, d => steps rest (⟨d, move⟩ :: history) (move.next d)

/-- Where moves lead that are made one after the other. -/
def Debugger.leadTo (moves : List (Move σ)) (d : Debugger σ) : Debugger σ :=
  moves.foldl (fun d move => move.next d) d

/-- The recorded moves end where the moves alone lead. -/
theorem Move.steps_eq_leadTo (moves : List (Move σ)) (history : List (Step σ)) (d : Debugger σ) :
    (Move.steps moves history d).2 = d.leadTo moves := by
  induction moves generalizing history d with
  | nil => rfl
  | cons move rest ih => exact ih (⟨d, move⟩ :: history) (move.next d)

/-- A run goes on with any moves. -/
theorem Run.steps {history : List (Step σ)} {d : Debugger σ} (h : Run history d)
    (moves : List (Move σ)) :
    Run (Move.steps moves history d).1 (Move.steps moves history d).2 := by
  induction moves generalizing history d with
  | nil => exact h
  | cons move rest ih => exact ih (.step h move)

/-- Moves go on from one run to another. -/
theorem Run.exists_history {history : List (Step σ)} {d : Debugger σ} (h : Run history d)
    (moves : List (Move σ)) : ∃ history', Run history' (d.leadTo moves) :=
  ⟨_, Move.steps_eq_leadTo moves history d ▸ h.steps moves⟩

/-- How the configuration ends that a step begins, if it begins one: `run` configures a launched
program, the readiness of the adapter an attached one. -/
def Step.configuration? (step : Step σ) : Option (Except Error Unit) :=
  let d := step.before
  match step.move with
  | .operate .run =>
    if d.phase = .configuring ∧ d.launches ∧ d.session.isSome then some (Debugger.run d).1
    else none
  | .handle (.event connection .initialized) =>
    if d.isOpen connection ∧ d.attaches then
      some (Debugger.configure { d with phase := .configuring }).1
    else none
  | _ => none

/-- How the last configuration on the newest connection ended, if one was begun. -/
def configured? : List (Step σ) → Option (Except Error Unit)
  | [] => none
  | step :: history =>
    match step.configuration? with
    | some outcome => some outcome
    | none =>
      if step.after.generation = step.before.generation then configured? history else none

end Next

/-! ### Plain moves -/

/-- Does an operation leave sessions and breakpoints alone? -/
def Operation.isPlain : Operation → Bool
  | .launch _ | .relaunch | .close | .run => false
  | .setBreakpoint _ _ | .setEnabled _ _ | .deleteBreakpoint _ => false
  | _ => true

/-- Does a signal leave sessions and breakpoints alone? -/
def Signal.isPlain : Signal → Bool
  | .event _ (.output _) | .event _ (.continued _ _) | .event _ (.stopped _) => true
  | .event _ (.thread _) | .event _ (.other _ _) => true
  | _ => false

/-- Does a move leave sessions and breakpoints alone? -/
def Move.isPlain : Move σ → Bool
  | .operate operation => operation.isPlain
  | .handle signal => signal.isPlain
  | _ => true

/-- The moves that are not plain, one by one. -/
theorem Move.casesPlain {P : Move σ → Prop}
    (plain : ∀ move, move.isPlain → P move)
    (launch : ∀ target, P (.operate (.launch target)))
    (relaunch : P (.operate .relaunch))
    (close : P (.operate .close))
    (run : P (.operate .run))
    (setBreakpoint : ∀ path line, P (.operate (.setBreakpoint path line)))
    (setEnabled : ∀ index enabled, P (.operate (.setEnabled index enabled)))
    (deleteBreakpoint : ∀ index, P (.operate (.deleteBreakpoint index)))
    (initialized : ∀ connection, P (.handle (.event connection .initialized)))
    (exited : ∀ connection body, P (.handle (.event connection (.exited body))))
    (terminated : ∀ connection body, P (.handle (.event connection (.terminated body))))
    (breakpoint : ∀ connection reason descriptor,
      P (.handle (.event connection (.breakpoint reason descriptor))))
    (closed : ∀ connection, P (.handle (.closed connection)))
    (started : ∀ connection result, P (.handle (.started connection result)))
    (move : Move σ) : P move := by
  rcases move with operation | _ | _ | _ | signal | _ | _
  · cases operation with
    | launch target => exact launch target
    | relaunch => exact relaunch
    | close => exact close
    | run => exact run
    | setBreakpoint path line => exact setBreakpoint path line
    | setEnabled index enabled => exact setEnabled index enabled
    | deleteBreakpoint index => exact deleteBreakpoint index
    | _ => exact plain _ rfl
  · exact plain _ rfl
  · exact plain _ rfl
  · exact plain _ rfl
  · rcases signal with ⟨connection, event⟩ | ⟨connection⟩ | ⟨connection, result⟩
    · cases event with
      | initialized => exact initialized connection
      | exited body => exact exited connection body
      | terminated body => exact terminated connection body
      | breakpoint reason descriptor => exact breakpoint connection reason descriptor
      | _ => exact plain _ rfl
    · exact closed connection
    · exact started connection result
  · exact plain _ rfl
  · exact plain _ rfl

section Plain

open Debugger

variable [Environment σ]

omit [Environment σ] in
/-- A signal is taken out of the session. -/
theorem takeSignal_cases (d : Debugger σ) : takeSignal d = (none, d) ∨
    ∃ session signal taken, d.session = some session ∧
      session.next? d.generation = some (signal, taken) ∧
      takeSignal d = (some signal, { d with session := some taken }) := by
  unfold takeSignal
  cases d.session with
  | none => exact .inl rfl
  | some session =>
    rw [Option.bind_some]
    cases hnext : session.next? d.generation with
    | none => exact .inl rfl
    | some next => exact .inr ⟨session, next.1, next.2, rfl, hnext, rfl⟩

omit [Environment σ] in
/-- A signal that is taken belongs to the open session. -/
theorem isOpen_of_takeSignal {d d₁ : Debugger σ} {signal : Signal}
    (h : takeSignal d = (some signal, d₁)) :
    d.isOpen signal.generation ∧ d₁.isOpen signal.generation := by
  rcases takeSignal_cases d with heq | ⟨session, taken, left, hsession, hnext, heq⟩ <;>
    cases h.symm.trans heq
  have hown := Session.generation_of_next? hnext
  exact ⟨by simp [isOpen, hown, hsession], by simp [isOpen, hown]⟩

/-- What is taken was pending. -/
theorem takeSignal_spec (d : Debugger σ) : Quiet d (takeSignal d).2 ∧
    ∀ signal, (takeSignal d).1 = some signal → signal ∈ d.pending := by
  rcases takeSignal_cases d with heq | ⟨session, signal, taken, hsession, hnext, heq⟩ <;> rw [heq]
  · exact ⟨refl_of Quiet d, nofun⟩
  obtain ⟨htaken, hleft⟩ := Session.pending_of_next? hnext
  refine ⟨.of_flows (by rw [hsession]; rfl) (.of_pending rfl fun signal hmem => ?_),
    fun signal hsignal => ?_⟩
  · obtain ⟨after, hafter, hpending⟩ := mem_pending.1 hmem
    obtain rfl := Option.some.inj hafter
    exact mem_pending.2 ⟨session, hsession, hleft signal hpending⟩
  · obtain rfl := Option.some.inj hsignal
    exact mem_pending.2 ⟨session, hsession, htaken⟩

/-- A plain move configures no session. -/
theorem Step.configuration?_of_isPlain {step : Step σ} (h : step.move.isPlain) :
    step.configuration? = none := by
  obtain ⟨d, move⟩ := step
  unfold configuration?
  split
  · rename_i hmove
    rw [hmove] at h
    cases h
  · rename_i hmove
    rw [hmove] at h
    cases h
  · rfl

/-- All plain operations but letting the program go on ask, select and read. -/
theorem Operation.within_act_of_ne {R : Debugger σ → Debugger σ → Prop} [AdmitsSelections R]
    [AdmitsLookUps R] {operation : Operation} (h : operation.isPlain)
    (hresume : operation ≠ .resume) (d : Debugger σ) : R d (operation.act d) := by
  cases operation with
  | resume => exact absurd rfl hresume
  | pause => exact within_pause d
  | stepIn => exact within_stepIn d
  | stepOver => exact within_stepOver d
  | activeThread => exact within_activeThread d
  | knownThreads => exact within_knownThreads d
  | focusThread id => exact within_focusThread id d
  | stackTrace threadId levels => exact within_stackTrace threadId levels d
  | selectFrame threadId place => exact within_selectFrame threadId place d
  | currentFrame => exact within_currentFrame d
  | scopeContents scopeName => exact within_scopeContents scopeName d
  | evaluate expression => exact within_evaluate expression d
  | sourceLines source start length => exact within_sourceLines source start length d
  | canonical path => exact AdmitsQueries.canonical path d
  | _ => cases h

section Reports

variable {R : Debugger σ → Debugger σ → Prop} [AdmitsReports R] [AdmitsLookUps R]

/-- What holds of each plain operation holds of all of them. -/
theorem Operation.within_act {operation : Operation} (h : operation.isPlain) (d : Debugger σ) :
    R d (operation.act d) := by
  by_cases hresume : operation = .resume
  · subst hresume
    exact within_continueRunning d
  · exact within_act_of_ne h hresume d

/-- What holds of each plain signal holds of all of them. -/
theorem within_react {signal : Signal} (h : signal.isPlain) (d : Debugger σ) :
    R d (react signal d).2 := by
  rcases signal with ⟨connection, event⟩ | _ | _
  · cases event with
    | output body =>
      rw [react, onEvent_output]
      split_ifs
      · exact refl_of R d
      · exact within_onConsole (·.write body.output) d
    | continued threadId allThreads => exact within_noteContinued threadId allThreads d
    | stopped body => exact within_onStopped body d
    | thread body => exact within_onThread body d
    | other name body => exact refl_of R d
    | _ => cases h
  · cases h
  · cases h

end Reports

/-- A plain move leaves sessions and breakpoints alone. -/
theorem Move.lasts_next {move : Move σ} (h : move.isPlain) (d : Debugger σ) :
    Lasts d (move.next d) := by
  rcases move with operation | text | _ | _ | signal | ⟨connection, arrivals⟩ | change
  · exact (Operation.within_act (R := Stays) h d).toLasts
  · exact (Stays.of_console d _).toLasts
  · exact (calm_sendStart d).toLasts
  · exact (takeSignal_spec d).1.toLasts
  · rw [next, handle_apply]
    split
    · exact (within_react (R := Stays) h d).toLasts
    · exact refl_of Lasts d
  · rw [next]
    split
    · exact ⟨rfl, Option.isSome_map, rfl, .inl rfl, rfl, rfl, rfl, rfl, .of_eq rfl⟩
    · exact refl_of Lasts d
  · exact ⟨rfl, rfl, rfl, .inl rfl, rfl, rfl, rfl, rfl, .of_eq rfl⟩

end Plain

/-! ### Rehearsals -/

namespace Script

/-- A program launched with a scripted adapter. -/
def launched : Target where
  executable := { command := "adapter" }
  adapterId := "scripted"
  mode := .launch { program := "program" }

/-- A program a scripted adapter is attached to. -/
def attached : Target where
  executable := { command := "adapter" }
  adapterId := "scripted"
  mode := .attach { pid := some 1 }

/-- A debugger that has done nothing, with a script to play. -/
def rehearse (script : Script) : Debugger Script := { environment := script }

end Script
end DebugConsole
