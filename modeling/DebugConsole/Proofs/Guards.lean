/-
# What has to wait for the program

Looking at a program, stepping and pausing it, and changing breakpoints that the adapter knows of
make sense only once the program was started (`Operation.needsProgram`).  Each of these operations
begins with the check for that (`Action.Checks`), so what it is asked for, and whether it could be
answered without the adapter, makes no difference:

| operation | without a session | before the start |
| --- | --- | --- |
| that needs the program | refused, `noSession` | refused, `notYetRunning` |
| `setBreakpoint` | refused, `noSession` | recorded, but not sent |

A refused operation asks nothing and changes nothing (`Debugger.isGuarded`).
-/

import DebugConsole.Proofs.Rollback

namespace DebugConsole

open Protocol

variable {σ α β : Type}

/-- Does an operation need a program that was started?  A text does if the adapter holds it. -/
def Operation.needsProgram : Operation → Bool
  | .launch _ | .relaunch | .close | .run | .canonical _ | .setBreakpoint _ _ => false
  | .sourceLines source _ _ => source.reference.any (· ≠ 0)
  | _ => true

namespace Action

/-- The first thing an action does is to check that there is a session and a started program. -/
def Checks (a : Action σ α) : Prop := ∃ rest, a = requireSession false >>= rest

/-- What follows an operation that checks for a session is not reached without one. -/
theorem Checks.bind {a : Action σ α} (h : a.Checks) (f : α → Action σ β) : (a >>= f).Checks := by
  obtain ⟨rest, rfl⟩ := h
  exact ⟨fun x => rest x >>= f, bind_assoc ..⟩

/-- An action that checks has found a session and a started program where it succeeds. -/
theorem Checks.requireSession_apply {a : Action σ α} (h : a.Checks) {d : Debugger σ} {x : α}
    (hok : (a d).1 = .ok x) : requireSession false d = (.ok (), d) := by
  obtain ⟨rest, rfl⟩ := h
  rw [requireSession_bind_apply] at hok
  rw [Action.requireSession_apply]
  split_ifs at hok ⊢
  rfl

/-- The check fails with this error, before anything is done. -/
def Refuses (d : Debugger σ) (e : Error) : Prop :=
  ∀ {α : Type} {a : Action σ α}, a.Checks → a d = (.error e, d)

/-- Without a session there is nothing to ask. -/
theorem refuses_of_no_session {d : Debugger σ} (h : d.session = none) : Refuses d .noSession := by
  rintro α a ⟨rest, rfl⟩
  rw [requireSession_bind_apply, if_pos (by rw [h]; rfl)]

/-- Before the program runs there is nothing to ask either. -/
theorem refuses_of_not_started {d : Debugger σ} (hsession : d.session.isSome)
    (hphase : d.phase.isStarted = false) : Refuses d .notYetRunning := by
  rintro α a ⟨rest, rfl⟩
  have hopen : ¬d.session.isNone := by simpa [Option.isSome_iff_ne_none] using hsession
  rw [requireSession_bind_apply, if_neg hopen, if_pos (by rw [hphase]; rfl)]

/-- An operation that checks first is refused, and nothing has changed. -/
theorem Refuses.unit {d : Debugger σ} {e : Error} (h : Refuses d e) {a : Action σ Unit}
    (ha : a.Checks) : (a d).1 = .error e ∧ (a d).2 = d := by
  rw [h ha]
  exact ⟨rfl, rfl⟩

/-- The same of an operation with a result. -/
theorem Refuses.value {d : Debugger σ} {e : Error} (h : Refuses d e) {a : Action σ α}
    (ha : a.Checks) : ((a d).1.map fun _ => ()) = .error e ∧ (a d).2 = d := by
  rw [h ha]
  exact ⟨rfl, rfl⟩

end Action

namespace Debugger

/-! ### Which operations check -/

open DebugConsole.Action

/-- The thread in focus is looked up behind a check. -/
theorem checks_activeThread : (activeThread : Action σ Thread).Checks := ⟨_, rfl⟩

/-- So are the known threads. -/
theorem checks_knownThreads : (knownThreads : Action σ Threads).Checks := ⟨_, rfl⟩

/-- Turning to a thread checks first. -/
theorem checks_focusThread (id : Int64) : (focusThread id : Action σ Unit).Checks := ⟨_, rfl⟩

variable [Environment σ]

/-- Pausing checks first. -/
theorem checks_pause : (pause : Action σ Unit).Checks := ⟨_, rfl⟩

/-- Resuming checks first. -/
theorem checks_continueRunning : (continueRunning : Action σ Unit).Checks := ⟨_, rfl⟩

theorem checks_stepIn : (stepIn : Action σ Unit).Checks := ⟨_, rfl⟩

theorem checks_stepOver : (stepOver : Action σ Unit).Checks := ⟨_, rfl⟩

/-- A stack is looked at behind a check. -/
theorem checks_stackTrace (threadId levels : Int64) :
    (stackTrace threadId levels : Action σ (List StackFrame)).Checks := ⟨_, rfl⟩

/-- Selecting a frame checks first. -/
theorem checks_selectFrame (threadId : Int64) (place : UInt64) :
    (selectFrame threadId place : Action σ Unit).Checks := (checks_stackTrace _ _).bind _

/-- The current frame is that of the thread in focus, which is checked for. -/
theorem checks_currentFrame : (currentFrame : Action σ (Option StackFrame)).Checks :=
  checks_activeThread.bind _

/-- Variables are looked up behind a check. -/
theorem checks_scopeContents (scopeName : Option String) :
    (scopeContents scopeName : Action σ (List ScopeVariables)).Checks := ⟨_, rfl⟩

/-- An expression is evaluated behind a check. -/
theorem checks_evaluate (expression : String) :
    (evaluate expression : Action σ EvaluateBody).Checks := ⟨_, rfl⟩

/-- Enabling or disabling a breakpoint checks first. -/
theorem checks_setEnabled (index : Nat) (enabled : Bool) :
    (setEnabled index enabled : Action σ Unit).Checks := ⟨_, rfl⟩

/-- Deleting a breakpoint checks first. -/
theorem checks_deleteBreakpoint (index : Nat) :
    (deleteBreakpoint index : Action σ Unit).Checks := ⟨_, rfl⟩

/-- A text that the adapter holds is not looked up before the check, even if it is kept. -/
theorem checks_sourceLines {source : Source} (h : source.reference.any (· ≠ 0))
    (start length : Nat) : (sourceLines source start length : Action σ (List String)).Checks := by
  obtain ⟨reference, hreference, hheld⟩ : ∃ reference, source.reference = some reference ∧
      reference ≠ 0 := by simpa [Option.any_eq_true] using h
  have hfilter : source.reference.filter (· ≠ 0) = some reference := by
    rw [hreference, Option.filter_some, if_pos (decide_eq_true hheld)]
  unfold sourceLines
  rw [hfilter]
  exact ⟨_, rfl⟩

end Debugger

open Debugger

variable [Environment σ]

/-- **What is refused is not done.**  Every operation that needs the program ends with the error of
its check, and the debugger is what it was. -/
theorem Operation.refused {operation : Operation} (h : operation.needsProgram) {d : Debugger σ}
    {e : Error} (hrefuses : Action.Refuses d e) :
    operation.outcome d = .error e ∧ operation.act d = d := by
  cases operation with
  | pause => exact hrefuses.unit checks_pause
  | resume => exact hrefuses.unit checks_continueRunning
  | stepIn => exact hrefuses.unit checks_stepIn
  | stepOver => exact hrefuses.unit checks_stepOver
  | activeThread => exact hrefuses.value checks_activeThread
  | knownThreads => exact hrefuses.value checks_knownThreads
  | focusThread id => exact hrefuses.unit (checks_focusThread id)
  | stackTrace threadId levels => exact hrefuses.value (checks_stackTrace threadId levels)
  | selectFrame threadId place => exact hrefuses.unit (checks_selectFrame threadId place)
  | currentFrame => exact hrefuses.value checks_currentFrame
  | scopeContents scopeName => exact hrefuses.value (checks_scopeContents scopeName)
  | evaluate expression => exact hrefuses.value (checks_evaluate expression)
  | sourceLines source start length => exact hrefuses.value (checks_sourceLines h start length)
  | setEnabled index enabled => exact hrefuses.unit (checks_setEnabled index enabled)
  | deleteBreakpoint index => exact hrefuses.unit (checks_deleteBreakpoint index)
  | _ => cases h

namespace Debugger

/-- However many refused operations the user tries, the debugger is what it was. -/
theorem leadTo_of_refuses {d : Debugger σ} {e : Error} (hrefuses : Action.Refuses d e)
    {operations : List Operation} (h : ∀ operation ∈ operations, operation.needsProgram) :
    d.leadTo (operations.map .operate) = d := by
  induction operations with
  | nil => rfl
  | cons operation rest ih =>
    obtain ⟨hoperation, hrest⟩ := List.forall_mem_cons.1 h
    have hsame : (Move.operate operation).next d = d := (operation.refused hoperation hrefuses).2
    rw [List.map_cons, leadTo, List.foldl_cons, hsame]
    exact ih hrest

/-- Without a session no breakpoint is set. -/
theorem setBreakpoint_of_no_session {d : Debugger σ} (h : d.session = none) (path : String)
    (line : UInt32) : setBreakpoint path line d = (.error .noSession, d) := by
  rw [setBreakpoint_apply, if_neg (by simp [h])]

/-- Before the start a breakpoint is only recorded. -/
theorem setBreakpoint_of_not_started {d : Debugger σ} (hsession : d.session.isSome)
    (hphase : d.phase.isStarted = false) (path : String) (line : UInt32) :
    setBreakpoint path line d = (.ok (d.breakpoints.lastIndex + 1, some pendingMessage),
      { d with breakpoints := d.breakpoints.add path line }) := by
  rw [setBreakpoint_apply, if_pos hsession, if_neg (by simp [hphase])]

/-- Nothing is asked and nothing changes before the program is started, but for breakpoints that are
set, and those are only recorded. -/
structure IsGuarded (d : Debugger σ) : Prop where
  /-- Without a session every operation that needs the program fails for that reason. -/
  closed : d.session = none → ∀ operation : Operation, operation.needsProgram →
    operation.outcome d = .error .noSession ∧ operation.act d = d
  /-- With a session but before the start it fails because of the start. -/
  early : d.session.isSome → d.phase = .initializing ∨ d.phase = .configuring →
    ∀ operation : Operation, operation.needsProgram →
      operation.outcome d = .error .notYetRunning ∧ operation.act d = d
  /-- Any number of these operations comes to nothing. -/
  idle : d.session = none ∨ d.phase = .initializing ∨ d.phase = .configuring →
    ∀ operations : List Operation, (∀ operation ∈ operations, operation.needsProgram) →
      d.leadTo (operations.map .operate) = d
  /-- Without a session no breakpoint is set. -/
  unset : d.session = none → ∀ path line, setBreakpoint path line d = (.error .noSession, d)
  /-- Before the start a breakpoint gets the next number, and no adapter hears of it. -/
  recorded : d.session.isSome → d.phase = .initializing ∨ d.phase = .configuring → ∀ path line,
    setBreakpoint path line d = (.ok (d.breakpoints.lastIndex + 1, some pendingMessage),
      { d with breakpoints := d.breakpoints.add path line })

/-- **Every debugger is guarded**, whatever it is asked for and whatever it has kept. -/
theorem isGuarded (d : Debugger σ) : d.IsGuarded := by
  have hstarted (h : d.phase = .initializing ∨ d.phase = .configuring) :
      d.phase.isStarted = false := by
    rcases h with h | h <;> rw [h] <;> rfl
  refine ⟨fun hnone operation hneeds => ?_, fun hsession hphase operation hneeds => ?_,
    fun hblocked operations hneeds => ?_, setBreakpoint_of_no_session, fun hsession hphase => ?_⟩
  · exact operation.refused hneeds (Action.refuses_of_no_session hnone)
  · exact operation.refused hneeds (Action.refuses_of_not_started hsession (hstarted hphase))
  · rcases Option.eq_none_or_eq_some d.session with hnone | ⟨session, hsession⟩
    · exact leadTo_of_refuses (Action.refuses_of_no_session hnone) hneeds
    · have hphase := hblocked.resolve_left (by rw [hsession]; nofun)
      have hopen : d.session.isSome := by rw [hsession]; rfl
      exact leadTo_of_refuses (Action.refuses_of_not_started hopen (hstarted hphase)) hneeds
  · exact setBreakpoint_of_not_started hsession (hstarted hphase)

end Debugger
end DebugConsole
