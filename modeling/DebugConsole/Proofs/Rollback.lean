/-
# Operations that fail

An operation that fails may have asked the adapter before, and something may have arrived
meanwhile.  Nothing else is left of it (`Debugger.Waits`): where a request fails nothing has been
changed yet, a frame or a thread is selected in one go at the very end, a text is kept only once it
is there, and `setEnabled`, which changes the breakpoint first, changes it back.
-/

import DebugConsole.Proofs.Agreement

namespace DebugConsole

open Protocol

variable {σ α β : Type}

/-- All that a session takes in. -/
def Session.receiveAll (arrived : List Arrivals) (s : Session) : Session :=
  arrived.foldl Session.receive s

namespace Debugger

/-- Nothing has happened but that the environment was asked and something has arrived. -/
def Waits (d d' : Debugger σ) : Prop :=
  ∃ (environment : σ) (arrived : List Arrivals) (asked : List Exchange), d' = { d with
    environment
    session := d.session.map (·.receiveAll arrived)
    exchanges := asked ++ d.exchanges }

/-- A question that was put on record is all that has happened. -/
theorem Waits.of_exchange (d : Debugger σ) (e : Exchange) :
    Waits d { d with exchanges := e :: d.exchanges } := by
  refine ⟨d.environment, [], [e], ?_⟩
  rw [show d.session.map (·.receiveAll []) = d.session from Option.map_id']
  rfl

instance : IsPreorder (Debugger σ) Waits where
  refl d := by
    refine ⟨d.environment, [], [], ?_⟩
    rw [show d.session.map (·.receiveAll []) = d.session from Option.map_id']
    rfl
  trans d₁ d₂ d₃ h₁ h₂ := by
    obtain ⟨environment₁, arrived₁, asked₁, rfl⟩ := h₁
    obtain ⟨environment₂, arrived₂, asked₂, rfl⟩ := h₂
    refine ⟨environment₂, arrived₁ ++ arrived₂, asked₂ ++ asked₁, ?_⟩
    simp [Function.comp_def, Session.receiveAll]

theorem Waits.texts {d d' : Debugger σ} (h : Waits d d') : d'.texts = d.texts := by
  obtain ⟨_, _, _, rfl⟩ := h
  rfl

/-- Nothing that has happened was to a breakpoint. -/
theorem Waits.breakpoints {d d' : Debugger σ} (h : Waits d d') :
    d'.breakpoints = d.breakpoints := by
  obtain ⟨_, _, _, rfl⟩ := h
  rfl

/-- Whatever the breakpoints were meanwhile, they are again what they were. -/
theorem Waits.restore {d d' : Debugger σ} {breakpoints : Breakpoints}
    (h : Waits { d with breakpoints } d') : Waits d { d' with breakpoints := d.breakpoints } := by
  obtain ⟨environment, arrived, asked, rfl⟩ := h
  exact ⟨environment, arrived, asked, rfl⟩

end Debugger

namespace Action

open Debugger

variable {R : Debugger σ → Debugger σ → Prop}

/-- What the result of an action is turned into does not matter. -/
theorem failsWithin_map {a : Action σ α} (h : FailsWithin R a) (f : α → β) :
    FailsWithin R (do return f (← a)) := fun d e he => by
  have hfails := h d
  rw [bind_apply] at he ⊢
  rcases hrun : a d with ⟨e | x, d'⟩ <;> rw [hrun] at he hfails
  · exact hfails e rfl
  · cases he

/-- A change of threads that fails has not been made. -/
theorem failsWithin_onThreads [IsPreorder (Debugger σ) R] (f : Threads → Except Error Threads) :
    FailsWithin R (Action.onThreads f : Action σ Unit) :=
  failsWithin_bind within_get fun _ => failsWithin_bind (within_ofExcept _) fun _ =>
    fun _ _ he => nomatch he

end Action

variable [Environment σ]

namespace Action

/-- A request is waited for. -/
theorem waits_send (call : Call α) : Within Debugger.Waits (send call : Action σ α) := fun _ =>
  ⟨_, [_], [_], rfl⟩

/-- So is a file. -/
theorem waits_readFile (path : String) :
    Within Debugger.Waits (readFile path : Action σ String) := fun _ => .of_exchange _ _

end Action

namespace Debugger

instance : AdmitsQueries (Waits (σ := σ)) where
  session h := by
    obtain ⟨_, _, _, rfl⟩ := h
    exact Option.isSome_map
  asks _ := ⟨_, [_], [], rfl⟩
  notes _ d e _ _ := .of_exchange d e
  canonical _ _ := .of_exchange _ _

open DebugConsole.Action

/-! ### One operation after the other -/

omit [Environment σ] in
/-- Turning to a thread fails before it changes anything. -/
theorem failsWithin_focusThread (id : Int64) :
    FailsWithin Waits (focusThread id : Action σ Unit) :=
  failsWithin_bind (within_requireSession _) fun _ => failsWithin_onThreads _

/-- A frame is selected only after the adapter has named it. -/
theorem failsWithin_selectFrame (threadId : Int64) (place : UInt64) :
    FailsWithin Waits (selectFrame threadId place : Action σ Unit) := by
  refine failsWithin_bind (within_stackTrace _ _) fun frames => ?_
  split
  · exact (within_throw _).fails
  · exact failsWithin_onThreads _

/-- The answer counts as a report that threads run again, which cannot fail. -/
theorem failsWithin_continueRunning : FailsWithin Waits (continueRunning : Action σ Unit) :=
  failsWithin_bind (within_requireSession _) fun _ => failsWithin_bind within_activeThread fun _ =>
    failsWithin_bind (waits_send _) fun _ => failsWithin_react _

omit [Environment σ] in
/-- A text that could not be obtained is not kept. -/
theorem failsWithin_keptLines (key : SourceTexts.Key) {source : Action σ String}
    (h : Within Waits source) : FailsWithin Waits (keptLines key source) := fun d e he => by
  rw [keptLines_apply] at he ⊢
  cases hfind : d.texts.find? key with
  | some lines =>
    rw [hfind] at he
    cases he
  | none =>
    have hsource := h d
    rw [hfind] at he
    dsimp only at he ⊢
    rcases hrun : source d with ⟨e | text, d'⟩ <;> rw [hrun] at he hsource
    · show Waits d { d' with texts := d.texts }
      rw [← hsource.texts]
      exact hsource
    · cases he

/-- A text that could not be obtained is not kept. -/
theorem failsWithin_sourceLines (source : Source) (start length : Nat) :
    FailsWithin Waits (sourceLines source start length : Action σ (List String)) := by
  unfold sourceLines
  split
  · exact failsWithin_bind (within_requireSession _) fun _ =>
      failsWithin_map (failsWithin_keptLines _ (waits_send _)) _
  · exact failsWithin_map (failsWithin_keptLines _ (waits_readFile _)) _
  · exact (within_pure _).fails

/-- An answer that was accepted but has a wrong number of descriptors is not taken over either. -/
theorem failsWithin_pushPath (path : String) :
    FailsWithin Waits (pushPath path : Action σ Unit) := by
  refine failsWithin_bind within_get fun _ => failsWithin_bind (waits_send _) fun descriptors => ?_
  intro d e he
  rw [reconcile_apply] at he ⊢
  split at he
  · cases he
  · exact refl_of Waits d

/-- **A refused enabling or disabling is undone.** -/
theorem waits_setEnabled {d : Debugger σ} (hwf : d.breakpoints.WellFormed) {index : Nat}
    {enabled : Bool} {e : Error} (he : (setEnabled index enabled d).1 = .error e) :
    Waits d (setEnabled index enabled d).2 := by
  rcases setEnabled_apply index enabled d with heq | ⟨b, hfind, henabled, _, _, heq⟩
  · rw [heq]
    exact refl_of Waits d
  have hpush := failsWithin_pushPath (σ := σ) b.path { d with
    breakpoints := d.breakpoints.modify index fun b => { b with enabled } }
  dsimp only at heq
  rw [heq] at he ⊢
  rcases hrun : pushPath b.path { d with
    breakpoints := d.breakpoints.modify index fun b => { b with enabled } } with ⟨e | _, d'⟩ <;>
      rw [hrun] at he hpush
  · -- the push has left the changed breakpoints, so undoing the change leads back to the old ones
    have hwaits := hpush e rfl
    have hundone : { { b with enabled := enabled } with enabled := !enabled } = b := by
      rw [show (!enabled) = b.enabled by cases enabled <;> simpa using henabled]
    have hback : (d.breakpoints.modify index fun b => { b with enabled }).modify index
        (fun b => { b with enabled := !enabled }) = d.breakpoints :=
      hwf.modify_modify_eq_self (f := fun b => { b with enabled })
        (g := fun b => { b with enabled := !enabled }) hfind (fun _ => rfl) hundone
    show Waits d { d' with
      breakpoints := d'.breakpoints.modify index fun b => { b with enabled := !enabled } }
    rw [hwaits.breakpoints, hback]
    exact hwaits.restore
  · cases he

end Debugger

open Debugger

/-- How an operation ends; what it results in is left out. -/
def Operation.outcome (operation : Operation) (d : Debugger σ) : Except Error Unit :=
  match operation with
  | .launch target => (Debugger.launch target d).1
  | .relaunch => (Debugger.relaunch d).1
  | .close => .ok (Debugger.closeSession d).1
  | .run => (Debugger.run d).1
  | .pause => (Debugger.pause d).1
  | .resume => (Debugger.continueRunning d).1
  | .stepIn => (Debugger.stepIn d).1
  | .stepOver => (Debugger.stepOver d).1
  | .activeThread => (Debugger.activeThread d).1.map fun _ => ()
  | .knownThreads => (Debugger.knownThreads d).1.map fun _ => ()
  | .focusThread id => (Debugger.focusThread id d).1
  | .stackTrace threadId levels => (Debugger.stackTrace threadId levels d).1.map fun _ => ()
  | .selectFrame threadId place => (Debugger.selectFrame threadId place d).1
  | .currentFrame => (Debugger.currentFrame d).1.map fun _ => ()
  | .scopeContents scopeName => (Debugger.scopeContents scopeName d).1.map fun _ => ()
  | .evaluate expression => (Debugger.evaluate expression d).1.map fun _ => ()
  | .sourceLines source start length =>
    (Debugger.sourceLines source start length d).1.map fun _ => ()
  | .canonical path => (Action.canonical path d).1.map fun _ => ()
  | .setBreakpoint path line => (Debugger.setBreakpoint path line d).1.map fun _ => ()
  | .setEnabled index enabled => (Debugger.setEnabled index enabled d).1
  | .deleteBreakpoint index => (Debugger.deleteBreakpoint index d).1

/-- A plain operation that fails has only asked. -/
theorem Operation.waits_act_of_isPlain {operation : Operation} (h : operation.isPlain)
    {d : Debugger σ} {e : Error} (he : operation.outcome d = .error e) :
    Waits d (operation.act d) := by
  cases operation with
  | pause => exact within_pause d
  | resume => exact failsWithin_continueRunning d e he
  | stepIn => exact within_stepIn d
  | stepOver => exact within_stepOver d
  | activeThread => exact within_activeThread d
  | knownThreads => exact within_knownThreads d
  | focusThread id => exact failsWithin_focusThread id d e he
  | stackTrace threadId levels => exact within_stackTrace threadId levels d
  | selectFrame threadId place => exact failsWithin_selectFrame threadId place d e he
  | currentFrame => exact within_currentFrame d
  | scopeContents scopeName => exact within_scopeContents scopeName d
  | evaluate expression => exact within_evaluate expression d
  | sourceLines source start length =>
    have hfails := failsWithin_sourceLines source start length d
    rw [outcome] at he
    rw [act]
    rcases hrun : Debugger.sourceLines source start length d with ⟨e | _, d'⟩ <;>
      rw [hrun] at he hfails
    · exact hfails e rfl
    · cases he
  | canonical path => exact AdmitsQueries.canonical path d
  | _ => cases h

/-- **An operation that fails changes nothing.**  Looking at a program, selecting, stepping,
pausing, resuming, and enabling or disabling a breakpoint leave everything as it was if they fail,
however the adapter has answered: phase, session, capabilities, breakpoints, threads with focus and
frames, texts and console.  The environment was asked, and the session has taken in what
arrived. -/
theorem Run.waits_of_failed {history : List (Step σ)} {d : Debugger σ} (h : Run history d)
    {operation : Operation}
    (hoperation : operation.isPlain ∨ ∃ index enabled, operation = .setEnabled index enabled)
    {e : Error} (he : operation.outcome d = .error e) : Waits d (operation.act d) := by
  rcases hoperation with hplain | ⟨index, enabled, rfl⟩
  · exact Operation.waits_act_of_isPlain hplain he
  · exact waits_setEnabled h.isTold.wellFormed he

/-- An adapter that answers the second push with a descriptor too many. -/
def Script.miscounting : Script where
  entries := [("setBreakpoints",
    [{}, { answer := .body (Json.object
      [("breakpoints", .arr [Json.object [("verified", true)]])]) }])]

/-- A run it speaks of: the breakpoint was disabled when the answer came, and is enabled again. -/
theorem Run.waits_of_failed_scripted :
    let d := (Move.steps
      [ .operate (.launch Script.launched), .handle (.event 1 .initialized),
        .operate (.setBreakpoint "a.c" 3), .operate .run ] [] (Script.rehearse .miscounting)).2
    let operation : Operation := .setEnabled 1 false
    (operation.outcome d).toOption = none ∧
      (operation.act d).exchanges.length = d.exchanges.length + 1 ∧
      Waits d (operation.act d) := by
  intro d operation
  have hrun := (Run.start Script.miscounting {} ["stderr", "telemetry"]).steps
    [ .operate (.launch Script.launched), .handle (.event 1 .initialized),
      .operate (.setBreakpoint "a.c" 3), .operate .run ]
  have hfails : (operation.outcome d).toOption = none := by decide +kernel
  refine ⟨hfails, by decide +kernel, ?_⟩
  cases houtcome : operation.outcome d with
  | ok _ =>
    rw [houtcome] at hfails
    cases hfails
  | error e => exact hrun.waits_of_failed (.inr ⟨1, false, rfl⟩) houtcome

end DebugConsole
