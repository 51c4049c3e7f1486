/-
# What a move comes to

A preorder on debuggers that respects all of the following (`AdmitsTalk`) is respected by every
move that neither starts a program nor begins or ends a session:

* looking at a program and up its texts, reports of the adapter (`AdmitsReports`, `AdmitsLookUps`);
* what a configuration asks, put on record request by request, and what is learned of the answers;
* changes of breakpoints and phase, and the wish to end;
* signals that are taken or arrive, and what happens elsewhere.

Without the last of these (`AdmitsWork`) it is respected by what the debugger does itself
(`Move.isWork`).  The remaining moves consist of those and one thing more (`Debugger.Passage`):

| passage | between |
| --- | --- |
| `stays` | nothing |
| `starts` | the program is started |
| `closes` | the session is closed, if there is one |
| `relaunches` | the same, and another one is opened, if possible |

A launch is for another target from its beginning on, so its passage starts from a debugger that
knows of the new target already (`Move.prepared`).
-/

import DebugConsole.Proofs.Run

namespace DebugConsole

open Protocol

variable {σ : Type}

/-- The commands that tell an adapter what to do once the program runs. -/
def configuringCommands : List String :=
  ["setBreakpoints", "setExceptionBreakpoints", "configurationDone"]

/-- What a debugger works on when a move begins: a launch is for its own target at once. -/
def Move.prepared (d : Debugger σ) : Move σ → Debugger σ
  | .operate (.launch target) => { d with target := some target, breakpoints := {} }
  | _ => d

/-- Is a move something the debugger does, and not a signal that is taken or arrives? -/
def Move.isWork : Move σ → Bool
  | .take | .hear _ _ | .elsewhere _ => false
  | _ => true

variable [Environment σ]

/-- A preorder that all work respects but starting a program and beginning or ending a session. -/
class AdmitsWork (R : Debugger σ → Debugger σ → Prop) : Prop
    extends AdmitsReports R, AdmitsLookUps R where
  configuring : ∀ {α : Type} {call : Call α}, configuringCommands.contains call.command →
    Action.Notes R call
  breakpoints : ∀ d breakpoints, R d { d with breakpoints }
  phase : ∀ d phase, R d { d with phase }
  shutdown : ∀ d shutdownRequested, R d { d with shutdownRequested }

/-- A preorder that everything respects but starting a program and beginning or ending a session. -/
class AdmitsTalk (R : Debugger σ → Debugger σ → Prop) : Prop extends AdmitsWork R where
  take : Reaction.Within R Debugger.takeSignal
  hear : ∀ (d : Debugger σ) arrivals, R d (d.receive arrivals)
  elsewhere : ∀ d environment, R d { d with environment }

namespace Debugger

/-- Where a debugger gets: on the way a program may be started, a session closed, or a target
launched again. -/
inductive Passage (R : Debugger σ → Debugger σ → Prop) (d d' : Debugger σ) : Prop
  | stays (h : R d d')
  | starts (heq : d' = (Reaction.sendStart d).2)
  | closes {d₁ : Debugger σ} (before : R d d₁) (after : R (closeSession d₁).2 d')
  | relaunches {d₁ : Debugger σ} (before : R d d₁) (known : d₁.target.isSome)
    (after : R (relaunch d₁).2 d')

variable {R : Debugger σ → Debugger σ → Prop} [AdmitsWork R]

open DebugConsole.Action

/-! ### Breakpoints and the configuration -/

/-- Descriptors are taken over, or nothing changes. -/
theorem within_reconcile (path : String) (indices : List Nat) (descriptors : List Descriptor) :
    Within R (reconcile path indices descriptors : Action σ Unit) := fun d => by
  rw [reconcile_apply]
  split
  · exact AdmitsWork.breakpoints d _
  · exact refl_of R d

/-- Path by path the same. -/
theorem within_reconcileAll (entries : List ((String × List Nat) × List Descriptor)) :
    Within R (reconcileAll entries : Action σ Unit) := by
  induction entries with
  | nil => exact within_pure _
  | cons entry rest ih => exact within_bind (within_reconcile _ _ _) fun _ => ih

/-- A path is pushed, and the answer taken over. -/
theorem inSession_pushPath (path : String) : WithinSession R (pushPath path : Action σ Unit) :=
  inSession_bind within_get.inSession fun _ =>
    inSession_bind (AdmitsWork.configuring rfl).send fun _ => (within_reconcile _ _ _).inSession

/-- All paths are pushed together, and the answers taken over. -/
theorem inSession_pushAllPaths : WithinSession R (pushAllPaths : Action σ Unit) :=
  inSession_bind within_get.inSession fun _ =>
    inSession_bind (inSession_sendAll (List.forall_mem_map.2 fun _ _ =>
      AdmitsWork.configuring rfl)) fun _ => (within_reconcileAll _).inSession

/-- The settings are made, and the threads looked up. -/
theorem inSession_finishConfiguration :
    WithinSession R (finishConfiguration : Action σ Unit) := by
  have hthreads : WithinSession R (do
      try refreshThreads catch _ => pure () : Action σ Unit) :=
    (within_tryCatch within_refreshThreads fun _ => within_pure _).inSession
  refine inSession_bind (AdmitsWork.configuring rfl).send fun _ =>
    inSession_bind within_get.inSession fun d => ?_
  split
  · exact inSession_bind (AdmitsWork.configuring rfl).send fun _ => hthreads
  · exact hthreads

/-- A configuration is a phase, pushes, settings, and the console closed. -/
theorem within_configure : Within R (configure : Action σ Unit) := by
  have henter : Within R (Action.react (Reaction.enter .running) : Action σ Unit) :=
    Action.within_react fun d => AdmitsWork.phase d _
  rw [configure_eq]
  refine within_requireSession_bind (inSession_bind henter.inSession fun _ =>
    inSession_bind inSession_pushAllPaths fun _ =>
      inSession_bind inSession_finishConfiguration fun _ => ?_)
  exact (Action.within_react (within_onConsole _)).inSession

/-- `run` is a configuration, or nothing. -/
theorem within_run : Within R (run : Action σ Unit) := fun d => by
  rw [run_apply]
  split
  · exact within_configure d
  · exact refl_of R d

/-- Setting a breakpoint changes the list, and pushes the path in a session. -/
theorem within_setBreakpoint (path : String) (line : UInt32) (d : Debugger σ) :
    R d (setBreakpoint path line d).2 := by
  have hadded : R d { d with breakpoints := d.breakpoints.add path line } :=
    AdmitsWork.breakpoints d _
  rw [setBreakpoint_state]
  dsimp only
  split_ifs with hsession
  · exact trans_of R hadded (inSession_pushPath path _ hsession)
  · exact hadded
  · exact refl_of R d

/-- So does enabling or disabling one, which may be undone. -/
theorem within_setEnabled (index : Nat) (enabled : Bool) (d : Debugger σ) :
    R d (setEnabled index enabled d).2 := by
  rcases setEnabled_cases index enabled d with heq | ⟨b, _, _, hsession, _, heq⟩
  · rw [heq]
    exact refl_of R d
  have hchanged : R d { d with
      breakpoints := d.breakpoints.modify index fun b => { b with enabled } } :=
    AdmitsWork.breakpoints d _
  have hpush := trans_of R hchanged (inSession_pushPath b.path _ hsession)
  rw [heq]
  split
  · rename_i d' hrun
    rw [hrun] at hpush
    exact hpush
  · rename_i e d' hrun
    rw [hrun] at hpush
    exact trans_of R hpush (AdmitsWork.breakpoints d' _)

/-- So does deleting one. -/
theorem within_deleteBreakpoint (index : Nat) (d : Debugger σ) :
    R d (deleteBreakpoint index d).2 := by
  rcases deleteBreakpoint_cases index d with heq | ⟨b, breakpoints, _, hsession, _, heq⟩
  · rw [heq]
    exact refl_of R d
  · have hdeleted : R d { d with breakpoints } := AdmitsWork.breakpoints d breakpoints
    rw [heq]
    exact trans_of R hdeleted (inSession_pushPath b.path _ hsession)

/-! ### Sessions that end or begin again -/

/-- The program is gone, and the console says so. -/
theorem related_terminate (d : Debugger σ) (console : Console) :
    R d { d with phase := .terminated, console } :=
  trans_of R (AdmitsWork.phase d .terminated) (AdmitsReports.console _ console)

/-- A relaunch closes a session and opens another one, where there is a target. -/
theorem passage_relaunch (d : Debugger σ) : Passage R d (relaunch d).2 := by
  rcases Option.eq_none_or_eq_some d.target with htarget | ⟨target, htarget⟩
  · rw [relaunch_of_no_target htarget]
    exact .stays (refl_of R d)
  · exact .relaunches (refl_of R d) (by rw [htarget]; rfl) (refl_of R _)

/-- The end of a program leads to a relaunch where it was launched. -/
theorem passage_onTargetGone {d d₁ : Debugger σ} (h : R d d₁) :
    Passage R d (onTargetGone d₁).2 := by
  rcases onTargetGone_cases d₁ with ⟨-, heq⟩ | ⟨-, heq⟩ | ⟨htarget, -, text, heq⟩ <;> rw [heq]
  · exact .stays h
  · exact .stays (trans_of R h (AdmitsWork.shutdown d₁ true))
  · exact .relaunches h htarget (AdmitsReports.console _ _)

/-- Readiness leads to a configuration, and that to the end where it fails. -/
theorem passage_onInitialized (d : Debugger σ) : Passage R d (onInitialized d).2 := by
  have henter : R d { d with phase := .configuring } := AdmitsWork.phase d _
  rcases Option.eq_none_or_eq_some d.target with htarget | ⟨target, htarget⟩
  · rw [onInitialized_of_no_target htarget]
    exact .stays (refl_of R d)
  rw [onInitialized_of_target htarget]
  split_ifs
  · exact .stays (trans_of R henter (AdmitsReports.console _ _))
  · have hconfigure := trans_of R henter (within_configure _)
    rcases hrun : configure { d with phase := .configuring } with ⟨e | _, d'⟩ <;>
      rw [hrun] at hconfigure
    · exact .closes (trans_of R hconfigure (AdmitsReports.console d' _)) (refl_of R _)
    · exact .stays hconfigure

/-- A start that fails closes the session. -/
theorem passage_onStarted (result : Except Error Unit) (d : Debugger σ) :
    Passage R d (onStarted result d).2 := by
  cases result with
  | ok _ => exact .stays (refl_of R d)
  | error e =>
    rw [onStarted_error]
    generalize "Failed to " ++ (if d.launches then "launch" else "attach") ++ ": " ++ e.message =
      line
    refine .closes (related_terminate d (d.console.writeLine line)) ?_
    dsimp only
    split_ifs
    · exact AdmitsReports.console _ _
    · exact AdmitsWork.shutdown _ _

/-- So does the end of the stream. -/
theorem passage_onClosed (d : Debugger σ) : Passage R d (onClosed d).2 := by
  rw [onClosed_apply]
  refine .closes (related_terminate d (d.console.writeLine "The debug adapter has exited.")) ?_
  dsimp only
  split_ifs
  · exact AdmitsWork.shutdown _ _
  · exact refl_of R _

/-! ### Moves -/

/-- A signal leads where it leads, if it has an effect at all. -/
theorem Passage.handle {signal : Signal} {d : Debugger σ} (h : Passage R d (react signal d).2) :
    Passage R d ((Move.handle signal).next d) := by
  rw [Move.next, handle_apply]
  split_ifs
  · exact h
  · exact .stays (refl_of R d)

/-- Plain work at most starts the program. -/
theorem passage_of_isPlain {move : Move σ} (hplain : move.isPlain) (hwork : move.isWork)
    (d : Debugger σ) : Passage R d (move.next d) := by
  rcases move with operation | text | _ | _ | signal | _ | _
  · exact .stays (Operation.within_act hplain d)
  · exact .stays (within_onConsole _ d)
  · exact .starts rfl
  · cases hwork
  · exact .handle (.stays (within_react hplain d))
  · cases hwork
  · cases hwork

/-- **All work is one of the passages.** -/
theorem passage_work {move : Move σ} (hwork : move.isWork) (d : Debugger σ) :
    Passage R (move.prepared d) (move.next d) := by
  cases move using Move.casesPlain with
  | plain move hplain =>
    -- only a launch prepares for another target
    have hprepared : move.prepared d = d := by
      unfold Move.prepared
      split
      · cases hplain
      · rfl
    rw [hprepared]
    exact passage_of_isPlain hplain hwork d
  | launch target =>
    show Passage R _ (launch target d).2
    rw [launch_apply]
    exact passage_relaunch _
  | relaunch => exact passage_relaunch d
  | close => exact .closes (refl_of R d) (refl_of R _)
  | run => exact .stays (within_run d)
  | setBreakpoint path line => exact .stays (within_setBreakpoint path line d)
  | setEnabled index enabled => exact .stays (within_setEnabled index enabled d)
  | deleteBreakpoint index => exact .stays (within_deleteBreakpoint index d)
  | initialized connection => exact .handle (passage_onInitialized d)
  | exited connection body =>
    refine .handle ?_
    show Passage R d (onEvent (.exited body) d).2
    rw [onEvent_exited]
    exact passage_onTargetGone (related_terminate d _)
  | terminated connection body =>
    refine .handle ?_
    show Passage R d (onEvent (.terminated body) d).2
    rw [onEvent_terminated]
    split_ifs
    · exact passage_onTargetGone (related_terminate d _)
    · exact .stays (refl_of R d)
  | breakpoint connection reason descriptor =>
    refine .handle ?_
    show Passage R d (onEvent (.breakpoint reason descriptor) d).2
    obtain ⟨breakpoints, heq⟩ := exists_onEvent_breakpoint reason descriptor d
    rw [heq]
    exact .stays (AdmitsWork.breakpoints d breakpoints)
  | closed connection => exact .handle (passage_onClosed d)
  | started connection result => exact .handle (passage_onStarted result d)

/-- **Every move is one of the passages.** -/
theorem passage_next {R : Debugger σ → Debugger σ → Prop} [AdmitsTalk R] (move : Move σ)
    (d : Debugger σ) : Passage R (move.prepared d) (move.next d) := by
  cases hwork : move.isWork with
  | true => exact passage_work hwork d
  | false =>
    rcases move with _ | _ | _ | _ | _ | ⟨connection, arrivals⟩ | change <;> cases hwork
    · exact .stays (AdmitsTalk.take d)
    · rw [Move.next]
      split
      · exact .stays (AdmitsTalk.hear d arrivals)
      · exact .stays (refl_of R d)
    · exact .stays (AdmitsTalk.elsewhere d _)

end Debugger
end DebugConsole
