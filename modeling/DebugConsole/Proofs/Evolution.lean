/-
# What becomes of the threads

List and focus are changed from many places, but by few changes (`Threads.Change`); and between them
all threads are forgotten.

| what happens | changes |
| --- | --- |
| the adapter lists the threads | `replaceAll` |
| one starts, exits | `insert` and `replaceAll`, `remove` |
| one runs again, all do | `markRunning`, `markAllRunning` |
| one stops | `insert` if it was not known, `clearFrame`, `markStopped` |
| all stop | the same, also after `replaceAll`, with `markAllStopped` and `clearAllFrames` |
| a stop is shown, the user chooses a thread | `setFocus` |
| a session ends or begins | all are forgotten |
| the user selects a frame | `selectFrame` |

A thread that is brought by a change has no frame selected, so selections are made by the last row
alone (`Debugger.threads_next`).  What the changes preserve holds of the threads in every run
(`Run.threads_induction`).
-/

import DebugConsole.Proofs.Namesakes
import DebugConsole.Proofs.Resumption

namespace DebugConsole

open Protocol

variable {σ : Type}

namespace Threads

/-- Is no frame selected by a change? -/
def Change.SelectsNone : Change → Prop
  | insert t => t.selectedFrame = none
  | replaceAll list => ∀ t ∈ list, t.selectedFrame = none
  | selectFrame _ _ => False
  | _ => True

/-- What threads become by changes that select no frame, where all may be forgotten. -/
inductive Evolves (ts : Threads) : Threads → Prop
  | refl : Evolves ts ts
  | forget : Evolves ts {}
  | change {ts' : Threads} (earlier : Evolves ts ts') (change : Change)
      (h : change.SelectsNone) : Evolves ts (change.apply ts')

/-- Changes follow one another. -/
theorem Evolves.trans {ts₁ ts₂ ts₃ : Threads} (h₁ : Evolves ts₁ ts₂) (h₂ : Evolves ts₂ ts₃) :
    Evolves ts₁ ts₃ := by
  induction h₂ with
  | refl => exact h₁
  | forget => exact .forget
  | change _ change hnone ih => exact .change ih change hnone

/-- What all changes that select no frame preserve. -/
theorem Evolves.preserves {P : Threads → Prop} (forgotten : P {})
    (changed : ∀ {ts : Threads} {change : Change}, P ts → change.SelectsNone → P (change.apply ts))
    {ts ts' : Threads} (h : Evolves ts ts') (hts : P ts) : P ts' := by
  induction h with
  | refl => exact hts
  | forget => exact forgotten
  | change _ change hnone ih => exact changed ih hnone

/-- Making a thread known is adding it, if it is not there. -/
theorem evolves_ensureKnown (ts : Threads) (id : Int64) : Evolves ts (ts.ensureKnown id) := by
  unfold ensureKnown
  split
  · exact .refl
  · exact Evolves.refl.change (.insert (placeholderThread id)) rfl

end Threads

namespace Debugger

open Threads (Change)

/-- The threads have changed in the ways that select no frame. -/
def Evolves (d d' : Debugger σ) : Prop := d.threads.Evolves d'.threads

instance : IsPreorder (Debugger σ) Evolves where
  refl _ := .refl
  trans _ _ _ := Threads.Evolves.trans

/-- The same threads. -/
theorem Evolves.of_eq {d d' : Debugger σ} (h : d'.threads = d.threads) : Evolves d d' := by
  rw [Evolves, h]
  exact .refl

/-- Threads that are forgotten begin anew. -/
theorem Evolves.of_empty {d d' : Debugger σ} (h : d'.threads = {}) : Evolves d d' := by
  rw [Evolves, h]
  exact .forget

/-- A single change that selects no frame. -/
theorem Evolves.of_change {d d' : Debugger σ} (change : Change) (hnone : change.SelectsNone)
    (h : d'.threads = change.apply d.threads) : Evolves d d' := by
  rw [Evolves, h]
  exact Threads.Evolves.refl.change change hnone

/-- What only reads leaves the threads alone. -/
theorem Reads.threads {d d' : Debugger σ} (h : Reads d d') : d'.threads = d.threads := by
  obtain ⟨texts, environment, arrived, asked, rfl⟩ := h
  rfl

theorem Reads.evolves {d d' : Debugger σ} (h : Reads d d') : Evolves d d' := .of_eq h.threads

/-- The threads change as `f` says, unless that is an error. -/
theorem onThreads_apply (f : Threads → Except Error Threads) (d : Debugger σ) :
    (Action.onThreads f : Action σ Unit) d = match f d.threads with
      | .ok threads => (.ok (), { d with threads })
      | .error e => (.error e, d) := by
  simp only [Action.onThreads, Action.bind_apply, Action.get_apply, Action.ofExcept_apply]
  cases f d.threads <;> rfl

/-- Threads that go on are marked one by one. -/
theorem evolves_noteContinued (id : Int64) (every : Bool) :
    Reaction.Within Evolves (noteContinued id every : Reaction σ Unit) := fun d => by
  have hthreads : (noteContinued id every d).2.threads =
      if every then d.threads.markAllRunning
        else (d.threads.markRunning id).toOption.getD d.threads := by
    rw [noteContinued_apply, Threads.resume_eq]
    dsimp only
    split <;> rfl
  cases every with
  | true => exact .of_change .markAllRunning trivial hthreads
  | false => exact .of_change (.markRunning id) trivial hthreads

variable [Environment σ]

theorem Steady.evolves {d d' : Debugger σ} (h : Steady d d') : Evolves d d' := .of_eq h.threads

/-- A request leaves the threads alone. -/
theorem evolves_send {α : Type} (call : Call α) :
    Action.Within Evolves (Action.send call : Action σ α) :=
  fun d => (Action.waits_send call d).reads.evolves

/-! ### Operations and reports -/

/-- A list of threads replaces those that were known. -/
theorem evolves_refreshThreads : Action.Within Evolves (refreshThreads : Action σ Unit) :=
  Action.within_bind (Action.within_requireSession _) fun _ =>
    Action.within_bind (evolves_send _) fun _ => Action.within_react fun _ =>
      .of_change (.replaceAll _) (List.forall_mem_map.2 fun _ _ => rfl) rfl

/-- Resuming marks threads as running. -/
theorem evolves_continueRunning : Action.Within Evolves (continueRunning : Action σ Unit) :=
  Action.within_bind (Action.within_requireSession _) fun _ =>
    Action.within_bind (fun d => (within_activeThread (R := Reads) d).evolves) fun _ =>
      Action.within_bind (evolves_send _) fun _ => Action.within_react (evolves_noteContinued _ _)

omit [Environment σ] in
/-- Turning to another thread changes which is in focus. -/
theorem evolves_focusThread (id : Int64) :
    Action.Within Evolves (focusThread id : Action σ Unit) := by
  refine Action.within_bind (Action.within_requireSession _) fun _ d => ?_
  rw [onThreads_apply]
  cases hfocus : d.threads.setFocus id with
  | error e => exact refl_of Evolves d
  | ok threads =>
    refine .of_change (.setFocus id) trivial ?_
    rw [Change.apply, hfocus]
    rfl

/-- A frame is selected where the stack that was asked for reaches down to it, and the threads are
left alone otherwise. -/
theorem selectFrame_cases (threadId : Int64) (place : UInt64) (d : Debugger σ) :
    (∃ e, (selectFrame threadId place d).1 = .error e ∧
      (selectFrame threadId place d).2.threads = d.threads) ∨
    ∃ frames threads, (stackTrace threadId (levelsFor place) d).1 = .ok frames ∧
      place.toNat < frames.length ∧ d.threads.selectFrame threadId place = .ok threads ∧
      (selectFrame threadId place d).1 = .ok () ∧
      (selectFrame threadId place d).2.threads = threads := by
  have hthreads : (stackTrace threadId (levelsFor place) d).2.threads = d.threads :=
    (within_stackTrace (R := Reads) threadId (levelsFor place) d).threads
  rw [selectFrame, Action.bind_apply]
  rcases hrun : stackTrace threadId (levelsFor place) d with ⟨e | frames, d₁⟩ <;>
    rw [hrun] at hthreads
  · exact .inl ⟨e, rfl, hthreads⟩
  dsimp only at hthreads ⊢
  split
  · exact .inl ⟨_, rfl, hthreads⟩
  rename_i hplace
  rw [onThreads_apply, hthreads]
  cases hselected : d.threads.selectFrame threadId place with
  | error e => exact .inl ⟨e, rfl, hthreads⟩
  | ok threads => exact .inr ⟨frames, threads, rfl, Nat.lt_of_not_le hplace, rfl, rfl, rfl⟩

/-- The operations that leave sessions and breakpoints alone, but for selecting a frame. -/
theorem evolves_act {operation : Operation} (h : operation.isPlain)
    (hselects : ∀ threadId place, operation ≠ .selectFrame threadId place) (d : Debugger σ) :
    Evolves d (operation.act d) := by
  cases operation with
  | resume => exact evolves_continueRunning d
  | focusThread id => exact evolves_focusThread id d
  | selectFrame threadId place => exact absurd rfl (hselects threadId place)
  | pause => exact (within_pause (R := Reads) d).evolves
  | stepIn => exact (within_stepIn (R := Reads) d).evolves
  | stepOver => exact (within_stepOver (R := Reads) d).evolves
  | activeThread => exact (within_activeThread (R := Reads) d).evolves
  | knownThreads => exact (within_knownThreads (R := Reads) d).evolves
  | stackTrace threadId levels => exact (within_stackTrace (R := Reads) threadId levels d).evolves
  | currentFrame => exact (within_currentFrame (R := Reads) d).evolves
  | scopeContents scopeName => exact (within_scopeContents (R := Reads) scopeName d).evolves
  | evaluate expression => exact (within_evaluate (R := Reads) expression d).evolves
  | sourceLines source start length =>
    exact (within_sourceLines (R := Reads) source start length d).evolves
  | canonical path => exact (AdmitsQueries.canonical (R := Reads) path d).evolves
  | _ => cases h

/-- A stop makes a thread known, marks threads as stopped and clears their frames. -/
theorem evolves_noteStopped (body : StoppedBody) :
    Reaction.Within Evolves (noteStopped body : Reaction σ Bool) := fun d => by
  cases hall : body.allThreadsStopped with
  | true =>
    rw [noteStopped_of_all hall]
    dsimp only
    generalize hasked : (if d.threads.isEmpty then (refreshThreads d).2 else d) = d₁
    have hlisted : Evolves d d₁ := by
      rw [← hasked]
      split_ifs
      · exact evolves_refreshThreads d
      · exact refl_of Evolves d
    have hknown : d₁.threads.Evolves (body.threadId.elim d₁.threads d₁.threads.ensureKnown) := by
      cases body.threadId with
      | none => exact .refl
      | some id => exact Threads.evolves_ensureKnown _ id
    have hhalted := (hknown.change .markAllStopped trivial).change .clearAllFrames trivial
    exact Threads.Evolves.trans hlisted hhalted
  | false =>
    cases hid : body.threadId with
    | none =>
      rw [noteStopped_of_ignored hall hid]
      exact .of_eq rfl
    | some id =>
      rw [noteStopped_of_named hall hid]
      have hknown := Threads.evolves_ensureKnown d.threads id
      exact (hknown.change (.clearFrame id) trivial).change (.markStopped id) trivial

/-- Showing where a thread stands leaves the threads alone. -/
theorem evolves_showStop (threadId : Option Int64) :
    Reaction.Within Evolves (showStop threadId : Reaction σ Unit) := by
  have hconsole (f : Console → Console) :
      Reaction.Within Evolves (Reaction.onConsole f : Reaction σ Unit) := fun _ => .of_eq rfl
  refine Reaction.within_bind Reaction.within_get fun d => ?_
  split
  · exact hconsole _
  · rename_i focus _
    refine Reaction.within_bind (fun d => .of_change (.setFocus focus) trivial rfl) fun _ => ?_
    refine Reaction.within_bind
      (fun d => (within_topOfStack (R := Reads) focus d).evolves) fun top => ?_
    split
    · exact Reaction.within_bind (hconsole _) fun _ => hconsole _
    · exact hconsole _

/-- A report of a stop is noted and shown. -/
theorem evolves_onStopped (body : StoppedBody) :
    Reaction.Within Evolves (onStopped body : Reaction σ Unit) := fun d => by
  have hnoted : Evolves d (noteStopped body (describing body d)).2 :=
    evolves_noteStopped body (describing body d)
  have hentered (phase : Phase) :
      Evolves d { (noteStopped body (describing body d)).2 with phase } := hnoted
  rw [onStopped_apply]
  dsimp only
  split
  · split
    · exact trans_of Evolves (hentered _) (evolves_showStop body.threadId _)
    · exact hnoted
  · exact hnoted

/-- A thread that has started or exited is looked up or removed. -/
theorem evolves_onThread (body : ThreadBody) :
    Reaction.Within Evolves (onThread body : Reaction σ Unit) := by
  unfold onThread
  split
  · exact Reaction.within_bind
      (fun d => .of_change (.insert (placeholderThread body.threadId)) rfl rfl) fun _ =>
        Reaction.within_bind evolves_refreshThreads fun _ => Reaction.within_pure _
  · split
    · exact fun d => .of_change (.remove body.threadId) trivial rfl
    · exact Reaction.within_pure _

/-- Every plain signal changes threads as they may. -/
theorem evolves_react {signal : Signal} (h : signal.isPlain) (d : Debugger σ) :
    Evolves d (react signal d).2 := by
  rcases signal with ⟨connection, event⟩ | _ | _
  · cases event with
    | output body =>
      rw [react, onEvent_output]
      split_ifs
      · exact refl_of Evolves d
      · exact .of_eq rfl
    | continued threadId allThreads => exact evolves_noteContinued threadId allThreads d
    | stopped body => exact evolves_onStopped body d
    | thread body => exact evolves_onThread body d
    | other name body => exact refl_of Evolves d
    | _ => cases h
  · cases h
  · cases h

/-! ### Sessions that end and begin -/

/-- With its session the threads of a program are forgotten. -/
theorem evolves_closeSession (d : Debugger σ) : Evolves d (closeSession d).2 := by
  rw [closeSession_apply]
  split_ifs
  · exact refl_of Evolves d
  · exact .of_empty rfl

/-- A relaunch begins without threads. -/
theorem evolves_relaunch (d : Debugger σ) : Evolves d (relaunch d).2 := by
  rcases Option.eq_none_or_eq_some d.target with htarget | ⟨target, htarget⟩
  · rw [relaunch_of_no_target htarget]
    exact refl_of Evolves d
  · exact .of_empty (threads_relaunch (by rw [htarget]; rfl))

/-- So does the end of a program, whether it is launched again or not. -/
theorem evolves_onTargetGone (d : Debugger σ) : Evolves d (onTargetGone d).2 := by
  rcases onTargetGone_cases d with ⟨-, heq⟩ | ⟨-, heq⟩ | ⟨-, -, text, heq⟩ <;> rw [heq]
  · exact refl_of Evolves d
  · exact .of_eq rfl
  · exact evolves_relaunch d

theorem evolves_onClosed (d : Debugger σ) : Evolves d (onClosed d).2 := by
  have hclosed := evolves_closeSession { d with
    phase := .terminated
    console := d.console.writeLine "The debug adapter has exited." }
  rw [onClosed_apply]
  dsimp only
  split_ifs <;> exact hclosed

theorem evolves_onStarted (result : Except Error Unit) (d : Debugger σ) :
    Evolves d (onStarted result d).2 := by
  cases result with
  | ok _ => exact refl_of Evolves d
  | error e =>
    rw [onStarted_error]
    generalize "Failed to " ++ (if d.launches then "launch" else "attach") ++ ": " ++ e.message =
      line
    have hclosed := evolves_closeSession { d with
      phase := .terminated, console := d.console.writeLine line }
    dsimp only
    split_ifs <;> exact hclosed

/-! ### Configurations -/

/-- The end of a configuration looks up the threads. -/
theorem evolves_finishConfiguration :
    Action.Within Evolves (finishConfiguration : Action σ Unit) := by
  have hthreads : Action.Within Evolves (do
      try refreshThreads catch _ => pure () : Action σ Unit) :=
    Action.within_tryCatch evolves_refreshThreads fun _ => Action.within_pure _
  unfold finishConfiguration
  refine Action.within_bind (evolves_send _) fun _ =>
    Action.within_bind Action.within_get fun d => ?_
  split
  · exact Action.within_bind (evolves_send _) fun _ => hthreads
  · exact hthreads

/-- A configuration changes threads only at its end. -/
theorem evolves_configure {d : Debugger σ} (hwf : d.breakpoints.WellFormed) :
    Evolves d (configure d).2 := by
  cases hsession : d.session with
  | none =>
    rw [configure_of_no_session hsession]
    exact refl_of Evolves d
  | some session =>
    have hopen : d.session.isSome := by rw [hsession]; rfl
    obtain ⟨pushed, htells, -⟩ := pushAllPaths_spec (d := { d with phase := .running }) hwf
    have hpushed : Evolves d (pushAllPaths { d with phase := .running }).2 :=
      htells.toSteady.evolves
    rw [configure_apply hopen d.phase]
    refine trans_of Evolves hpushed (Action.related_bind _ (fun _ => ?_) _)
    exact Action.within_bind evolves_finishConfiguration fun _ =>
      Action.within_react fun _ => .of_eq rfl

/-- Readiness may lead to a configuration, and to the end of the session. -/
theorem evolves_onInitialized {d : Debugger σ} (hwf : d.breakpoints.WellFormed) :
    Evolves d (onInitialized d).2 := by
  rcases Option.eq_none_or_eq_some d.target with htarget | ⟨target, htarget⟩
  · rw [onInitialized_of_no_target htarget]
    exact refl_of Evolves d
  rw [onInitialized_of_target htarget]
  split_ifs
  · exact .of_eq rfl
  · have hconfigured : Evolves d (configure { d with phase := .configuring }).2 :=
      evolves_configure (d := { d with phase := .configuring }) hwf
    rcases hrun : configure { d with phase := .configuring } with ⟨e | _, d'⟩ <;>
      rw [hrun] at hconfigured
    · have hsaid : Evolves d { d' with
        console := (d'.console.writeLine "Failed to initialize debugging session.").writeLine
          e.message } := trans_of Evolves hconfigured (.of_eq rfl)
      exact trans_of Evolves hsaid (evolves_closeSession _)
    · exact hconfigured

/-- `run` changes threads only as a configuration does. -/
theorem evolves_run {d : Debugger σ} (hwf : d.breakpoints.WellFormed) :
    Evolves d (Debugger.run d).2 := by
  rw [run_apply]
  split_ifs
  · exact evolves_configure hwf
  · exact refl_of Evolves d

/-! ### Moves -/

/-- The moves that leave sessions and breakpoints alone, but for selecting a frame. -/
theorem evolves_of_isPlain {move : Move σ} (h : move.isPlain)
    (hselects : ∀ threadId place, move ≠ .operate (.selectFrame threadId place))
    (d : Debugger σ) : Evolves d (move.next d) := by
  rcases move with operation | text | _ | _ | signal | ⟨connection, arrivals⟩ | change
  · exact evolves_act h (fun threadId place heq => hselects threadId place (by rw [heq])) d
  · exact .of_eq rfl
  · rcases sendStart_cases d with heq | ⟨session, mode, -, -, heq⟩ <;> rw [Move.next, heq]
    · exact refl_of Evolves d
    · exact .of_eq rfl
  · rcases takeSignal_cases d with heq | ⟨session, signal, taken, -, -, heq⟩ <;>
      rw [Move.next, heq]
    · exact refl_of Evolves d
    · exact .of_eq rfl
  · exact related_handle fun _ => evolves_react h d
  · rw [Move.next]
    split
    · exact .of_eq rfl
    · exact refl_of Evolves d
  · exact .of_eq rfl

/-- **Every move but the selection of a frame** changes threads as they may. -/
theorem evolves_next {d : Debugger σ} (hwf : d.breakpoints.WellFormed) {move : Move σ}
    (hselects : ∀ threadId place, move ≠ .operate (.selectFrame threadId place)) :
    Evolves d (move.next d) := by
  cases move using Move.casesPlain with
  | plain move hplain => exact evolves_of_isPlain hplain hselects d
  | launch target =>
    show Evolves d (launch target d).2
    rw [launch_apply]
    exact .of_empty (threads_relaunch rfl)
  | relaunch => exact evolves_relaunch d
  | close => exact evolves_closeSession d
  | run => exact evolves_run hwf
  | setBreakpoint path line => exact (edits_setBreakpoint path line d).toSteady.evolves
  | setEnabled index enabled => exact (edits_setEnabled index enabled d).toSteady.evolves
  | deleteBreakpoint index => exact (edits_deleteBreakpoint index d).toSteady.evolves
  | initialized connection => exact related_handle fun _ => evolves_onInitialized hwf
  | exited connection body =>
    refine related_handle fun _ => ?_
    show Evolves d (onEvent (.exited body) d).2
    rw [onEvent_exited]
    exact evolves_onTargetGone { d with
      phase := .terminated
      console := d.console.writeLine
        ("Target exited with status " ++ toString body.exitCode.toInt) }
  | terminated connection body =>
    refine related_handle fun _ => ?_
    show Evolves d (onEvent (.terminated body) d).2
    rw [onEvent_terminated]
    split_ifs
    · exact evolves_onTargetGone { d with
        phase := .terminated
        console := d.console.writeLine "The target has exited." }
    · exact refl_of Evolves d
  | breakpoint connection reason descriptor =>
    refine related_handle fun _ => ?_
    show Evolves d (onEvent (.breakpoint reason descriptor) d).2
    obtain ⟨breakpoints, heq⟩ := exists_onEvent_breakpoint reason descriptor d
    rw [heq]
    exact .of_eq rfl
  | closed connection => exact related_handle fun _ => evolves_onClosed d
  | started connection result => exact related_handle fun _ => evolves_onStarted result d

/-- **What a step does to the threads.**  They are changed without a selection, unless the user
selects a frame of a stack that reaches down to it. -/
theorem threads_next {d : Debugger σ} (hwf : d.breakpoints.WellFormed) (move : Move σ) :
    Evolves d (move.next d) ∨ ∃ threadId place frames,
      move = .operate (.selectFrame threadId place) ∧
      (stackTrace threadId (levelsFor place) d).1 = .ok frames ∧ place.toNat < frames.length ∧
      (move.next d).threads = (Change.selectFrame threadId place).apply d.threads := by
  by_cases hselects : ∃ threadId place, move = .operate (.selectFrame threadId place)
  · obtain ⟨threadId, place, rfl⟩ := hselects
    rcases selectFrame_cases threadId place d with
      ⟨e, -, hthreads⟩ | ⟨frames, threads, hframes, hplace, hselected, -, hthreads⟩
    · exact .inl (.of_eq hthreads)
    · refine .inr ⟨threadId, place, frames, rfl, hframes, hplace, hthreads.trans ?_⟩
      rw [Change.apply, hselected]
      rfl
  · exact .inl (evolves_next hwf fun threadId place heq => hselects ⟨threadId, place, heq⟩)

end Debugger

open Threads (Change)

/-- **What all changes preserve holds of the threads in every run.** -/
theorem Run.threads_induction [Environment σ] {P : Threads → Prop} (forgotten : P {})
    (changed : ∀ {ts : Threads} {change : Change}, P ts → change.SelectsNone → P (change.apply ts))
    (selected : ∀ {ts : Threads} (id : Int64) (place : UInt64), P ts →
      P ((Change.selectFrame id place).apply ts))
    {history : List (Step σ)} {d : Debugger σ} (h : Run history d) : P d.threads := by
  induction h with
  | start environment console suppressed => exact forgotten
  | step hrun move ih =>
    rcases Debugger.threads_next hrun.isTold.wellFormed move with
      hevolves | ⟨id, place, frames, -, -, -, heq⟩
    · exact hevolves.preserves forgotten changed ih
    · rw [heq]
      exact selected id place ih

end DebugConsole
