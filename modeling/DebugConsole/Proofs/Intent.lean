/-
# The user decides about breakpoints

Number, path, line and whether it is enabled are the user's part of a breakpoint
(`Breakpoint.intent`), the rest is what an adapter has said of it.  Only four operations
decide about breakpoints (`Move.decides`): a launch forgets them all, the others set,
change or delete one.  No other move changes anybody's mind, whatever the adapter answers
and whether or not it succeeds:

| move | breakpoints afterwards |
| --- | --- |
| `relaunch`, `close` | the same |
| `run`, readiness of an attached program | redescribed by the answers that were taken over |
| event about a breakpoint | one of them verified, or not |
| any other signal, anything else | the same |
-/

import DebugConsole.Proofs.Agreement

namespace DebugConsole

open Protocol

variable {σ : Type}

/-- Does the user decide about breakpoints by this move? -/
def Move.decides : Move σ → Bool
  | .operate (.launch _) => true
  | .operate (.setBreakpoint _ _) => true
  | .operate (.setEnabled _ _) => true
  | .operate (.deleteBreakpoint _) => true
  | _ => false

/-- One breakpoint is the other, up to what an adapter says of it. -/
def Breakpoint.IsRedescribed (b b' : Breakpoint) : Prop :=
  ∃ verified adapterId message, b' = { b with verified, adapterId, message }

/-- A breakpoint with the same intent differs only in what an adapter says. -/
theorem Breakpoint.isRedescribed_of_intent {b b' : Breakpoint} (h : b'.intent = b.intent) :
    b.IsRedescribed b' := by
  obtain ⟨index, path, line, enabled, verified, adapterId, message⟩ := b'
  obtain ⟨hindex, hpath, hline, henabled⟩ :
      index = b.index ∧ path = b.path ∧ line = b.line ∧ enabled = b.enabled := by
    simpa only [intent, Prod.mk.injEq] using h
  subst hindex hpath hline henabled
  exact ⟨verified, adapterId, message, rfl⟩

namespace Breakpoints

/-- What has not changed has not changed its intent. -/
theorem sameIntent_of_eq {bs bs' : Breakpoints} (h : bs' = bs) : SameIntent bs bs' :=
  h ▸ .refl bs

/-- The same intent means the same breakpoints in the same order, redescribed at most. -/
theorem SameIntent.forall₂_isRedescribed {bs bs' : Breakpoints} (h : SameIntent bs bs') :
    List.Forall₂ Breakpoint.IsRedescribed bs.list bs'.list := by
  have hmapped : List.Forall₂ (· = ·) (bs'.list.map (·.intent)) (bs.list.map (·.intent)) := by
    rw [List.forall₂_eq_eq_eq]
    exact h.intents
  have hintents : List.Forall₂ (fun b' b => b'.intent = b.intent) bs'.list bs.list :=
    List.forall₂_map_right_iff.1 (List.forall₂_map_left_iff.1 hmapped)
  exact hintents.flip.imp fun _ _ => Breakpoint.isRedescribed_of_intent

/-- The user finds the same breakpoints in the same order, with the same decisions about each;
only what an adapter says of them may differ. -/
structure KeepsIntent (bs bs' : Breakpoints) : Prop extends SameIntent bs bs' where
  redescribed : List.Forall₂ Breakpoint.IsRedescribed bs.list bs'.list

/-- Breakpoints with the same intent are the user's, in the same order. -/
theorem SameIntent.keepsIntent {bs bs' : Breakpoints} (h : SameIntent bs bs') :
    KeepsIntent bs bs' := ⟨h, h.forall₂_isRedescribed⟩

end Breakpoints

namespace Debugger

open Breakpoints

variable [Environment σ]

/-- A configuration takes over what the adapter says, and nothing else. -/
theorem sameIntent_configure {d : Debugger σ} (hwf : d.breakpoints.WellFormed) :
    SameIntent d.breakpoints (configure d).2.breakpoints := by
  rcases hsession : d.session.isSome with _ | _
  · rw [configure_of_no_session (by simpa using hsession)]
    exact .refl _
  obtain ⟨pushed, d₁, d₂, htells, hcalm, hresult⟩ := configure_spec hwf hsession
  have hpushed : SameIntent d.breakpoints d₂.breakpoints :=
    htells.sameIntent.trans (sameIntent_of_eq hcalm.breakpoints)
  rcases hresult with ⟨e, hrun⟩ | ⟨hrun, -⟩
  · rw [hrun]
    exact hpushed
  · rw [hrun]
    exact hpushed

/-- So does `run`. -/
theorem sameIntent_run {d : Debugger σ} (hwf : d.breakpoints.WellFormed) :
    SameIntent d.breakpoints (Debugger.run d).2.breakpoints := by
  rw [run_apply]
  split_ifs
  · exact sameIntent_configure hwf
  · exact .refl _

/-- A relaunch leaves the breakpoints alone. -/
theorem breakpoints_relaunch (d : Debugger σ) :
    (relaunch d).2.breakpoints = d.breakpoints := by
  rcases Option.eq_none_or_eq_some d.target with htarget | ⟨target, htarget⟩
  · rw [relaunch_of_no_target htarget]
  · exact (relaunch_spec (by rw [htarget]; rfl)).breakpoints

/-- Readiness leads to a configuration at most. -/
theorem sameIntent_onInitialized {d : Debugger σ} (hwf : d.breakpoints.WellFormed) :
    SameIntent d.breakpoints (onInitialized d).2.breakpoints := by
  rcases Option.eq_none_or_eq_some d.target with htarget | ⟨target, htarget⟩
  · rw [onInitialized_of_no_target htarget]
    exact .refl _
  rw [onInitialized_of_target htarget]
  split
  · exact .refl _
  have hconfigured := sameIntent_configure (d := { d with phase := .configuring }) hwf
  rcases hrun : configure { d with phase := .configuring } with ⟨e | _, d'⟩ <;>
    rw [hrun] at hconfigured
  · -- an attached program that could not be configured is left; the breakpoints are not
    have hcloses := closeSession_spec { d' with console := (d'.console.writeLine
      "Failed to initialize debugging session.").writeLine e.message }
    exact hconfigured.trans (sameIntent_of_eq hcloses.breakpoints)
  · exact hconfigured

/-- The end of a program leaves the breakpoints alone. -/
theorem breakpoints_onTargetGone (d : Debugger σ) :
    (onTargetGone d).2.breakpoints = d.breakpoints := by
  rcases onTargetGone_cases d with ⟨-, heq⟩ | ⟨-, heq⟩ | ⟨-, -, text, heq⟩ <;> rw [heq]
  exact breakpoints_relaunch d

theorem breakpoints_onEvent_exited (body : ExitedBody) (d : Debugger σ) :
    (onEvent (.exited body) d).2.breakpoints = d.breakpoints := by
  rw [onEvent_exited]
  exact breakpoints_onTargetGone _

theorem breakpoints_onEvent_terminated (body : Option TerminatedBody) (d : Debugger σ) :
    (onEvent (.terminated body) d).2.breakpoints = d.breakpoints := by
  rw [onEvent_terminated]
  split_ifs
  · exact breakpoints_onTargetGone _
  · rfl

/-- What an adapter says of a breakpoint is nothing the user has said. -/
theorem sameIntent_onEvent_breakpoint (reason : String) (descriptor : Descriptor)
    (d : Debugger σ) :
    SameIntent d.breakpoints (onEvent (.breakpoint reason descriptor) d).2.breakpoints := by
  rw [onEvent_breakpoint]
  split
  · split_ifs
    · exact .modifyId (f := fun b => { b with verified := descriptor.verified })
        (fun _ => rfl) d.breakpoints _
    · exact .refl _
  · exact .refl _

/-- A signal that reaches no session changes no breakpoint. -/
theorem sameIntent_handle {signal : Signal} {d : Debugger σ}
    (h : SameIntent d.breakpoints (react signal d).2.breakpoints) :
    SameIntent d.breakpoints (handle signal d).2.breakpoints := by
  rw [handle_apply]
  split_ifs
  · exact h
  · exact .refl _

/-- **Only the user decides about breakpoints**: no other move changes the intent. -/
theorem sameIntent_next {d : Debugger σ} (hwf : d.breakpoints.WellFormed) (move : Move σ)
    (h : move.decides = false) : SameIntent d.breakpoints (move.next d).breakpoints := by
  cases move using Move.casesPlain with
  | plain move hplain => exact sameIntent_of_eq (move.lasts_next hplain d).breakpoints
  | launch target => cases h
  | setBreakpoint path line => cases h
  | setEnabled index enabled => cases h
  | deleteBreakpoint index => cases h
  | relaunch => exact sameIntent_of_eq (breakpoints_relaunch d)
  | close => exact sameIntent_of_eq (closeSession_spec d).breakpoints
  | run => exact sameIntent_run hwf
  | initialized connection => exact sameIntent_handle (sameIntent_onInitialized hwf)
  | exited connection body =>
    exact sameIntent_handle (sameIntent_of_eq (breakpoints_onEvent_exited body d))
  | terminated connection body =>
    exact sameIntent_handle (sameIntent_of_eq (breakpoints_onEvent_terminated body d))
  | breakpoint connection reason descriptor =>
    exact sameIntent_handle (sameIntent_onEvent_breakpoint reason descriptor d)
  | closed connection => exact sameIntent_handle (sameIntent_of_eq (onClosed_spec d).1.breakpoints)
  | started connection result =>
    refine sameIntent_handle ?_
    cases result with
    | ok _ => exact .refl _
    | error e => exact sameIntent_of_eq (onStarted_error_spec e d).1.breakpoints

/-- **Moves that decide nothing keep what the user has said.** -/
theorem sameIntent_leadTo {d : Debugger σ} (hwf : d.breakpoints.WellFormed)
    {moves : List (Move σ)} (h : ∀ move ∈ moves, move.decides = false) :
    SameIntent d.breakpoints (d.leadTo moves).breakpoints := by
  induction moves generalizing d with
  | nil => exact .refl _
  | cons move rest ih =>
    have hfirst := sameIntent_next hwf move (h move List.mem_cons_self)
    have hrest := ih (hfirst.wellFormed hwf) fun other hmem => h other (List.mem_cons_of_mem _ hmem)
    exact hfirst.trans hrest

end Debugger

open Debugger Breakpoints

variable [Environment σ]

/-- **Adapters never change the user's mind.**  Whatever signal is handled, of any kind and
connection, and whenever the target is started again, let run or left, the breakpoints are the same
in the same order afterwards, up to what the adapter says of them: verified, id and message.  So
they are after any moves by which the user does not decide about breakpoints. -/
theorem Run.intent_kept {history : List (Step σ)} {d : Debugger σ} (h : Run history d) :
    (∀ signal, KeepsIntent d.breakpoints (handle signal d).2.breakpoints) ∧
    KeepsIntent d.breakpoints (relaunch d).2.breakpoints ∧
    KeepsIntent d.breakpoints (Debugger.run d).2.breakpoints ∧
    KeepsIntent d.breakpoints (closeSession d).2.breakpoints ∧
    ∀ moves : List (Move σ), (∀ move ∈ moves, move.decides = false) →
      KeepsIntent d.breakpoints (d.leadTo moves).breakpoints := by
  have hwf := h.isTold.wellFormed
  have hnext (move : Move σ) (hmove : move.decides = false) :
      KeepsIntent d.breakpoints (move.next d).breakpoints :=
    (sameIntent_next hwf move hmove).keepsIntent
  refine ⟨fun signal => hnext (.handle signal) rfl, ?_, ?_, ?_, ?_⟩
  · exact hnext (.operate .relaunch) rfl
  · exact hnext (.operate .run) rfl
  · exact hnext (.operate .close) rfl
  · intro moves hmoves
    exact (sameIntent_leadTo hwf hmoves).keepsIntent

/-- A launched program with two breakpoints that its adapter has not been told of. -/
def Script.breaking : List (Move Script) :=
  [ .operate (.launch launched), .handle (.event 1 .initialized),
    .operate (.setBreakpoint "a.c" 3), .operate (.setBreakpoint "b.c" 5) ]

/-- A run it speaks of: the adapter gives both breakpoints an id and takes one back. -/
theorem Run.intent_kept_scripted :
    let d := (Move.steps Script.breaking [] (Script.rehearse {})).2
    let moves : List (Move Script) :=
      [ .operate .run,
        .handle (.event 1 (.breakpoint "changed" { id := some 1, verified := false })),
        .operate .relaunch ]
    (d.leadTo moves).breakpoints.list.map (fun b => (b.verified, b.adapterId)) =
        [(false, some 1), (true, some 2)] ∧
      d.breakpoints.list.map (fun b => (b.verified, b.adapterId)) =
        [(false, none), (false, none)] ∧
      (∀ signal, KeepsIntent d.breakpoints (handle signal d).2.breakpoints) ∧
      KeepsIntent d.breakpoints (d.leadTo moves).breakpoints := by
  intro d moves
  have hrun : Run (Move.steps Script.breaking [] (Script.rehearse {})).1 d :=
    (Run.start _ _ _).steps _
  obtain ⟨hhandle, -, -, -, hmoves⟩ := hrun.intent_kept
  refine ⟨by decide +kernel, by decide +kernel, hhandle, hmoves moves fun move hmem => ?_⟩
  simp only [moves, List.mem_cons, List.not_mem_nil, or_false] at hmem
  rcases hmem with rfl | rfl | rfl <;> rfl

end DebugConsole
