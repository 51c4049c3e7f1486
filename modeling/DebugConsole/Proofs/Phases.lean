/-
# How the phase changes

Of every move it is said once what it may do to phase, session and target (`Debugger.Turns`):

| turn | phase afterwards | session afterwards |
| --- | --- | --- |
| `stays` | the same; or running and stopped change places | the same |
| `starts` | initializing | the next one, or none |
| `closes` | the same, or terminated | none |
| `readies` | configuring | the same |
| `configures` | running | the same; none if an attached program could not be configured |
| `exits` | terminated | the same |

The documented changes of phase (`Debugger.Documents`) allow `readies` and `configures` only from
certain phases, but an adapter may say at any time that it is ready.  This is the only way to leave
the documented changes: an adapter that says so again while a launched program runs or stands, or
when an attached one is gone (`Run.documented_iff`).
-/

import DebugConsole.Proofs.Configuration
import DebugConsole.Proofs.Isolation

namespace DebugConsole

open Protocol

variable {σ : Type}

/-- Does a move start a session: because the user wants it, or a launched target is gone? -/
def Move.Starts (d : Debugger σ) : Move σ → Prop
  | .operate (.launch _) => True
  | .operate .relaunch => True
  | .handle (.event connection (.exited _)) => d.isOpen connection ∧ d.launches
  | .handle (.event connection (.terminated _)) => d.isOpen connection ∧ d.launches
  | _ => False

/-- Does the adapter of the open session say that it is ready? -/
def Move.IsReadiness (d : Debugger σ) : Move σ → Prop
  | .handle (.event connection .initialized) => d.isOpen connection
  | _ => False

namespace Debugger

/-- The session and its target are the same. -/
structure Retains (d d' : Debugger σ) : Prop where
  target : d'.target = d.target
  session : d'.session.isSome = d.session.isSome
  generation : d'.generation = d.generation

theorem Retains.refl (d : Debugger σ) : Retains d d := ⟨rfl, rfl, rfl⟩

variable [Environment σ]

/-- What a move does to phase, session and target. -/
inductive Turns (d : Debugger σ) (move : Move σ) (d' : Debugger σ) : Prop
  | stays (kept : Retains d d')
      (phase : d'.phase = d.phase ∨ d.phase.isLive ∧ d'.phase.isLive)
  | starts (begins : move.Starts d) (phase : d'.phase = .initializing)
      (session : d'.session = none ∧ d'.generation = d.generation ∨
        d'.session.isSome ∧ d'.generation = d.generation + 1)
  | closes (session : d'.session = none) (target : d'.target = d.target)
      (generation : d'.generation = d.generation)
      (phase : d'.phase = d.phase ∨ d'.phase = .terminated)
  | readies (readiness : move.IsReadiness d) (launches : d.launches) (kept : Retains d d')
      (phase : d'.phase = .configuring)
  | configures (outcome : Except Error Unit)
      (begun : Step.configuration? ⟨d, move⟩ = some outcome) (attempt : Attempts d outcome d')
  | exits (launches : d.launches = false) (kept : Retains d d') (phase : d'.phase = .terminated)

omit [Environment σ] in
/-- What lasts retains its session, and the phase unless it is live. -/
theorem Lasts.retains {d d' : Debugger σ} (h : Lasts d d') : Retains d d' :=
  ⟨h.target, h.session, h.generation⟩

/-- Talk retains all of it. -/
theorem Steady.retains {d d' : Debugger σ} (h : Steady d d') : Retains d d' :=
  ⟨h.target, h.session, h.generation⟩

theorem Turns.refl (d : Debugger σ) (move : Move σ) : Turns d move d := .stays (.refl d) (.inl rfl)

/-- A move that only talks leads on in the same phase. -/
theorem Turns.of_steady {d d' : Debugger σ} (h : Steady d d') (move : Move σ) : Turns d move d' :=
  .stays h.retains (.inl h.phase)

/-- After a restart there is no session, or one on the next connection. -/
theorem Restarts.session {d d' : Debugger σ} (h : Restarts d d') :
    d'.session = none ∧ d'.generation = d.generation ∨
      d'.session.isSome ∧ d'.generation = d.generation + 1 :=
  h.outcome.imp (fun hnone => ⟨hnone.1, hnone.2.1⟩) fun hsome => ⟨hsome.1, hsome.2.1⟩

/-- A move that drops its session leads to the end. -/
theorem Turns.of_drops {d d' : Debugger σ} (h : Drops d d') (move : Move σ) : Turns d move d' :=
  .closes h.session h.target h.generation (.inr h.phase)

/-- A signal turns the debugger where it has an effect at all. -/
theorem Turns.handle {signal : Signal} {d : Debugger σ}
    (h : d.isOpen signal.generation → Turns d (.handle signal) (react signal d).2) :
    Turns d (.handle signal) ((Move.handle signal).next d) := by
  rw [Move.next, handle_apply]
  split_ifs with hopen
  · exact h hopen
  · exact .refl d _

/-- A launched target that is gone is started again. -/
theorem turns_onTargetGone {d : Debugger σ} {move : Move σ} (hstarts : d.launches → move.Starts d)
    (console : Console) :
    Turns d move (onTargetGone { d with phase := .terminated, console }).2 := by
  rcases onTargetGone_cases { d with phase := .terminated, console } with
    ⟨htarget, heq⟩ | ⟨hattaches, heq⟩ | ⟨htarget, hlaunches, text, heq⟩ <;> rw [heq]
  · have hnone : d.target = none := htarget
    exact .exits (by rw [launches, hnone]; rfl) ⟨rfl, rfl, rfl⟩ rfl
  · exact .exits (launches_of_attaches (d := d) hattaches) ⟨rfl, rfl, rfl⟩ rfl
  · have hrestarts := relaunch_spec htarget
    exact .starts (hstarts hlaunches) hrestarts.phase hrestarts.session

/-- **What a move does to phase, session and target.** -/
theorem turns_next {d : Debugger σ} (hwf : d.breakpoints.WellFormed) (move : Move σ) :
    Turns d move (move.next d) := by
  cases hconfiguration : Step.configuration? ⟨d, move⟩ with
  | some outcome =>
    exact .configures outcome hconfiguration (attempts_of_configuration? hwf hconfiguration)
  | none =>
  -- what configures has been treated, so `run` and readiness do less from here on
  cases move using Move.casesPlain with
  | plain move hplain =>
    have hlasts := move.lasts_next hplain d
    exact .stays hlasts.retains hlasts.live
  | launch target =>
    show Turns d _ (launch target d).2
    rw [launch_apply]
    have hrestarts := relaunch_spec (d := { d with target := some target, breakpoints := {} }) rfl
    exact .starts trivial hrestarts.phase hrestarts.session
  | relaunch =>
    show Turns d _ (Debugger.relaunch d).2
    rcases Option.eq_none_or_eq_some d.target with htarget | ⟨target, htarget⟩
    · rw [relaunch_of_no_target htarget]
      exact .refl d _
    · have hrestarts := relaunch_spec (d := d) (by rw [htarget]; rfl)
      exact .starts trivial hrestarts.phase hrestarts.session
  | close =>
    have hcloses := closeSession_spec d
    exact .closes hcloses.session hcloses.target hcloses.generation (.inl hcloses.phase)
  | run =>
    show Turns d _ (Debugger.run d).2
    rw [run_of_not_begun hconfiguration]
    exact .refl d _
  | setBreakpoint path line => exact .of_steady (edits_setBreakpoint path line d).toSteady _
  | setEnabled index enabled => exact .of_steady (edits_setEnabled index enabled d).toSteady _
  | deleteBreakpoint index => exact .of_steady (edits_deleteBreakpoint index d).toSteady _
  | initialized connection =>
    refine .handle fun hopen => ?_
    show Turns d _ (onInitialized d).2
    rw [onInitialized_of_not_begun hopen hconfiguration]
    split_ifs with hlaunches
    · exact .readies hopen hlaunches ⟨rfl, rfl, rfl⟩ rfl
    · exact .refl d _
  | exited connection body =>
    refine .handle fun hopen => ?_
    have hstarts (hlaunches : d.launches) :
      Move.Starts d (.handle (.event connection (.exited body))) := ⟨hopen, hlaunches⟩
    show Turns d _ (onEvent (.exited body) d).2
    rw [onEvent_exited]
    exact turns_onTargetGone hstarts _
  | terminated connection body =>
    refine .handle fun hopen => ?_
    have hstarts (hlaunches : d.launches) :
      Move.Starts d (.handle (.event connection (.terminated body))) := ⟨hopen, hlaunches⟩
    show Turns d _ (onEvent (.terminated body) d).2
    rw [onEvent_terminated]
    split_ifs
    · exact turns_onTargetGone hstarts _
    · exact .refl d _
  | breakpoint connection reason descriptor =>
    refine .handle fun _ => ?_
    show Turns d _ (onEvent (.breakpoint reason descriptor) d).2
    obtain ⟨breakpoints, heq⟩ := exists_onEvent_breakpoint reason descriptor d
    rw [heq]
    exact .stays ⟨rfl, rfl, rfl⟩ (.inl rfl)
  | closed connection => exact .handle fun _ => .of_drops (onClosed_spec d).1 _
  | started connection result =>
    refine .handle fun _ => ?_
    cases result with
    | ok _ => exact .refl d _
    | error e => exact .of_drops (onStarted_error_spec e d).1 _

omit [Environment σ] in
/-- Only an open session can be ready. -/
theorem session_of_readiness {d : Debugger σ} {move : Move σ} (h : move.IsReadiness d) :
    d.session.isSome := by
  unfold Move.IsReadiness at h
  split at h
  · exact (Bool.and_eq_true_iff.1 h).2
  · cases h

/-- Readiness is answered by a configuration, by the user or at once. -/
theorem phase_of_readiness {d : Debugger σ} (hwf : d.breakpoints.WellFormed) {move : Move σ}
    (h : move.IsReadiness d) :
    (d.launches → (move.next d).phase = .configuring) ∧
      (d.attaches → (move.next d).phase = .running) := by
  unfold Move.IsReadiness at h
  split at h
  · rename_i connection
    refine ⟨fun hlaunches => ?_, fun hattaches => ?_⟩
    · have hopen : d.isOpen (Signal.event connection Event.initialized).generation := h
      obtain ⟨target, htarget, hmode⟩ :
          ∃ target, d.target = some target ∧ target.mode.isLaunch := by
        simpa [launches, Option.any_eq_true] using hlaunches
      rw [Move.next, handle_apply, if_pos hopen]
      show (onInitialized d).2.phase = _
      rw [onInitialized_of_target htarget, if_pos hmode]
    · have hbegun : Step.configuration? ⟨d, .handle (.event connection .initialized)⟩ =
          some (configure { d with phase := .configuring }).1 := if_pos ⟨h, hattaches⟩
      exact (attempts_of_configuration? hwf hbegun).phase
  · cases h

/-! ### What is documented -/

/-- The documented changes of phase. -/
inductive Documents (d : Debugger σ) (move : Move σ) (phase : Phase) : Prop
  | unchanged (same : phase = d.phase)
  | starting (begins : move.Starts d) (after : phase = .initializing)
  | ready (before : d.phase = .initializing) (readiness : move.IsReadiness d)
      (after : phase = .configuring)
  | configured (begun : (Step.configuration? ⟨d, move⟩).isSome)
      (before : d.phase = .initializing ∧ d.attaches ∨
        d.phase = .configuring ∧ move = .operate .run)
      (after : phase = .running)
  | stopped (before : d.phase = .running) (after : phase = .stopped)
  | resumed (before : d.phase = .stopped) (after : phase = .running)
  | gone (after : phase = .terminated)

end Debugger

open Debugger

/-- Does an adapter say that it is ready although a launched program runs or stands, or an attached
one is gone? -/
def Move.IsReadyAgain (d : Debugger σ) (move : Move σ) : Prop :=
  move.IsReadiness d ∧ (d.launches ∧ d.phase.isLive ∨ d.attaches ∧ d.phase = .terminated)

namespace Debugger

/-- Which phases a target may be in. -/
structure PhaseFits (d : Debugger σ) : Prop where
  configuring : d.phase = .configuring → d.launches
  terminated : d.phase = .terminated → d.session.isSome → d.launches = false

/-- Whether a program is launched depends on the target alone. -/
theorem launches_congr {d d' : Debugger σ} (h : d'.target = d.target) :
    d'.launches = d.launches := by
  rw [launches, h, launches]

/-- In other phases nothing has to fit. -/
theorem PhaseFits.of_phase {d : Debugger σ} (hconfiguring : d.phase ≠ .configuring)
    (hterminated : d.phase ≠ .terminated) : PhaseFits d :=
  ⟨fun h => absurd h hconfiguring, fun h => absurd h hterminated⟩

variable [Environment σ]

/-- Where the phase fits, it does after every turn. -/
theorem PhaseFits.turns {d d' : Debugger σ} {move : Move σ} (h : PhaseFits d)
    (hturns : Turns d move d') : PhaseFits d' := by
  cases hturns with
  | stays kept phase =>
    have hlaunches := launches_congr kept.target
    rcases phase with heq | ⟨-, hlive⟩
    · exact ⟨fun hphase => hlaunches ▸ h.configuring (heq ▸ hphase), fun hphase hsession =>
        hlaunches ▸ h.terminated (heq ▸ hphase) (kept.session ▸ hsession)⟩
    · -- a live phase is neither of the two that must fit
      refine .of_phase (fun heq => ?_) fun heq => ?_ <;> rw [heq] at hlive <;> cases hlive
  | starts begins phase session =>
    refine .of_phase (fun heq => ?_) fun heq => ?_ <;> rw [phase] at heq <;> cases heq
  | closes session target generation phase =>
    refine ⟨fun hphase => ?_, fun _ hsome => by rw [session] at hsome; cases hsome⟩
    rcases phase with heq | heq
    · exact launches_congr target ▸ h.configuring (heq ▸ hphase)
    · rw [heq] at hphase
      cases hphase
  | readies readiness launches kept phase =>
    refine ⟨fun _ => launches_congr kept.target ▸ launches, fun heq => ?_⟩
    rw [phase] at heq
    cases heq
  | configures outcome begun attempt =>
    refine .of_phase (fun heq => ?_) fun heq => ?_ <;> rw [attempt.phase] at heq <;> cases heq
  | exits launches kept phase =>
    refine ⟨fun heq => ?_, fun _ _ => launches_congr kept.target ▸ launches⟩
    rw [phase] at heq
    cases heq

/-- **A move changes the phase as documented**, unless an adapter says again that it is ready. -/
theorem documented_of_turns {d d' : Debugger σ} {move : Move σ} (h : PhaseFits d)
    (hturns : Turns d move d') (hagain : ¬move.IsReadyAgain d) : Documents d move d'.phase := by
  cases hturns with
  | stays kept phase =>
    rcases phase with heq | ⟨hbefore, hafter⟩
    · exact .unchanged heq
    · -- running and stopped are the only live phases
      cases hd : d.phase <;> rw [hd] at hbefore <;> cases hbefore <;>
        cases hd' : d'.phase <;> rw [hd'] at hafter <;> cases hafter
      · exact .unchanged hd.symm
      · exact .stopped hd rfl
      · exact .resumed hd rfl
      · exact .unchanged hd.symm
  | starts begins phase session => exact .starting begins phase
  | closes session target generation phase => exact phase.elim .unchanged .gone
  | readies readiness launches kept phase =>
    cases hphase : d.phase with
    | initializing => exact .ready hphase readiness phase
    | configuring => exact .unchanged (phase.trans hphase.symm)
    | terminated =>
      -- a launched program that is gone leaves no session that could be ready
      have hfalse := h.terminated hphase (session_of_readiness readiness)
      rw [launches] at hfalse
      cases hfalse
    | _ => exact absurd ⟨readiness, .inl ⟨launches, by rw [hphase]; rfl⟩⟩ hagain
  | configures outcome begun attempt =>
    have hsome : (Step.configuration? ⟨d, move⟩).isSome := by rw [begun]; rfl
    rcases cases_of_configuration? begun with ⟨rfl, hphase, -⟩ |
      ⟨connection, rfl, hopen, hattaches, -⟩
    · exact .configured hsome (.inr ⟨hphase, rfl⟩) attempt.phase
    cases hphase : d.phase with
    | initializing => exact .configured hsome (.inl ⟨hphase, hattaches⟩) attempt.phase
    | configuring =>
      -- only a launched program waits for the user while it is configured
      have hlaunches := h.configuring hphase
      rw [launches_of_attaches hattaches] at hlaunches
      cases hlaunches
    | running => exact .unchanged (attempt.phase.trans hphase.symm)
    | stopped => exact .resumed hphase attempt.phase
    | terminated => exact absurd ⟨hopen, .inr ⟨hattaches, hphase⟩⟩ hagain
  | exits launches kept phase => exact .gone phase

/-- As documented, a configuration comes first. -/
theorem Documents.of_configuring {d : Debugger σ} {move : Move σ}
    (h : Documents d move .configuring) : d.phase = .configuring ∨ d.phase = .initializing := by
  cases h with
  | unchanged same => exact .inl same.symm
  | ready before readiness after => exact .inr before
  | starting begins after => cases after
  | configured begun before after => cases after
  | stopped before after => cases after
  | resumed before after => cases after
  | gone after => cases after

/-- As documented, what is gone does not run. -/
theorem Documents.of_running {d : Debugger σ} {move : Move σ} (h : Documents d move .running) :
    d.phase ≠ .terminated := by
  intro hgone
  cases h with
  | unchanged same => cases same.trans hgone
  | configured begun before after =>
    rcases before with ⟨before, -⟩ | ⟨before, -⟩ <;> cases before.symm.trans hgone
  | resumed before after => cases before.symm.trans hgone
  | starting begins after => cases after
  | ready before readiness after => cases after
  | stopped before after => cases after
  | gone after => cases after

/-- Readiness that is announced again leads where no documented change leads. -/
theorem not_documented_of_isReadyAgain {d : Debugger σ} (hwf : d.breakpoints.WellFormed)
    {move : Move σ} (hagain : move.IsReadyAgain d) : ¬Documents d move (move.next d).phase := by
  intro hdocumented
  obtain ⟨hreadiness, ⟨hlaunches, hlive⟩ | ⟨hattaches, hgone⟩⟩ := hagain
  · rw [(phase_of_readiness hwf hreadiness).1 hlaunches] at hdocumented
    rcases hdocumented.of_configuring with hphase | hphase <;> rw [hphase] at hlive <;> cases hlive
  · rw [(phase_of_readiness hwf hreadiness).2 hattaches] at hdocumented
    exact hdocumented.of_running hgone

/-! ### Within one session -/

/-- Within a session a program that was started stays so, and one that is gone stays gone. -/
theorem started_of_turns {d d' : Debugger σ} {move : Move σ} (h : PhaseFits d)
    (hturns : Turns d move d') (hagain : ¬move.IsReadyAgain d) (hsession : d.session.isSome)
    (hopen : d'.isOpen d.generation) :
    (d.phase.isStarted → d'.phase.isStarted) ∧
      (d.phase = .terminated → d'.phase = .terminated) := by
  obtain ⟨hgeneration, hsome⟩ := Bool.and_eq_true_iff.1 hopen
  replace hgeneration : d'.generation = d.generation := of_decide_eq_true hgeneration
  cases hturns with
  | stays kept phase =>
    rcases phase with heq | ⟨hbefore, hafter⟩
    · rw [heq]
      exact ⟨id, id⟩
    · refine ⟨fun _ => ?_, fun hgone => by rw [hgone] at hbefore; cases hbefore⟩
      cases hd' : d'.phase <;> rw [hd'] at hafter <;> first | rfl | cases hafter
  | starts begins phase session =>
    -- a start leaves no session, or one on the next connection
    rcases session with ⟨hnone, -⟩ | ⟨-, hnext⟩
    · rw [hnone] at hsome
      cases hsome
    · omega
  | closes session target generation phase =>
    rw [session] at hsome
    cases hsome
  | readies readiness launches kept phase =>
    have hgone : d.phase ≠ .terminated := fun hgone => by
      have hfalse := h.terminated hgone hsession
      rw [launches] at hfalse
      cases hfalse
    refine ⟨fun hstarted => absurd ⟨readiness, .inl ⟨launches, ?_⟩⟩ hagain, (absurd · hgone)⟩
    cases hphase : d.phase <;> rw [hphase] at hstarted hgone <;>
      first | rfl | exact absurd rfl hgone | cases hstarted
  | configures outcome begun attempt =>
    refine ⟨fun _ => by rw [attempt.phase]; rfl, fun hgone => ?_⟩
    rcases cases_of_configuration? begun with ⟨-, hphase, -⟩ |
      ⟨connection, rfl, hready, hattaches, -⟩
    · rw [hgone] at hphase
      cases hphase
    · exact absurd ⟨hready, .inr ⟨hattaches, hgone⟩⟩ hagain
  | exits launches kept phase => exact ⟨fun _ => by rw [phase]; rfl, fun _ => phase⟩

/-- A move leaves the session open, or it is over. -/
theorem isOver_of_turns {d d' : Debugger σ} {move : Move σ} (hturns : Turns d move d')
    (hclosed : d'.isOpen d.generation = false) : d'.IsOver d.generation := by
  refine ⟨?_, hclosed⟩
  cases hturns with
  | stays kept phase => exact kept.generation.ge
  | starts begins phase session => omega
  | closes session target generation phase => exact generation.ge
  | readies readiness launches kept phase => exact kept.generation.ge
  | configures outcome begun attempt => exact attempt.generation.ge
  | exits launches kept phase => exact kept.generation.ge

end Debugger

variable [Environment σ]

/-- **Every move of a run is a turn.** -/
theorem Run.turns_next {history : List (Step σ)} {d : Debugger σ} (h : Run history d)
    (move : Move σ) : Turns d move (move.next d) :=
  Debugger.turns_next h.isTold.wellFormed move

/-- **In every run the phase fits the session.** -/
theorem Run.phaseFits {history : List (Step σ)} {d : Debugger σ} (h : Run history d) :
    PhaseFits d := by
  induction h with
  | start environment console suppressed => exact .of_phase nofun nofun
  | step hrun move ih => exact ih.turns (hrun.turns_next move)

/-- A session that is over stays so, however a run goes on. -/
theorem Run.isOver_leadTo {history : List (Step σ)} {d : Debugger σ} (h : Run history d)
    {connection : Nat} (hover : d.IsOver connection) (moves : List (Move σ)) :
    (d.leadTo moves).IsOver connection := by
  induction moves generalizing history d with
  | nil => exact hover
  | cons move rest ih => exact ih (h.step move) (hover.next h.isTold.wellFormed move)

/-- Steps that were taken stay in the history. -/
theorem Move.mem_steps {moves : List (Move σ)} {history : List (Step σ)} {step : Step σ}
    (h : step ∈ history) (d : Debugger σ) : step ∈ (Move.steps moves history d).1 := by
  induction moves generalizing history d with
  | nil => exact h
  | cons move rest ih => exact ih (List.mem_cons_of_mem _ h) (move.next d)

/-- **A program that was started stays so to the end of its session, and one that is gone stays
gone**, unless its adapter says again that it is ready. -/
theorem Run.started_leadTo {history : List (Step σ)} {d : Debugger σ} (h : Run history d)
    {moves : List (Move σ)} {earlier : List (Step σ)}
    (hagain : ∀ step ∈ (Move.steps moves earlier d).1, ¬step.move.IsReadyAgain step.before)
    (hsession : d.session.isSome) (hopen : (d.leadTo moves).isOpen d.generation) :
    (d.phase.isStarted → (d.leadTo moves).phase.isStarted) ∧
      (d.phase = .terminated → (d.leadTo moves).phase = .terminated) := by
  induction moves generalizing history d earlier with
  | nil => exact ⟨id, id⟩
  | cons move rest ih =>
    have hturns := h.turns_next move
    have hnext : (move.next d).isOpen d.generation := by
      cases hclosed : (move.next d).isOpen d.generation with
      | true => rfl
      | false =>
        have hover := (h.step move).isOver_leadTo (isOver_of_turns hturns hclosed) rest
        exact hover.2.symm.trans hopen
    obtain ⟨hgeneration, hsome⟩ := Bool.and_eq_true_iff.1 hnext
    replace hgeneration : (move.next d).generation = d.generation := of_decide_eq_true hgeneration
    have hfirst : ¬move.IsReadyAgain d := hagain ⟨d, move⟩ (Move.mem_steps List.mem_cons_self _)
    have hstep := started_of_turns h.phaseFits hturns hfirst hsession hnext
    have hrest := ih (h.step move) hagain hsome (hgeneration ▸ hopen)
    exact ⟨hrest.1 ∘ hstep.1, hrest.2 ∘ hstep.2⟩

/-- **Which changes of phase are documented.**  All are, but those where an adapter says again that
it is ready although a launched program runs or stands, or an attached one is gone.  Without these,
a program that was started stays so to the end of its session, and one that is gone stays gone. -/
theorem Run.documented_iff {history : List (Step σ)} {d : Debugger σ} (h : Run history d) :
    (∀ move : Move σ, Documents d move (move.next d).phase ↔ ¬move.IsReadyAgain d) ∧
      (∀ move : Move σ, move.IsReadyAgain d →
        (move.next d).phase = if d.launches then .configuring else .running) ∧
      ∀ moves : List (Move σ),
        (∀ step ∈ (Move.steps moves [] d).1, ¬step.move.IsReadyAgain step.before) →
        d.session.isSome → (d.leadTo moves).isOpen d.generation →
          (d.phase.isStarted → (d.leadTo moves).phase.isStarted) ∧
            (d.phase = .terminated → (d.leadTo moves).phase = .terminated) := by
  have hwf := h.isTold.wellFormed
  refine ⟨fun move => ?_, fun move hagain => ?_, fun moves => h.started_leadTo⟩
  · exact ⟨fun hdocumented hagain => not_documented_of_isReadyAgain hwf hagain hdocumented,
      documented_of_turns h.phaseFits (h.turns_next move)⟩
  · obtain ⟨hlaunched, hattached⟩ := phase_of_readiness hwf hagain.1
    rcases hagain.2 with ⟨hlaunches, -⟩ | ⟨hattaches, -⟩
    · rw [if_pos hlaunches]
      exact hlaunched hlaunches
    · rw [if_neg (Bool.eq_false_iff.1 (launches_of_attaches hattaches))]
      exact hattached hattaches

/-- A launched program that runs. -/
def Script.running : List (Move Script) :=
  [.operate (.launch launched), .handle (.event 1 .initialized), .operate .run]

/-- A run it speaks of: while the program runs, its adapter says again that it is ready. -/
theorem Run.documented_iff_scripted :
    let d := (Move.steps Script.running [] (Script.rehearse {})).2
    let again : Move Script := .handle (.event 1 .initialized)
    d.phase = .running ∧ (again.next d).phase = .configuring ∧
      ((∀ move : Move Script, Documents d move (move.next d).phase ↔ ¬move.IsReadyAgain d) ∧
        (∀ move : Move Script, move.IsReadyAgain d →
          (move.next d).phase = if d.launches then .configuring else .running) ∧
        ∀ moves : List (Move Script),
          (∀ step ∈ (Move.steps moves [] d).1, ¬step.move.IsReadyAgain step.before) →
          d.session.isSome → (d.leadTo moves).isOpen d.generation →
            (d.phase.isStarted → (d.leadTo moves).phase.isStarted) ∧
              (d.phase = .terminated → (d.leadTo moves).phase = .terminated)) := by
  intro d again
  have hrun : Run (Move.steps Script.running [] (Script.rehearse {})).1 d :=
    (Run.start _ _ _).steps _
  exact ⟨by decide +kernel, by decide +kernel, hrun.documented_iff⟩

/-- Not all changes are documented: the phase of a running program can become that of one that is
being configured. -/
theorem Run.documented_not_always : ¬∀ (history : List (Step Script)) (d : Debugger Script),
    Run history d → ∀ move : Move Script, Documents d move (move.next d).phase := by
  intro h
  let run := Move.steps Script.running [] (Script.rehearse {})
  have hrun : Run run.1 run.2 := (Run.start _ _ _).steps _
  have hbefore : run.2.phase = .running := by decide +kernel
  have hafter : ((Move.handle (.event 1 .initialized)).next run.2).phase = .configuring := by
    decide +kernel
  have hdocumented := h run.1 run.2 hrun (.handle (.event 1 .initialized))
  rw [hafter] at hdocumented
  rcases hdocumented.of_configuring with hphase | hphase <;> rw [hbefore] at hphase <;> cases hphase

end DebugConsole
