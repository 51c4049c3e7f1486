/-
# Sessions do not meet

Signals of a session may wait in its inbox, be in the hands of the host, or not be sent
yet, when the session is closed and another one is opened.  None of them has an effect
any more:

* the number of a session is the count of the connections opened so far, so a number is
  never given twice (`Debugger.Advances`);
* what is taken was sent on the connection whose number it carries
  (`Run.isAccounted`);
* a move that concerns a connection which is not open changes nothing, and a
  connection that was closed stays closed (`Debugger.IsOver`).
-/

import DebugConsole.Proofs.Agreement

namespace DebugConsole

open Protocol

variable {σ : Type}

/-- Does a move hand in a signal of a connection, or is it what arrives there? -/
def Move.concerns (connection : Nat) : Move σ → Bool
  | .handle signal => signal.generation = connection
  | .hear number _ => number = connection
  | _ => false

/-- Does a move end the open session, if there is one? -/
def Move.ends (d : Debugger σ) : Move σ → Bool
  | .operate .close => true
  | .operate .relaunch => d.target.isSome
  | .operate (.launch _) => true
  | .handle (.closed connection) => d.isOpen connection
  | .handle (.started connection (.error _)) => d.isOpen connection
  | .handle (.event connection (.exited _)) => d.isOpen connection && d.launches
  | .handle (.event connection (.terminated _)) =>
    d.isOpen connection && (d.launches && d.phase.isLive)
  | _ => false

/-- Does a move happen outside of the debugger? -/
def Move.isOutside : Move σ → Bool
  | .hear _ _ => true
  | .elsewhere _ => true
  | _ => false

/-- What is heard was sent, and what happens elsewhere loses nothing that was sent. -/
def Step.IsRecorded (sent : Signal → σ → Prop) (step : Step σ) : Prop :=
  match step.move with
  | .hear connection arrivals =>
    ∀ signal ∈ arrivals.signals connection, sent signal step.before.environment
  | .elsewhere change => ∀ signal, sent signal step.before.environment →
      sent signal (change step.before.environment)
  | _ => True

namespace Debugger

variable [Environment σ]

/-! ### Numbers of sessions -/

/-- A session begins only with the next number, and only what was sent becomes pending. -/
structure Advances (d d' : Debugger σ) : Prop where
  flow : Flows d d'
  numbered : d'.generation + d.connections = d.generation + d'.connections
  sessions : d'.generation = d.generation ∧ (d'.session.isSome → d.session.isSome) ∨
    d.generation < d'.generation

instance : IsPreorder (Debugger σ) Advances where
  refl _ := ⟨refl_of Flows _, rfl, .inl ⟨rfl, id⟩⟩
  trans _ _ _ h₁ h₂ := {
    flow := trans_of Flows h₁.flow h₂.flow
    numbered := by
      have hnumbered₁ := h₁.numbered
      have hnumbered₂ := h₂.numbered
      omega
    sessions := by
      rcases h₁.sessions with ⟨heq₁, hsome₁⟩ | hlt₁ <;>
        rcases h₂.sessions with ⟨heq₂, hsome₂⟩ | hlt₂
      · exact .inl ⟨heq₂.trans heq₁, fun h => hsome₁ (hsome₂ h)⟩
      · exact .inr (heq₁ ▸ hlt₂)
      · exact .inr (heq₂ ▸ hlt₁)
      · exact .inr (hlt₁.trans hlt₂) }

/-- What lasts goes on with its connection. -/
theorem Stays.advances {d d' : Debugger σ} (h : Stays d d') : Advances d d' where
  flow := h.flow
  numbered := by rw [h.generation, h.connections_eq]
  sessions := .inl ⟨h.generation, fun hsome => h.session ▸ hsome⟩

/-- A session that is closed is over. -/
theorem Closes.advances {d d' : Debugger σ} (h : Closes d d') : Advances d d' where
  flow := h.flow
  numbered := by rw [h.generation, h.inner.unconnected.connections_eq]
  sessions := .inl ⟨h.generation, fun hsome => by rw [h.session] at hsome; cases hsome⟩

/-- So is one that is dropped. -/
theorem Drops.advances {d d' : Debugger σ} (h : Drops d d') : Advances d d' where
  flow := h.flow
  numbered := by rw [h.generation, h.inner.unconnected.connections_eq]
  sessions := .inl ⟨h.generation, fun hsome => by rw [h.session] at hsome; cases hsome⟩

/-- A restart closes the session and may go on to the next connection. -/
theorem Restarts.advances {d d' : Debugger σ} (h : Restarts d d') : Advances d d' where
  flow := h.flow
  numbered := h.numbered
  sessions := by
    rcases h.outcome with ⟨hnone, hgeneration, _⟩ | ⟨_, hgeneration, _⟩
    · exact .inl ⟨hgeneration, fun hsome => by rw [hnone] at hsome; cases hsome⟩
    · exact .inr (by omega)

/-- Talk goes on with its connection. -/
theorem Steady.advances {d d' : Debugger σ} (h : Steady d d') : Advances d d' where
  flow := h.flow
  numbered := by rw [h.generation, h.unconnected.connections_eq]
  sessions := .inl ⟨h.generation, fun hsome => h.session ▸ hsome⟩

/-- A change of what no session is about. -/
theorem Advances.of_eq {d d' : Debugger σ} (henvironment : d'.environment = d.environment)
    (hsession : d'.session = d.session) (hgeneration : d'.generation = d.generation)
    (hexchanges : d'.exchanges = d.exchanges) : Advances d d' where
  flow := .of_eq henvironment hsession hgeneration
  numbered := by rw [connections, connections, hgeneration, hexchanges]
  sessions := .inl ⟨hgeneration, fun hsome => hsession ▸ hsome⟩

/-- A change of what no session is about may go before. -/
theorem Advances.of_prepared {d d₁ d₂ : Debugger σ} (h : Advances d₁ d₂)
    (henvironment : d₁.environment = d.environment) (hsession : d₁.session = d.session)
    (hgeneration : d₁.generation = d.generation) (hexchanges : d₁.exchanges = d.exchanges) :
    Advances d d₂ :=
  trans_of Advances (.of_eq henvironment hsession hgeneration hexchanges) h

/-- What is written makes no difference to sessions. -/
theorem Advances.of_console (d : Debugger σ) (console : Console) :
    Advances d { d with console } := (Stays.of_console d console).advances

/-- A configuration goes on with its connection. -/
theorem advances_configure {d : Debugger σ} (hwf : d.breakpoints.WellFormed) :
    Advances d (configure d).2 := by
  rcases hsession : d.session.isSome with _ | _
  · rw [configure_of_no_session (by simpa using hsession)]
    exact refl_of Advances d
  obtain ⟨pushed, d₁, d₂, htells, hcalm, ⟨e, hrun⟩ | ⟨hrun, _⟩⟩ := configure_spec hwf hsession
  all_goals
    have hpushed : Advances d d₁ := htells.advances.of_prepared rfl rfl rfl rfl
    have hconfigured : Advances d d₂ := trans_of Advances hpushed hcalm.advances
    rw [hrun]
  · exact hconfigured
  · exact trans_of Advances hconfigured (.of_console d₂ _)

theorem advances_run {d : Debugger σ} (hwf : d.breakpoints.WellFormed) :
    Advances d (Debugger.run d).2 := by
  rw [run_apply]
  split_ifs
  · exact advances_configure hwf
  · exact refl_of Advances d

/-- A relaunch leaves the old connection behind. -/
theorem advances_relaunch (d : Debugger σ) : Advances d (relaunch d).2 := by
  rcases Option.eq_none_or_eq_some d.target with htarget | ⟨target, htarget⟩
  · rw [relaunch_of_no_target htarget]
    exact refl_of Advances d
  · exact (relaunch_spec (by rw [htarget]; rfl)).advances

/-- So does a launch, whatever was open before. -/
theorem advances_launch (target : Target) (d : Debugger σ) :
    Advances d (launch target d).2 := by
  rw [launch_apply]
  exact (advances_relaunch _).of_prepared rfl rfl rfl rfl

/-- Readiness goes on with the connection, or closes the session. -/
theorem advances_onInitialized {d : Debugger σ} (hwf : d.breakpoints.WellFormed) :
    Advances d (onInitialized d).2 := by
  rcases Option.eq_none_or_eq_some d.target with htarget | ⟨target, htarget⟩
  · rw [onInitialized_of_no_target htarget]
    exact refl_of Advances d
  rw [onInitialized_of_target htarget]
  split
  · exact .of_eq rfl rfl rfl rfl
  have hconfigure : Advances d (configure { d with phase := .configuring }).2 :=
    (advances_configure (d := { d with phase := .configuring }) hwf).of_prepared rfl rfl rfl rfl
  rcases hrun : configure { d with phase := .configuring } with ⟨e | _, d'⟩ <;>
    rw [hrun] at hconfigure
  · exact trans_of Advances hconfigure
      (trans_of Advances (.of_console d' _) (closeSession_spec _).advances)
  · exact hconfigure

/-- The end of a program closes its session, and may be followed by another one. -/
theorem advances_onTargetGone (d : Debugger σ) : Advances d (onTargetGone d).2 := by
  rcases onTargetGone_cases d with ⟨-, heq⟩ | ⟨-, heq⟩ | ⟨-, -, text, heq⟩ <;> rw [heq]
  · exact refl_of Advances d
  · exact .of_eq rfl rfl rfl rfl
  · exact trans_of Advances (advances_relaunch d) (.of_console _ _)

/-- **Every move inside of the debugger advances it.** -/
theorem advances_next {move : Move σ} (hinside : move.isOutside = false) {d : Debugger σ}
    (hwf : d.breakpoints.WellFormed) : Advances d (move.next d) := by
  cases move using Move.casesPlain with
  | plain move hplain =>
    -- what happens elsewhere and what arrives is not the debugger's doing
    rcases move with operation | text | _ | _ | signal | _ | _
    · exact (Operation.within_act (R := Stays) hplain d).advances
    · exact .of_console d _
    · exact (calm_sendStart d).advances
    · exact (takeSignal_spec d).1.advances
    · exact related_handle fun _ => (within_react (R := Stays) hplain d).advances
    · cases hinside
    · cases hinside
  | launch target => exact advances_launch target d
  | relaunch => exact advances_relaunch d
  | close => exact (closeSession_spec d).advances
  | run => exact advances_run hwf
  | setBreakpoint path line => exact (edits_setBreakpoint path line d).advances
  | setEnabled index enabled => exact (edits_setEnabled index enabled d).advances
  | deleteBreakpoint index => exact (edits_deleteBreakpoint index d).advances
  | initialized connection => exact related_handle fun _ => advances_onInitialized hwf
  | exited connection body =>
    exact related_handle fun _ => (advances_onTargetGone _).of_prepared rfl rfl rfl rfl
  | terminated connection body =>
    refine related_handle fun _ => ?_
    show Advances d (onEvent (.terminated body) d).2
    rw [onEvent_terminated]
    split
    · exact (advances_onTargetGone _).of_prepared rfl rfl rfl rfl
    · exact refl_of Advances d
  | breakpoint connection reason descriptor =>
    refine related_handle fun _ => ?_
    show Advances d (onEvent (.breakpoint reason descriptor) d).2
    obtain ⟨breakpoints, heq⟩ := exists_onEvent_breakpoint reason descriptor d
    rw [heq]
    exact .of_eq rfl rfl rfl rfl
  | closed connection => exact related_handle fun _ => (onClosed_spec d).1.advances
  | started connection result =>
    refine related_handle fun _ => ?_
    cases result with
    | ok _ => exact refl_of Advances d
    | error e => exact (onStarted_error_spec e d).1.advances

/-! ### Closed sessions -/

/-- The session on this connection has been closed. -/
def IsOver (connection : Nat) (d : Debugger σ) : Prop :=
  connection ≤ d.generation ∧ d.isOpen connection = false

omit [Environment σ] in
/-- A session that was closed is never open again. -/
theorem IsOver.of_sessions {connection : Nat} {d d' : Debugger σ} (h : d.IsOver connection)
    (hsessions : d'.generation = d.generation ∧ (d'.session.isSome → d.session.isSome) ∨
      d.generation < d'.generation) : d'.IsOver connection := by
  obtain ⟨hle, hclosed⟩ := h
  rw [isOpen, Bool.and_eq_false_iff, decide_eq_false_iff_not] at hclosed
  rw [IsOver, isOpen, Bool.and_eq_false_iff, decide_eq_false_iff_not]
  rcases hsessions with ⟨hgeneration, hsome⟩ | hlt
  · rw [hgeneration]
    refine ⟨hle, hclosed.imp id fun hnone => ?_⟩
    cases hsession : d'.session.isSome with
    | true => exact absurd (hsome hsession) (by simp [hnone])
    | false => rfl
  · exact ⟨by omega, .inl (by omega)⟩

/-- After a restart every earlier session is over. -/
theorem isOver_of_restarts {d d' : Debugger σ} (h : Restarts d d') {connection : Nat}
    (hle : connection ≤ d.generation) : d'.IsOver connection := by
  rcases h.outcome with ⟨hnone, hgeneration, _⟩ | ⟨_, hgeneration, _⟩
  · refine ⟨hgeneration ▸ hle, ?_⟩
    rw [isOpen, hnone, Option.isSome_none, Bool.and_false]
  · refine ⟨by omega, ?_⟩
    rw [isOpen, Bool.and_eq_false_iff, decide_eq_false_iff_not]
    exact .inl (by omega)

omit [Environment σ] in
/-- Without a session all sessions so far are over. -/
theorem isOver_of_session_none {d : Debugger σ} (h : d.session = none) {connection : Nat}
    (hle : connection ≤ d.generation) : d.IsOver connection := by
  refine ⟨hle, ?_⟩
  rw [isOpen, h, Option.isSome_none, Bool.and_false]

omit [Environment σ] in
/-- Nothing is heard without a session. -/
theorem receive_of_no_session {d : Debugger σ} (h : d.session = none) (arrivals : Arrivals) :
    d.receive arrivals = d := by
  rw [receive, h, Option.map_none, ← h]

/-- A move that concerns a connection without a session changes nothing. -/
theorem next_of_concerns {connection : Nat} {move : Move σ} (h : move.concerns connection)
    {d : Debugger σ} (hclosed : d.isOpen connection = false) : move.next d = d := by
  cases move with
  | handle signal =>
    obtain rfl : signal.generation = connection := of_decide_eq_true h
    rw [Move.next, handle_apply, hclosed]
    rfl
  | hear number arrivals =>
    obtain rfl : number = connection := of_decide_eq_true h
    rw [Move.next]
    split_ifs with hgeneration
    · rw [isOpen, Bool.and_eq_false_iff, decide_eq_false_iff_not] at hclosed
      exact receive_of_no_session (by simpa [hgeneration] using hclosed) arrivals
    · rfl
  | _ => cases h

/-- **A session that is over stays so.** -/
theorem IsOver.next {connection : Nat} {d : Debugger σ} (h : d.IsOver connection)
    (hwf : d.breakpoints.WellFormed) (move : Move σ) : (move.next d).IsOver connection := by
  cases houtside : move.isOutside with
  | false => exact h.of_sessions (advances_next houtside hwf).sessions
  | true =>
    have hplain : move.isPlain := by cases move <;> first | rfl | cases houtside
    have hlasts := move.lasts_next hplain d
    exact h.of_sessions (.inl ⟨hlasts.generation, fun hsome => hlasts.session ▸ hsome⟩)

/-! ### The end of a session -/

/-- Both debuggers have a session, and only what it holds differs. -/
structure Alike (d d' : Debugger σ) : Prop where
  session : d.session.isSome
  session' : d'.session.isSome
  rest : { d with session := none } = { d' with session := none }

omit [Environment σ] in
/-- Debuggers that differ in their session alone have the same target. -/
theorem Alike.target_eq {d d' : Debugger σ} (h : Alike d d') : d.target = d'.target := by
  have htarget := congrArg Debugger.target h.rest
  exact htarget

omit [Environment σ] in
/-- They launch, or attach to, the same program. -/
theorem Alike.launches_eq {d d' : Debugger σ} (h : Alike d d') : d.launches = d'.launches := by
  rw [launches, launches, h.target_eq]

omit [Environment σ] in
/-- They have the same sessions open. -/
theorem Alike.isOpen_eq {d d' : Debugger σ} (h : Alike d d') (connection : Nat) :
    d.isOpen connection = d'.isOpen connection := by
  have hgeneration := congrArg Debugger.generation h.rest
  dsimp only at hgeneration
  rw [isOpen, isOpen, h.session, h.session', hgeneration]

omit [Environment σ] in
/-- A change that has nothing to do with the session. -/
theorem Alike.map {d d' : Debugger σ} (h : Alike d d') (f : Debugger σ → Debugger σ)
    (hsession : ∀ d, (f d).session = d.session)
    (hrest : ∀ d, { f d with session := none } = f { d with session := none }) :
    Alike (f d) (f d') where
  session := by rw [hsession, h.session]
  session' := by rw [hsession, h.session']
  rest := by rw [hrest, hrest, h.rest]

/-- Nothing that a session holds matters once it is closed. -/
theorem Alike.closeSession_eq {d d' : Debugger σ} (h : Alike d d') :
    closeSession d = closeSession d' := by
  have hsome : ¬d.session.isNone := by simpa [Option.isSome_iff_ne_none] using h.session
  have hsome' : ¬d'.session.isNone := by simpa [Option.isSome_iff_ne_none] using h.session'
  rw [closeSession_apply, closeSession_apply, if_neg hsome, if_neg hsome', h.launches_eq,
    h.rest]

/-- A relaunch does not look at the old session. -/
theorem Alike.relaunch_eq {d d' : Debugger σ} (h : Alike d d') (htarget : d.target.isSome) :
    relaunch d = relaunch d' := by
  obtain ⟨target, htarget⟩ := Option.isSome_iff_exists.1 htarget
  have hclosed : closeSession { d with phase := .initializing } =
      closeSession { d' with phase := .initializing } :=
    (h.map (fun d => { d with phase := .initializing }) (fun _ => rfl) fun _ => rfl).closeSession_eq
  rw [relaunch_of_target htarget, relaunch_of_target (h.target_eq ▸ htarget), hclosed]

/-- Nor does a launch. -/
theorem Alike.launch_eq {d d' : Debugger σ} (h : Alike d d') (target : Target) :
    launch target d = launch target d' := by
  rw [launch_apply, launch_apply]
  exact (h.map (fun d => { d with target := some target, breakpoints := {} }) (fun _ => rfl)
    fun _ => rfl).relaunch_eq rfl

/-- Nor does the end of a launched program, which leads to a relaunch. -/
theorem Alike.onTargetGone_eq {d d' : Debugger σ} (h : Alike d d') (hlaunches : d.launches) :
    onTargetGone d = onTargetGone d' := by
  rcases Option.eq_none_or_eq_some d.target with htarget | ⟨target, htarget⟩
  · rw [launches, htarget] at hlaunches
    cases hlaunches
  · have hlaunch : target.mode.isLaunch := launches_of_target htarget ▸ hlaunches
    rw [onTargetGone_of_target htarget, onTargetGone_of_target (h.target_eq ▸ htarget),
      if_pos hlaunch, if_pos hlaunch, h.relaunch_eq (by rw [htarget]; rfl)]

omit [Environment σ] in
/-- The program is gone, and the console says so. -/
theorem Alike.terminate {d d' : Debugger σ} (h : Alike d d') (line : String) :
    Alike { d with phase := .terminated, console := d.console.writeLine line }
      { d' with phase := .terminated, console := d'.console.writeLine line } :=
  h.map (fun d => { d with phase := .terminated, console := d.console.writeLine line })
    (fun _ => rfl) fun _ => rfl

/-- The end of the stream closes the session, whatever is in it. -/
theorem Alike.onClosed_eq {d d' : Debugger σ} (h : Alike d d') : onClosed d = onClosed d' := by
  have hattaches : d.attaches = d'.attaches := by rw [attaches, attaches, h.target_eq]
  rw [onClosed_apply, onClosed_apply, hattaches, (h.terminate _).closeSession_eq]

/-- So does a start that fails. -/
theorem Alike.onStarted_error_eq {d d' : Debugger σ} (h : Alike d d') (e : Error) :
    onStarted (.error e) d = onStarted (.error e) d' := by
  rw [onStarted_error, onStarted_error, h.launches_eq, (h.terminate _).closeSession_eq]

/-- The exit of a launched program ends its session, whatever is in it. -/
theorem Alike.onEvent_exited_eq {d d' : Debugger σ} (h : Alike d d') (body : ExitedBody)
    (hlaunches : d.launches) : onEvent (.exited body) d = onEvent (.exited body) d' := by
  rw [onEvent_exited, onEvent_exited]
  exact (h.terminate _).onTargetGone_eq hlaunches

/-- So does its termination while it is live. -/
theorem Alike.onEvent_terminated_eq {d d' : Debugger σ} (h : Alike d d')
    (body : Option TerminatedBody) (hlaunches : d.launches) (hlive : d.phase.isLive) :
    onEvent (.terminated body) d = onEvent (.terminated body) d' := by
  have hphase : d.phase = d'.phase := by
    have hphase := congrArg Debugger.phase h.rest
    exact hphase
  rw [onEvent_terminated, onEvent_terminated, if_pos hlive, if_pos (hphase ▸ hlive)]
  exact (h.terminate _).onTargetGone_eq hlaunches

/-- After a move that ends the session nothing is left of what it held. -/
theorem Alike.next_eq {d d' : Debugger σ} (h : Alike d d') {move : Move σ} (hends : move.ends d) :
    move.next d = move.next d' := by
  have hhandle {signal : Signal} (hopen : d.isOpen signal.generation)
      (hreact : react signal d = react signal d') :
      (Move.handle signal).next d = (Move.handle signal).next d' := by
    rw [Move.next, Move.next, handle_apply, handle_apply, ← h.isOpen_eq, hopen, if_pos rfl,
      if_pos rfl, hreact]
  unfold Move.ends at hends
  split at hends
  · exact congrArg Prod.snd h.closeSession_eq
  · exact congrArg Prod.snd (h.relaunch_eq hends)
  · exact congrArg Prod.snd (h.launch_eq _)
  · exact hhandle hends h.onClosed_eq
  · exact hhandle hends (h.onStarted_error_eq _)
  · obtain ⟨hopen, hlaunches⟩ := Bool.and_eq_true_iff.1 hends
    exact hhandle hopen (h.onEvent_exited_eq _ hlaunches)
  · rename_i connection body
    obtain ⟨hopen, hgone⟩ := Bool.and_eq_true_iff.1 hends
    obtain ⟨hlaunches, hlive⟩ := Bool.and_eq_true_iff.1 hgone
    exact hhandle hopen (h.onEvent_terminated_eq body hlaunches hlive)
  · cases hends

/-- A launched target that is gone takes its session with it. -/
theorem isOver_onTargetGone {d : Debugger σ} (h : d.launches) {connection : Nat}
    (hle : connection ≤ d.generation) : (onTargetGone d).2.IsOver connection := by
  rcases onTargetGone_cases d with ⟨htarget, -⟩ | ⟨hattaches, -⟩ | ⟨htarget, -, text, heq⟩
  · rw [launches, htarget] at h
    cases h
  · rw [launches_of_attaches hattaches] at h
    cases h
  · rw [heq]
    exact isOver_of_restarts (relaunch_spec htarget) hle

/-- **A move that ends the session leaves it closed.** -/
theorem isOver_of_ends {d : Debugger σ} {move : Move σ} (hends : move.ends d)
    {connection : Nat} (hle : connection ≤ d.generation) :
    (move.next d).IsOver connection := by
  -- a signal has its effect where its connection is the one that is open
  have hhandle {signal : Signal} (hopen : d.isOpen signal.generation)
      (hreact : (react signal d).2.IsOver connection) :
      ((Move.handle signal).next d).IsOver connection := by
    rw [Move.next, handle_apply, hopen, if_pos rfl]
    exact hreact
  have hdrops {d' : Debugger σ} (hd' : Drops d d') : d'.IsOver connection :=
    isOver_of_session_none hd'.session (hd'.generation ▸ hle)
  unfold Move.ends at hends
  split at hends
  · have hcloses := closeSession_spec d
    exact isOver_of_session_none hcloses.session (hcloses.generation ▸ hle)
  · exact isOver_of_restarts (relaunch_spec hends) hle
  · rename_i target
    show (launch target d).2.IsOver connection
    rw [launch_apply]
    exact isOver_of_restarts (d := { d with target := some target, breakpoints := {} })
      (relaunch_spec rfl) hle
  · exact hhandle hends (hdrops (onClosed_spec d).1)
  · exact hhandle hends (hdrops (onStarted_error_spec _ d).1)
  · obtain ⟨hopen, hlaunches⟩ := Bool.and_eq_true_iff.1 hends
    refine hhandle hopen ?_
    rw [react, onEvent_exited]
    exact isOver_onTargetGone (d := { d with
      phase := .terminated, console := d.console.writeLine _ }) hlaunches hle
  · obtain ⟨hopen, hgone⟩ := Bool.and_eq_true_iff.1 hends
    obtain ⟨hlaunches, hlive⟩ := Bool.and_eq_true_iff.1 hgone
    refine hhandle hopen ?_
    rw [react, onEvent_terminated, if_pos hlive]
    exact isOver_onTargetGone (d := { d with
      phase := .terminated, console := d.console.writeLine _ }) hlaunches hle
  · cases hends

end Debugger

open Debugger

variable [Environment σ]

/-- A session has the number of connections that were opened so far. -/
theorem Run.generation_eq {history : List (Step σ)} {d : Debugger σ} (h : Run history d) :
    d.generation = d.connections := by
  induction h with
  | start environment console suppressed => rfl
  | @step history d hrun move ih =>
    cases houtside : move.isOutside with
    | false =>
      have hnumbered := (advances_next houtside hrun.isTold.wellFormed).numbered
      omega
    | true =>
      have hlasts := move.lasts_next (by cases move <;> first | rfl | cases houtside) d
      rw [hlasts.generation, hlasts.connections_eq, ih]

/-- What is pending was sent on the connection of the open session. -/
theorem Run.isAccounted {history : List (Step σ)} {d : Debugger σ} (h : Run history d)
    {sent : Signal → σ → Prop} (haccount : IsAccount sent)
    (hrecorded : ∀ step ∈ history, step.IsRecorded sent) : d.IsAccounted sent := by
  induction h with
  | start environment console suppressed => exact fun _ hmem => absurd hmem List.not_mem_nil
  | @step history d hrun move ih =>
    have hd := ih fun step hmem => hrecorded step (List.mem_cons_of_mem _ hmem)
    have hmove := hrecorded ⟨d, move⟩ List.mem_cons_self
    cases houtside : move.isOutside with
    | false => exact ((advances_next houtside hrun.isTold.wellFormed).flow sent haccount).2 hd
    | true =>
      rcases move with _ | _ | _ | _ | _ | ⟨connection, arrivals⟩ | change <;> cases houtside
      · rw [Move.next]
        split
        · rename_i hgeneration
          intro signal hmem
          obtain ⟨after, hafter, hpending⟩ := mem_pending.1 hmem
          obtain ⟨before, hbefore, rfl⟩ := Option.map_eq_some_iff.1 hafter
          subst hgeneration
          rcases Session.mem_pending_receive hpending with hkept | harrived
          · exact hd signal (mem_pending.2 ⟨before, hbefore, hkept⟩)
          · exact hmove signal harrived
        · exact hd
      · exact fun signal hmem => hmove signal (hd signal hmem)

/-- What concerns a closed session may be left out of all that follows. -/
theorem Run.leadTo_filter {history : List (Step σ)} {d : Debugger σ} (h : Run history d)
    {connection : Nat} (hover : d.IsOver connection) (moves : List (Move σ)) :
    d.leadTo (moves.filter (!·.concerns connection)) = d.leadTo moves ∧
      (d.leadTo moves).IsOver connection := by
  induction moves generalizing history d with
  | nil => exact ⟨rfl, hover⟩
  | cons move rest ih =>
    rw [List.filter_cons]
    cases hconcerns : move.concerns connection with
    | true =>
      have hsame : d.leadTo (move :: rest) = d.leadTo rest := by
        rw [leadTo, List.foldl_cons, next_of_concerns hconcerns hover.2]
        rfl
      rw [hsame]
      exact ih h hover
    | false => exact ih (.step h move) (hover.next h.isTold.wellFormed move)

/-- Only the open session matters, and only until it is closed. -/
structure Debugger.IsIsolated (history : List (Step σ)) (d : Debugger σ) : Prop where
  /-- The session on the `k`-th connection that was opened has the number `k`. -/
  numbered : d.generation = d.connections
  /-- What is taken was sent on the connection of the open session. -/
  own : ∀ sent, IsAccount sent → (∀ step ∈ history, step.IsRecorded sent) →
    ∀ signal, (takeSignal d).1 = some signal →
      d.isOpen signal.generation ∧ sent signal d.environment
  /-- Signals of any other session, and what arrives for it, change nothing. -/
  others : ∀ connection, d.isOpen connection = false →
    ∀ move : Move σ, move.concerns connection → move.next d = d
  /-- A closed session stays closed, and what concerns it may be left out of all that follows. -/
  closed : ∀ connection ≤ d.generation, d.isOpen connection = false → ∀ moves : List (Move σ),
    (d.leadTo moves).isOpen connection = false ∧
      d.leadTo (moves.filter (!·.concerns connection)) = d.leadTo moves
  /-- A move that ends a session closes it, and what it held makes no difference to the rest. -/
  ended : ∀ move : Move σ, move.ends d →
    (∀ connection ≤ d.generation, (move.next d).isOpen connection = false) ∧
      (d.session.isSome → ∀ session,
        move.next { d with session := some session } = move.next d)

/-- **Sessions do not meet.**  In every run a signal has an effect only while its session is the
open one. -/
theorem Run.sessions_isolated {history : List (Step σ)} {d : Debugger σ} (h : Run history d) :
    d.IsIsolated history where
  numbered := h.generation_eq
  own sent haccount hrecorded signal htaken := by
    have hpending := (takeSignal_spec d).2 signal htaken
    refine ⟨?_, h.isAccounted haccount hrecorded signal hpending⟩
    obtain ⟨session, hsession, hmem⟩ := mem_pending.1 hpending
    rw [isOpen, hsession, Arrivals.generation_of_mem_signals hmem]
    simp
  others connection hclosed move hconcerns := next_of_concerns hconcerns hclosed
  closed connection hle hclosed moves := by
    obtain ⟨hleft, hover⟩ := h.leadTo_filter ⟨hle, hclosed⟩ moves
    exact ⟨hover.2, hleft⟩
  ended move hends := by
    refine ⟨fun connection hle => (isOver_of_ends hends hle).2, fun hsession session => ?_⟩
    have halike : Alike d { d with session := some session } := ⟨hsession, rfl, rfl⟩
    exact (halike.next_eq hends).symm

/-- A scripted adapter never ends its stream by itself. -/
theorem Script.isAccount (connection : Nat) :
    IsAccount fun signal (_ : Script) => signal ≠ .closed connection where
  connect _ := id
  asked _ := id
  start _ := id
  replied hyields hmem := by
    rintro rfl
    rcases Arrivals.mem_signals.1 hmem with ⟨_, _, h⟩ | ⟨hended, _⟩ | ⟨_, _, h⟩
    · cases h
    · -- every reply leaves the stream open
      cases hyields <;> cases hended
    · cases h
  begun script asked hmem := by
    rintro rfl
    have hended : (Environment.start asked script).1.ended = false := by
      simp only [Environment.start]
      split_ifs <;> rfl
    rcases Arrivals.mem_signals.1 hmem with ⟨_, _, h⟩ | ⟨htrue, _⟩ | ⟨_, _, h⟩
    · cases h
    · exact Bool.false_ne_true (hended.symm.trans htrue)
    · cases h

/-- A run it speaks of: the exit of a program was taken before a relaunch, and the host hands it in
after that. -/
theorem Run.sessions_isolated_scripted :
    let run := Move.steps
      [ .operate (.launch Script.launched), .hear 1 { events := [.exited ⟨0⟩], ended := true },
        .take, .operate .relaunch, .sendStart ] [] (Script.rehearse {})
    run.2.isOpen 1 = false ∧ run.2.IsIsolated run.1 ∧
      (Move.handle (.event 1 (.exited ⟨0⟩))).next run.2 = run.2 ∧
      (takeSignal run.2).1.isSome ∧ ∀ signal, (takeSignal run.2).1 = some signal →
        run.2.isOpen signal.generation ∧ signal ≠ .closed 2 := by
  intro run
  have h : run.2.IsIsolated run.1 := Run.sessions_isolated ((Run.start _ _ _).steps _)
  have hclosed : run.2.isOpen 1 = false := by decide +kernel
  refine ⟨hclosed, h, h.others 1 hclosed _ rfl, by decide +kernel,
    h.own _ (Script.isAccount 2) fun step hmem => ?_⟩
  have hmove : step.move ∈ run.1.map (·.move) := List.mem_map_of_mem hmem
  have hmoves : run.1.map (·.move) =
      [ .sendStart, .operate .relaunch, .take,
        .hear 1 { events := [.exited ⟨0⟩], ended := true }, .operate (.launch Script.launched) ] :=
    rfl
  rw [hmoves] at hmove
  simp only [List.mem_cons, List.not_mem_nil, or_false] at hmove
  unfold Step.IsRecorded
  rcases hmove with hmove | hmove | hmove | hmove | hmove <;> rw [hmove]
  · trivial
  · trivial
  · trivial
  · -- only what arrived on the first connection was heard
    rintro signal hsignal rfl
    cases Arrivals.generation_of_mem_signals hsignal
  · trivial

end DebugConsole
