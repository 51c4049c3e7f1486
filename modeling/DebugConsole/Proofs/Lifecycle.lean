/-
# What happens to a session

| operation | afterwards | specification |
| --- | --- | --- |
| `closeSession` | no session; all but the texts and threads is kept | `Closes` |
| `relaunch` | a session on the next connection, or none where that was refused | `Restarts` |
| `configure` | every path pushed, the program runs | `configure_spec` |
| `sendStart` | the start request is under way | `calm_sendStart` |

A session is open under the number of its connection (`Debugger.isOpen`); a signal
under another number is dropped.
-/

import DebugConsole.Proofs.Synchronization

namespace DebugConsole

open Protocol

variable {σ : Type}

/-- A refused attempt to connect. -/
def Exchange.isRefusal : Exchange → Bool
  | .connect _ (.error _) => true
  | _ => false

/-- A successful attempt to connect. -/
def Exchange.isConnection : Exchange → Bool
  | .connect _ (.ok _) => true
  | _ => false

namespace Debugger

/-- Is the session on this connection open? -/
def isOpen (connection : Nat) (d : Debugger σ) : Bool :=
  d.generation = connection && d.session.isSome

/-- How many attempts to connect were refused. -/
def refusals (d : Debugger σ) : Nat := d.exchanges.countP (·.isRefusal)

/-- How many attempts to connect were successful. -/
def connections (d : Debugger σ) : Nat := d.exchanges.countP (·.isConnection)

/-- Where no connection was tried, as many attempts of a kind were made as before. -/
theorem Asks.countP_eq {d d' : Debugger σ} (h : Asks (·.isConnect = false) d d')
    {p : Exchange → Bool} (hp : ∀ e, p e → e.isConnect) :
    d'.exchanges.countP p = d.exchanges.countP p := by
  obtain ⟨new, heq, hall⟩ := h
  have hnone : new.countP p = 0 := by
    rw [List.countP_eq_zero]
    intro e he hpe
    exact Bool.false_ne_true ((hall e he).symm.trans (hp e hpe))
  rw [heq, List.countP_append, hnone, Nat.zero_add]

/-- As many attempts were refused. -/
theorem Asks.refusals_eq {d d' : Debugger σ} (h : Asks (·.isConnect = false) d d') :
    d'.refusals = d.refusals :=
  h.countP_eq fun e he => by
    cases e with
    | connect executable outcome => rfl
    | _ => cases he

/-- As many were successful. -/
theorem Asks.connections_eq {d d' : Debugger σ} (h : Asks (·.isConnect = false) d d') :
    d'.connections = d.connections :=
  h.countP_eq fun e he => by
    cases e with
    | connect executable outcome => rfl
    | _ => cases he

/-- Inner questions try no connection. -/
theorem Asks.unconnected {d d' : Debugger σ} (h : Asks Exchange.IsInner d d') :
    Asks (·.isConnect = false) d d' := h.mono fun _ he => he.2

/-- What lasts has no attempt refused. -/
theorem Lasts.refusals_eq {d d' : Debugger σ} (h : Lasts d d') : d'.refusals = d.refusals :=
  h.inner.unconnected.refusals_eq

/-- Nor does it make a connection. -/
theorem Lasts.connections_eq {d d' : Debugger σ} (h : Lasts d d') :
    d'.connections = d.connections := h.inner.unconnected.connections_eq

/-- Nor does it push anything. -/
theorem Lasts.pushes_eq {d d' : Debugger σ} (h : Lasts d d') : d'.pushes = d.pushes :=
  h.inner.pushes_eq

variable [Environment σ]

/-! ### Closing -/

theorem closeSession_apply (d : Debugger σ) : closeSession d =
    ((), if d.session.isNone then d
      else { (Action.send (Call.disconnect
        { restart := false, terminateDebuggee := some d.launches }) { d with session := none }).2
        with threads := {}, texts := SourceTexts.flush }) := by
  unfold closeSession
  rw [Reaction.bind_apply, Reaction.get_apply]
  by_cases hsession : d.session.isNone
  · rw [if_pos hsession, if_pos hsession]
    rfl
  · rw [if_neg hsession, if_neg hsession]
    rfl

/-- The session is gone; the user's decisions, the phase and the console are kept. -/
structure Closes (d d' : Debugger σ) : Prop where
  session : d'.session = none
  console : d'.console = d.console
  target : d'.target = d.target
  generation : d'.generation = d.generation
  phase : d'.phase = d.phase
  capabilities : d'.capabilities = d.capabilities
  breakpoints : d'.breakpoints = d.breakpoints
  suppressed : d'.suppressed = d.suppressed
  shutdownRequested : d'.shutdownRequested = d.shutdownRequested
  inner : Asks Exchange.IsInner d d'
  flow : Flows d d'

/-- **Closing a session** ends it and drops what belonged to it. -/
theorem closeSession_spec (d : Debugger σ) : Closes d (closeSession d).2 := by
  rw [closeSession_apply]
  split_ifs with hsession
  · exact ⟨by simpa using hsession, rfl, rfl, rfl, rfl, rfl, rfl, rfl, rfl, .of_eq rfl,
      refl_of Flows d⟩
  · have hcommand (args : DisconnectArguments) :
        (Call.disconnect args).command ≠ "setBreakpoints" :=
      show "disconnect" ≠ "setBreakpoints" by decide
    have hcalm := Action.calm_send (hcommand
      { restart := false, terminateDebuggee := some d.launches }) { d with session := none }
    exact {
      session := by simpa using hcalm.session
      console := hcalm.console
      target := hcalm.target
      generation := hcalm.generation
      phase := hcalm.phase
      capabilities := hcalm.capabilities
      breakpoints := hcalm.breakpoints
      suppressed := hcalm.suppressed
      shutdownRequested := hcalm.shutdownRequested
      inner := hcalm.inner
      flow := by
        have hdropped : Flows d { d with session := none } :=
          .of_pending rfl fun _ hmem => absurd hmem List.not_mem_nil
        refine trans_of Flows (trans_of Flows hdropped hcalm.flow) ?_
        exact .of_eq rfl rfl rfl }

/-! ### Starting -/

/-- An attempt to connect is refused, or opens the next connection. -/
theorem connect_cases (executable : Executable) (d : Debugger σ) : ∃ environment,
    Flows d (Action.connect executable d).2 ∧
    ((∃ e, Action.connect executable d = (.error e, { d with
      environment, exchanges := .connect executable (.error e) :: d.exchanges })) ∨
    Action.connect executable d = (.ok (), { d with
      environment, session := some {}, generation := d.generation + 1
      exchanges := .connect executable (.ok ()) :: d.exchanges })) := by
  have hflow (session : Option Session) (generation : Nat)
      (h : ∀ signal ∈ { d with session, generation }.pending, signal ∈ d.pending) :=
    flows_connect executable d h
  rcases h : Environment.connect executable d.environment with ⟨e | _, environment⟩
  · rw [h] at hflow
    refine ⟨environment, ?_, .inl ⟨e, ?_⟩⟩ <;> rw [Action.connect, h]
    exact trans_of Flows (hflow _ _ fun _ hmem => hmem) (.of_eq rfl rfl rfl)
  · rw [h] at hflow
    refine ⟨environment, ?_, .inr ?_⟩ <;> rw [Action.connect, h]
    exact trans_of Flows (hflow (some {}) (d.generation + 1)
      fun _ hmem => absurd hmem List.not_mem_nil) (.of_eq rfl rfl rfl)

/-- Where a start of a session leads: the connection was refused, or the session on the next one
is open. -/
structure Opens (d d' : Debugger σ) : Prop where
  console : d'.console = d.console.closeInput
  target : d'.target = d.target
  phase : d'.phase = d.phase
  breakpoints : d'.breakpoints = d.breakpoints
  suppressed : d'.suppressed = d.suppressed
  shutdownRequested : d'.shutdownRequested = d.shutdownRequested
  pushes : d'.pushes = d.pushes
  flow : Flows d d'
  numbered : d'.generation + d.connections = d.generation + d'.connections
  outcome :
    d'.session = d.session ∧ d'.generation = d.generation ∧ d'.refusals = d.refusals + 1 ∨
      d'.session.isSome ∧ d'.generation = d.generation + 1 ∧ d'.refusals = d.refusals

/-- After the connection the adapter is asked what it can do. -/
theorem openSession_apply (target : Target) (d : Debugger σ) :
    openSession target d =
      match Action.connect target.executable
        { d with console := d.console.closeInput, threads := {} } with
      | (.ok _, d') =>
        match Action.send (Call.introduce (InitializeArguments.ofAdapter target.adapterId)) d' with
        | (.ok capabilities, d') => (.ok (), { d' with capabilities })
        | (.error e, d') => (.error e, d')
      | (.error e, d') => (.error e, d') := by
  have hstate : (Reaction.onThreads (fun _ => {}) (Reaction.closeInput d).2).2 =
      { d with console := d.console.closeInput, threads := {} } := rfl
  simp only [openSession, Action.bind_apply, Action.react_apply, hstate]
  rcases Action.connect target.executable
    { d with console := d.console.closeInput, threads := {} } with ⟨_ | _, d'⟩
  · rfl
  · dsimp only
    rcases Action.send (Call.introduce (InitializeArguments.ofAdapter target.adapterId)) d' with
      ⟨_ | _, _⟩ <;> rfl

/-- What follows the connection of a session leaves it open. -/
theorem Opens.of_calm {d d' : Debugger σ} {environment : σ} {executable : Executable}
    (h : Calm { d with
      console := d.console.closeInput, threads := {}
      environment, session := some {}, generation := d.generation + 1
      exchanges := .connect executable (.ok ()) :: d.exchanges } d')
    (hflow : Flows d { d with environment, session := some {}, generation := d.generation + 1 })
    (capabilities : Capabilities) : Opens d { d' with capabilities } where
  console := h.console
  target := h.target
  phase := h.phase
  breakpoints := h.breakpoints
  suppressed := h.suppressed
  shutdownRequested := h.shutdownRequested
  pushes := h.pushes_eq
  flow := trans_of Flows hflow h.flow
  numbered := by
    have hconnections : d'.connections = d.connections + 1 :=
      h.connections_eq.trans (List.countP_cons_of_pos rfl)
    have hgeneration : d'.generation = d.generation + 1 := h.generation
    show d'.generation + d.connections = d.generation + d'.connections
    omega
  outcome := .inr ⟨h.session, h.generation, h.refusals_eq⟩

/-- **Opening a session** connects, and introduces the debugger where that succeeds. -/
theorem openSession_spec (target : Target) (d : Debugger σ) :
    Opens d (openSession target d).2 := by
  have hcommand (args : InitializeArguments) :
      (Call.introduce args).command ≠ "setBreakpoints" :=
    show "initialize" ≠ "setBreakpoints" by decide
  rw [openSession_apply]
  obtain ⟨environment, hflow, ⟨e, hconnect⟩ | hconnect⟩ := connect_cases target.executable
    { d with console := d.console.closeInput, threads := {} }
  · rw [hconnect] at hflow ⊢
    exact ⟨rfl, rfl, rfl, rfl, rfl, rfl, rfl, hflow, rfl,
      .inl ⟨rfl, rfl, List.countP_cons_of_pos rfl⟩⟩
  · have hcalm := Action.calm_send (hcommand (InitializeArguments.ofAdapter target.adapterId))
      { d with
        console := d.console.closeInput, threads := {}
        environment, session := some {}, generation := d.generation + 1
        exchanges := .connect target.executable (.ok ()) :: d.exchanges }
    rw [hconnect] at hflow ⊢
    dsimp only
    split
    · rename_i capabilities d' hsend
      rw [hsend] at hcalm
      exact .of_calm hcalm hflow capabilities
    · rename_i d' hsend
      rw [hsend] at hcalm
      exact .of_calm hcalm hflow d'.capabilities

/-- The session is closed and another one of the same target is opened, if possible. -/
structure Restarts (d d' : Debugger σ) : Prop where
  console : d'.console = d.console.closeInput
  target : d'.target = d.target
  phase : d'.phase = .initializing
  breakpoints : d'.breakpoints = d.breakpoints
  suppressed : d'.suppressed = d.suppressed
  shutdownRequested : d'.shutdownRequested = d.shutdownRequested
  pushes : d'.pushes = d.pushes
  flow : Flows d d'
  numbered : d'.generation + d.connections = d.generation + d'.connections
  outcome :
    d'.session = none ∧ d'.generation = d.generation ∧ d'.refusals = d.refusals + 1 ∨
      d'.session.isSome ∧ d'.generation = d.generation + 1 ∧ d'.refusals = d.refusals

theorem relaunch_of_target {d : Debugger σ} {target : Target} (h : d.target = some target) :
    relaunch d =
      match openSession target (closeSession { d with phase := .initializing }).2 with
      | (.ok _, d') => (.ok (), { d' with
        session := d'.session.map ({ · with start := some (.unsent target.mode) }) })
      | (.error e, d') => (.error e, d') := by
  have hstate : (Reaction.enter .initializing d).2 = { d with phase := .initializing } := rfl
  have hrun : relaunch d = (do
      Action.react (Reaction.enter .initializing)
      Action.react closeSession
      openSession target
      modify fun d => { d with
        session := d.session.map ({ · with start := some (.unsent target.mode) }) } :
          Action σ Unit) d := by
    rw [relaunch, Action.bind_apply, Action.get_apply]
    simp only [h]
  rw [hrun]
  simp only [Action.bind_apply, Action.react_apply, hstate]
  rcases openSession target (closeSession { d with phase := .initializing }).2 with
    ⟨_ | _, _⟩ <;> rfl

/-- Nothing is relaunched before anything was launched. -/
theorem relaunch_of_no_target {d : Debugger σ} (h : d.target = none) :
    relaunch d = (.error .nothingToRelaunch, d) := by
  simp only [relaunch, Action.bind_apply, Action.get_apply, h]
  rfl

/-- A session that is closed, and another one that is opened, make a restart. -/
theorem Closes.restarts {d d₁ d₂ : Debugger σ} (h₁ : Closes { d with phase := .initializing } d₁)
    (h₂ : Opens d₁ d₂) {session : Option Session} (hsession : session.isSome = d₂.session.isSome)
    (hflow : Flows d₂ { d₂ with session }) : Restarts d { d₂ with session } where
  console := h₂.console.trans (congrArg _ h₁.console)
  target := h₂.target.trans h₁.target
  phase := h₂.phase.trans h₁.phase
  breakpoints := h₂.breakpoints.trans h₁.breakpoints
  suppressed := h₂.suppressed.trans h₁.suppressed
  shutdownRequested := h₂.shutdownRequested.trans h₁.shutdownRequested
  pushes := h₂.pushes.trans h₁.inner.pushes_eq
  flow := trans_of Flows (.of_eq rfl rfl rfl)
    (trans_of Flows h₁.flow (trans_of Flows h₂.flow hflow))
  numbered := by
    have hconnections : d₁.connections = d.connections := h₁.inner.unconnected.connections_eq
    have hgeneration : d₁.generation = d.generation := h₁.generation
    rw [← hconnections, ← hgeneration]
    exact h₂.numbered
  outcome := by
    have hrefusals : d₁.refusals = d.refusals := h₁.inner.unconnected.refusals_eq
    rcases h₂.outcome with ⟨hnone, hgeneration, hrefused⟩ | ⟨hsome, hgeneration, hrefused⟩
    · rw [hnone, h₁.session] at hsession
      refine .inl ⟨by simpa using hsession, hgeneration.trans h₁.generation, ?_⟩
      exact hrefused.trans (congrArg (· + 1) hrefusals)
    · refine .inr ⟨hsession.trans hsome, ?_, hrefused.trans hrefusals⟩
      exact hgeneration.trans (congrArg (· + 1) h₁.generation)

/-- **A relaunch is a restart.** -/
theorem relaunch_spec {d : Debugger σ} (h : d.target.isSome) : Restarts d (relaunch d).2 := by
  obtain ⟨target, htarget⟩ := Option.isSome_iff_exists.1 h
  have hcloses := closeSession_spec { d with phase := .initializing }
  have hopens := openSession_spec target (closeSession { d with phase := .initializing }).2
  rw [relaunch_of_target htarget]
  split
  · rename_i d' hopen
    rw [hopen] at hopens
    refine hcloses.restarts hopens Option.isSome_map (.of_pending rfl fun signal hmem => ?_)
    obtain ⟨session, hsession, hpending⟩ := mem_pending.1 hmem
    obtain ⟨before, hbefore, rfl⟩ := Option.map_eq_some_iff.1 hsession
    exact mem_pending.2 ⟨before, hbefore, Session.mem_pending_of_start hpending rfl⟩
  · rename_i d' hopen
    rw [hopen] at hopens
    exact hcloses.restarts hopens rfl (refl_of Flows d')

/-- A session that was opened without an error is there. -/
theorem session_of_openSession {target : Target} {d d' : Debugger σ}
    (h : openSession target d = (.ok (), d')) : d'.session.isSome := by
  have hcommand : (Call.introduce (InitializeArguments.ofAdapter target.adapterId)).command ≠
      "setBreakpoints" := show "initialize" ≠ "setBreakpoints" by decide
  rw [openSession_apply] at h
  obtain ⟨environment, _, ⟨e, hconnect⟩ | hconnect⟩ := connect_cases target.executable
    { d with console := d.console.closeInput, threads := {} }
  · rw [hconnect] at h
    cases h
  · rw [hconnect] at h
    dsimp only at h
    have hcalm := Action.calm_send hcommand { d with
      console := d.console.closeInput, threads := {}
      environment, session := some {}, generation := d.generation + 1
      exchanges := .connect target.executable (.ok ()) :: d.exchanges }
    split at h
    · rename_i capabilities d₁ hsend
      rw [hsend] at hcalm
      cases h
      exact hcalm.session
    · cases h

/-- A session that was opened without an error is there. -/
theorem session_of_relaunch {d : Debugger σ} (h : (relaunch d).1 = .ok ()) :
    (relaunch d).2.session.isSome := by
  rcases Option.eq_none_or_eq_some d.target with htarget | ⟨target, htarget⟩
  · rw [relaunch_of_no_target htarget] at h
    cases h
  rw [relaunch_of_target htarget] at h ⊢
  rcases hopen : openSession target (closeSession { d with phase := .initializing }).2 with
    ⟨e | _, d'⟩
  · rw [hopen] at h
    cases h
  · rw [Option.isSome_map]
    exact session_of_openSession hopen

/-- A launch forgets the breakpoints and goes on as a relaunch. -/
theorem launch_apply (target : Target) (d : Debugger σ) :
    launch target d = relaunch { d with target := some target, breakpoints := {} } := by
  rw [launch, Action.bind_apply, Action.modify_apply]

/-- The start request is sent where it is still unsent. -/
theorem sendStart_cases (d : Debugger σ) : Reaction.sendStart d = ((), d) ∨
    ∃ session mode, d.session = some session ∧ session.start = some (.unsent mode) ∧
      Reaction.sendStart d =
        let asked : Request := ⟨d.generation, mode.call.command, mode.call.arguments⟩
        let (arrivals, environment) := Environment.start asked d.environment
        ((), { d with
          environment
          exchanges := .start asked :: d.exchanges
          session := some ({ session with start := some .awaiting }.receive arrivals) }) := by
  unfold Reaction.sendStart
  rw [Reaction.bind_apply, Reaction.get_apply]
  rcases d.session with _ | session
  · exact .inl rfl
  dsimp only
  rcases hstart : session.start with _ | mode | _ | result
  · exact .inl rfl
  · exact .inr ⟨session, mode, rfl, hstart, rfl⟩
  · exact .inl rfl
  · exact .inl rfl

/-- The start request is all that is sent. -/
theorem calm_sendStart : Reaction.Within Calm (Reaction.sendStart : Reaction σ Unit) := by
  intro d
  rcases sendStart_cases d with heq | ⟨session, mode, hsession, -, heq⟩ <;> rw [heq]
  · exact refl_of Calm d
  · have hbefore : ∀ signal ∈ ({ session with start := some .awaiting } : Session).pending
        d.generation, signal ∈ session.pending d.generation :=
      fun _ hmem => Session.mem_pending_of_start hmem rfl
    have hflow := flows_start ⟨d.generation, mode.call.command, mode.call.arguments⟩ rfl hsession
      hbefore
    have hsome : (some session).isSome = d.session.isSome := by rw [hsession]
    refine ⟨⟨⟨rfl, hsome, rfl, .inl rfl, rfl, rfl, rfl, rfl, .cons rfl ⟨rfl, rfl⟩⟩, ?_⟩, rfl, rfl⟩
    exact trans_of Flows hflow (.of_eq rfl rfl rfl)

/-! ### Configuring -/

/-- What follows the breakpoints in a configuration. -/
def finishConfiguration : Action σ Unit := do
  Action.send (Call.setExceptionBreakpoints { filters := [] })
  if (← get).capabilities.configurationDoneRequest then Action.send Call.configurationDone
  try refreshThreads catch _ => pure ()

/-- What a configuration does, stage by stage. -/
theorem configure_eq : (configure : Action σ Unit) = (do
    Action.requireSession true
    Action.react (Reaction.enter .running)
    pushAllPaths
    finishConfiguration
    Action.react Reaction.closeInput) := by
  simp only [configure, finishConfiguration, bind_assoc]
  refine bind_congr fun _ => bind_congr fun _ => bind_congr fun _ => bind_congr fun _ => ?_
  refine bind_congr fun d => ?_
  split
  · rw [bind_assoc]
  · rfl

/-- The phase in which the program is configured does not matter: it counts as running at once. -/
theorem configure_apply {d : Debugger σ} (hsession : d.session.isSome) (phase : Phase) :
    configure { d with phase } = (do
      pushAllPaths
      finishConfiguration
      Action.react Reaction.closeInput : Action σ Unit) { d with phase := .running } := by
  have hopen : ({ d with phase } : Debugger σ).session.isSome := hsession
  rw [configure_eq, Action.requireSession_bind_of_session hopen]
  rfl

/-- After the breakpoints a configuration only talks. -/
theorem calm_finishConfiguration :
    Action.Within Calm (finishConfiguration : Action σ Unit) := by
  have hexceptions (args : SetExceptionBreakpointsArguments) :
      (Call.setExceptionBreakpoints args).command ≠ "setBreakpoints" :=
    show "setExceptionBreakpoints" ≠ "setBreakpoints" by decide
  have hdone : Call.configurationDone.command ≠ "setBreakpoints" :=
    show "configurationDone" ≠ "setBreakpoints" by decide
  have hthreads : Action.Within Calm (do
      try refreshThreads catch _ => pure () : Action σ Unit) :=
    Action.within_tryCatch (fun d => (within_refreshThreads (R := Quiet) d).toCalm) fun _ =>
      Action.within_pure _
  unfold finishConfiguration
  refine Action.within_bind (Action.calm_send (hexceptions _)) fun _ =>
    Action.within_bind Action.within_get fun d => ?_
  split
  · exact Action.within_bind (Action.calm_send hdone) fun _ => hthreads
  · exact hthreads

/-- **Configuring.**  The breakpoints of every path are pushed; where nothing fails after that,
the program runs and no commands are taken. -/
theorem configure_spec {d : Debugger σ} (hwf : d.breakpoints.WellFormed)
    (hsession : d.session.isSome) :
    ∃ pushed d₁ d₂, Tells pushed { d with phase := .running } d₁ ∧ Calm d₁ d₂ ∧
      ((∃ e, configure d = (.error e, d₂)) ∨
        configure d = (.ok (), { d₂ with console := d₂.console.closeInput }) ∧
          pushed.map (·.path) = d.breakpoints.enabledByPath.map (·.1) ∧
          ∀ push ∈ pushed, push.accepted?.isSome) := by
  obtain ⟨pushed, htells, _, hresult⟩ := pushAllPaths_spec (d := { d with phase := .running }) hwf
  have hcalm := calm_finishConfiguration (pushAllPaths { d with phase := .running }).2
  rw [configure_apply hsession d.phase, Action.bind_apply]
  rcases hpush : pushAllPaths { d with phase := .running } with ⟨e | _, d₁⟩
  · rw [hpush] at htells
    exact ⟨pushed, d₁, d₁, htells, refl_of Calm d₁, .inl ⟨e, rfl⟩⟩
  rw [hpush] at htells hcalm hresult
  have hcomplete := hresult.1 rfl
  dsimp only at hcalm ⊢
  rw [Action.bind_apply]
  rcases hfinish : finishConfiguration d₁ with ⟨e | _, d₂⟩
  · rw [hfinish] at hcalm
    exact ⟨pushed, d₁, d₂, htells, hcalm, .inl ⟨e, rfl⟩⟩
  · rw [hfinish] at hcalm
    exact ⟨pushed, d₁, d₂, htells, hcalm, .inr ⟨rfl, hcomplete⟩⟩

/-- Without a session there is nothing to configure. -/
theorem configure_of_no_session {d : Debugger σ} (h : d.session = none) :
    configure d = (.error .noSession, d) := by
  rw [configure_eq, Action.requireSession_bind_apply, h]
  rfl

/-- `run` configures a launched program that waits for it, and nothing else. -/
theorem run_apply (d : Debugger σ) :
    run d = if d.phase = .configuring ∧ d.launches then configure d
      else (.error .nothingToRun, d) := by
  rw [run, Action.bind_apply, Action.get_apply]
  by_cases hphase : d.phase = .configuring
  · cases hlaunches : d.launches <;> simp [hphase, hlaunches]
    rfl
  · simp [hphase]
    rfl

/-! ### Signals -/

/-- How a signal of the open session is reacted to. -/
def react : Signal → Reaction σ Unit
  | .event _ event => onEvent event
  | .closed _ => onClosed
  | .started _ result => onStarted result

/-- Only a signal of the open session has an effect. -/
theorem handle_apply (signal : Signal) (d : Debugger σ) : handle signal d =
    if d.isOpen signal.generation then react signal d else ((), d) := by
  unfold handle
  rw [Reaction.bind_apply, Reaction.get_apply]
  by_cases hgeneration : signal.generation = d.generation
  · cases hsession : d.session with
    | none => simp [isOpen, hsession, Reaction.pure_apply]
    | some session => cases signal <;> simp [isOpen, hsession, hgeneration.symm, react]
  · simp [isOpen, hgeneration, Ne.symm hgeneration, Reaction.pure_apply]

/-- A signal is dropped, or has the effect of its reaction. -/
theorem related_handle {R : Debugger σ → Debugger σ → Prop} [IsPreorder (Debugger σ) R]
    {signal : Signal} {d : Debugger σ}
    (h : d.isOpen signal.generation → R d (react signal d).2) : R d (handle signal d).2 := by
  rw [handle_apply]
  split_ifs with hopen
  · exact h hopen
  · exact refl_of R d

omit [Environment σ] in
/-- A target is launched or attached to, as its mode says. -/
theorem launches_of_target {d : Debugger σ} {target : Target} (h : d.target = some target) :
    d.launches = target.mode.isLaunch := by
  rw [launches, h]
  rfl

theorem onInitialized_of_no_target {d : Debugger σ} (h : d.target = none) :
    onInitialized d = ((), d) := by
  rw [onInitialized, Reaction.bind_apply, Reaction.get_apply]
  simp only [h]
  rfl

/-- A launched program waits for `run`; an attached one is configured at once. -/
theorem onInitialized_of_target {d : Debugger σ} {target : Target} (h : d.target = some target) :
    onInitialized d =
      if target.mode.isLaunch then
        ((), { d with phase := .configuring, console := d.console.openInput })
      else
        match configure { d with phase := .configuring } with
        | (.ok _, d') => ((), d')
        | (.error e, d') =>
          let console := d'.console.writeLine "Failed to initialize debugging session."
          closeSession { d' with console := console.writeLine e.message } := by
  have hstate : (Reaction.enter .configuring d).2 = { d with phase := .configuring } := rfl
  rw [onInitialized, Reaction.bind_apply, Reaction.get_apply]
  conv_lhs => simp only [h]
  rw [Reaction.bind_apply, hstate]
  by_cases hlaunch : target.mode.isLaunch
  · rw [if_pos hlaunch, if_pos hlaunch]
    rfl
  · rw [if_neg hlaunch, if_neg hlaunch, Reaction.bind_apply, Reaction.run_apply]
    rcases configure { d with phase := .configuring } with ⟨_ | _, _⟩ <;> rfl

/-- A launched target that is gone is started again; an attached one ends the host. -/
theorem onTargetGone_of_target {d : Debugger σ} {target : Target} (h : d.target = some target) :
    onTargetGone d =
      if target.mode.isLaunch then
        match relaunch d with
        | (.ok _, d') => ((), d')
        | (.error e, d') => ((), { d' with
          console := d'.console.writeLine ("Failed to relaunch: " ++ e.message) })
      else ((), { d with shutdownRequested := true }) := by
  rw [onTargetGone, Reaction.bind_apply, Reaction.get_apply]
  conv_lhs => simp only [h]
  by_cases hlaunch : target.mode.isLaunch
  · rw [if_pos hlaunch, if_pos hlaunch, Reaction.bind_apply, Reaction.run_apply]
    rcases relaunch d with ⟨_ | _, _⟩ <;> rfl
  · rw [if_neg hlaunch, if_neg hlaunch]
    rfl

theorem onTargetGone_of_no_target {d : Debugger σ} (h : d.target = none) :
    onTargetGone d = ((), d) := by
  rw [onTargetGone, Reaction.bind_apply, Reaction.get_apply]
  simp only [h]
  rfl

omit [Environment σ] in
/-- To attach takes a target that says so. -/
theorem exists_target_of_attaches {d : Debugger σ} (h : d.attaches) :
    ∃ target, d.target = some target ∧ target.mode.isLaunch = false := by
  simpa [attaches, Option.any_eq_true] using h

omit [Environment σ] in
/-- What is attached to is not launched. -/
theorem launches_of_attaches {d : Debugger σ} (h : d.attaches) : d.launches = false := by
  obtain ⟨target, htarget, hmode⟩ := exists_target_of_attaches h
  rw [launches_of_target htarget, hmode]

omit [Environment σ] in
/-- A target is launched or attached to. -/
theorem attaches_of_target {d : Debugger σ} (h : d.target.isSome) : d.attaches = !d.launches := by
  obtain ⟨target, htarget⟩ := Option.isSome_iff_exists.1 h
  rw [attaches, launches, htarget]
  rfl

/-- A target that is gone is started again or ends the host, and at most the console says more. -/
theorem onTargetGone_cases (d : Debugger σ) :
    d.target = none ∧ (onTargetGone d).2 = d ∨
    d.attaches ∧ (onTargetGone d).2 = { d with shutdownRequested := true } ∨
    d.target.isSome ∧ d.launches ∧
      ∃ added, (onTargetGone d).2 = { (relaunch d).2 with
        console := { (relaunch d).2.console with
          text := (relaunch d).2.console.text ++ added } } := by
  rcases Option.eq_none_or_eq_some d.target with htarget | ⟨target, htarget⟩
  · exact .inl ⟨htarget, by rw [onTargetGone_of_no_target htarget]⟩
  have hsome : d.target.isSome := by rw [htarget]; rfl
  have hlaunches := launches_of_target htarget
  rw [onTargetGone_of_target htarget]
  cases hmode : target.mode.isLaunch with
  | false => exact .inr (.inl ⟨by rw [attaches_of_target hsome, hlaunches, hmode]; rfl, rfl⟩)
  | true =>
    refine .inr (.inr ⟨hsome, hlaunches.trans hmode, ?_⟩)
    rcases relaunch d with ⟨e | _, d'⟩
    · exact ⟨"Failed to relaunch: " ++ e.message ++ "\n", rfl⟩
    · exact ⟨"", by rw [String.append_empty]; rfl⟩

/-- A refused start closes the session; the user may try again, or the host ends. -/
theorem onStarted_error (e : Error) (d : Debugger σ) :
    onStarted (.error e) d =
      let d' := (closeSession { d with
        phase := .terminated
        console := d.console.writeLine
          ("Failed to " ++ (if d.launches then "launch" else "attach") ++ ": " ++ e.message) }).2
      ((), if d.launches then { d' with console := d'.console.openInput }
        else { d' with shutdownRequested := true }) := by
  unfold onStarted
  dsimp only
  rw [Reaction.bind_apply, Reaction.get_apply]
  cases d.launches <;> rfl

/-- The end of the stream closes the session; a host that has attached ends. -/
theorem onClosed_apply (d : Debugger σ) :
    onClosed d =
      let d' := (closeSession { d with
        phase := .terminated
        console := d.console.writeLine "The debug adapter has exited." }).2
      ((), if d.attaches then { d' with shutdownRequested := true } else d') := by
  have htarget := (closeSession_spec { d with
    phase := .terminated
    console := d.console.writeLine "The debug adapter has exited." }).target
  have hattaches : (closeSession { d with
      phase := .terminated
      console := d.console.writeLine "The debug adapter has exited." }).2.attaches =
        d.attaches := by
    rw [attaches, htarget]
    rfl
  have hrun : onClosed d = (do
      if (← get).attaches then requestShutdown : Reaction σ Unit) (closeSession { d with
        phase := .terminated
        console := d.console.writeLine "The debug adapter has exited." }).2 := rfl
  rw [hrun, Reaction.bind_apply, Reaction.get_apply, hattaches]
  cases d.attaches <;> rfl

/-- The session was ended from outside; only the user's decisions are left of it. -/
structure Drops (d d' : Debugger σ) : Prop where
  session : d'.session = none
  target : d'.target = d.target
  generation : d'.generation = d.generation
  phase : d'.phase = .terminated
  capabilities : d'.capabilities = d.capabilities
  breakpoints : d'.breakpoints = d.breakpoints
  suppressed : d'.suppressed = d.suppressed
  inner : Asks Exchange.IsInner d d'
  flow : Flows d d'

/-- A program that is gone takes its session with it. -/
theorem Closes.drops {d d' : Debugger σ} {closing console : Console}
    (h : Closes { d with phase := .terminated, console := closing } d')
    (shutdownRequested : Bool) : Drops d { d' with console, shutdownRequested } :=
  ⟨h.session, h.target, h.generation, h.phase, h.capabilities, h.breakpoints, h.suppressed,
    h.inner, h.flow⟩

/-- **The end of the stream** ends the program, and the debugger where it was attached. -/
theorem onClosed_spec (d : Debugger σ) : Drops d (onClosed d).2 ∧
    (onClosed d).2.console.isOpen = d.console.isOpen ∧
    (onClosed d).2.shutdownRequested = (d.shutdownRequested || d.attaches) := by
  have hcloses := closeSession_spec { d with
    phase := .terminated
    console := d.console.writeLine "The debug adapter has exited." }
  have hopen := congrArg Console.isOpen hcloses.console
  rw [onClosed_apply]
  cases d.attaches with
  | true => exact ⟨hcloses.drops true, hopen, (Bool.or_true _).symm⟩
  | false =>
    refine ⟨hcloses.drops _, hopen, ?_⟩
    exact hcloses.shutdownRequested.trans (Bool.or_false _).symm

/-- **A start that fails** ends the session, and the debugger where nothing was launched. -/
theorem onStarted_error_spec (e : Error) (d : Debugger σ) :
    Drops d (onStarted (.error e) d).2 ∧
    (onStarted (.error e) d).2.console.isOpen = (d.launches || d.console.isOpen) ∧
    (onStarted (.error e) d).2.shutdownRequested = (d.shutdownRequested || !d.launches) := by
  have hcloses := closeSession_spec { d with
    phase := .terminated
    console := d.console.writeLine
      ("Failed to " ++ (if d.launches then "launch" else "attach") ++ ": " ++ e.message) }
  have hopen := congrArg Console.isOpen hcloses.console
  rw [onStarted_error]
  generalize "Failed to " ++ (if d.launches then "launch" else "attach") ++ ": " ++ e.message =
    line at hcloses hopen ⊢
  cases d.launches with
  | true =>
    refine ⟨hcloses.drops _, Console.isOpen_openInput _, ?_⟩
    exact hcloses.shutdownRequested.trans (Bool.or_false _).symm
  | false => exact ⟨hcloses.drops true, hopen, (Bool.or_true _).symm⟩

/-- What a program writes is shown, unless its category is suppressed. -/
theorem onEvent_output (body : OutputBody) (d : Debugger σ) : onEvent (.output body) d =
    if d.suppressed.contains (body.category.getD "console") then ((), d)
    else ((), { d with console := d.console.write body.output }) := by
  show (do
    if !(← get).suppressed.contains (body.category.getD "console") then
      Reaction.onConsole (·.write body.output) : Reaction σ Unit) d = _
  rw [Reaction.bind_apply, Reaction.get_apply]
  cases d.suppressed.contains (body.category.getD "console") <;> rfl

/-- The exit of a program is told with its status, and it is gone. -/
theorem onEvent_exited (body : ExitedBody) (d : Debugger σ) : onEvent (.exited body) d =
    onTargetGone { d with
      phase := .terminated
      console := d.console.writeLine
        ("Target exited with status " ++ toString body.exitCode.toInt) } := rfl

/-- Termination is told of a live program only. -/
theorem onEvent_terminated (body : Option TerminatedBody) (d : Debugger σ) :
    onEvent (.terminated body) d =
      if d.phase.isLive then
        onTargetGone { d with
          phase := .terminated
          console := d.console.writeLine "The target has exited." }
      else ((), d) := by
  show (do
    let phase := (← get).phase
    if phase = .running || phase = .stopped then
      Reaction.enter .terminated
      Reaction.say "The target has exited."
      onTargetGone : Reaction σ Unit) d = _
  rw [Reaction.bind_apply, Reaction.get_apply]
  cases hphase : d.phase <;> rfl

/-- What an adapter says of a breakpoint is taken over where one has its id. -/
theorem onEvent_breakpoint (reason : String) (descriptor : Descriptor) (d : Debugger σ) :
    onEvent (.breakpoint reason descriptor) d =
      match descriptor.id with
      | some id =>
        if reason = "new" ∨ reason = "changed" then
          ((), { d with breakpoints := d.breakpoints.modifyId id fun b =>
            { b with verified := descriptor.verified } })
        else ((), d)
      | none => ((), d) := by
  rw [onEvent]
  cases descriptor.id with
  | none => rfl
  | some id =>
    dsimp only
    by_cases hreason : reason = "new" ∨ reason = "changed"
    · rw [if_pos hreason, if_pos (by simpa using hreason)]
      rfl
    · rw [if_neg hreason, if_neg (by simpa using hreason)]
      rfl

/-- A report of a breakpoint changes nothing but breakpoints. -/
theorem exists_onEvent_breakpoint (reason : String) (descriptor : Descriptor) (d : Debugger σ) :
    ∃ breakpoints, onEvent (.breakpoint reason descriptor) d = ((), { d with breakpoints }) := by
  rw [onEvent_breakpoint]
  split
  · split_ifs
    · exact ⟨_, rfl⟩
    · exact ⟨_, rfl⟩
  · exact ⟨_, rfl⟩

end Debugger
end DebugConsole
