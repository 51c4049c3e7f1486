/-
# A stopped program and its prompt

The console opens on the first stop only, which is told from the threads: as long as all of them
run, none has stopped yet.  This works as long as a closed console means that every thread runs and
that the program does not count as stopped; a debugger for which it does not is unattended
(`Debugger.IsUnattended`).

| what happens | console | threads |
| --- | --- | --- |
| a first stop | opens | some have stopped |
| another stop, some threads run again | as before | some have stopped |
| all threads run again | closes | all run |
| the session is closed, or another one begins | as before, or closes | none is known |
| a configuration succeeds | closes | all run, if the adapter lists them |

The last line is the only way out: threads that have stopped before the configuration stay so when
the adapter refuses to list them, and the console closes all the same (`Step.Blinds`).  The next
stop is then not the first one, and nobody can type a command (`Run.attended_iff`).
-/

import DebugConsole.Proofs.Course
import DebugConsole.Proofs.Phases

namespace DebugConsole

open Protocol

variable {σ α : Type}

namespace Threads

/-- After all threads were marked as running they are. -/
theorem allRunning_markAllRunning (ts : Threads) : ts.markAllRunning.allRunning :=
  List.all_map.trans (List.all_eq_true.2 fun _ _ => rfl)

/-- One thread more that runs stops none. -/
theorem allRunning_markRunning {ts : Threads} (id : Int64) (hall : ts.allRunning) :
    ((ts.markRunning id).toOption.getD ts).allRunning := by
  cases h : ts.markRunning id with
  | error e => exact hall
  | ok ts' =>
    exact allRunning_update (f := fun t => { t with running := true }) (fun _ _ => rfl) h hall

end Threads

namespace Debugger

/-- No commands are taken although the program counts as stopped, or some thread has stopped. -/
def IsUnattended (d : Debugger σ) : Prop :=
  d.console.isOpen = false ∧ (d.phase = .stopped ∨ d.threads.allRunning = false)

/-- Who is unattended now was so before, on the same connection. -/
def Attends (d d' : Debugger σ) : Prop :=
  d'.IsUnattended → d.IsUnattended ∧ d'.generation = d.generation

instance : IsPreorder (Debugger σ) Attends where
  refl _ := fun h => ⟨h, rfl⟩
  trans _ _ _ h₁ h₂ := fun h =>
    have h₂ := h₂ h
    have h₁ := h₁ h₂.1
    ⟨h₁.1, h₂.2.trans h₁.2⟩

/-- A change that stops no thread and closes no console. -/
theorem Attends.of_imp {d d' : Debugger σ} (hconsole : d.console.isOpen → d'.console.isOpen)
    (hphase : d'.phase = .stopped → d.phase = .stopped)
    (hthreads : d.threads.allRunning → d'.threads.allRunning)
    (hgeneration : d'.generation = d.generation) : Attends d d' := by
  rintro ⟨hclosed, hstands⟩
  refine ⟨⟨?_, hstands.imp hphase fun hstopped => ?_⟩, hgeneration⟩
  · cases hopen : d.console.isOpen with
    | false => rfl
    | true => exact (hconsole hopen).symm.trans hclosed
  · cases hall : d.threads.allRunning with
    | false => rfl
    | true => exact (hthreads hall).symm.trans hstopped

/-- Where the user can type, nothing is left unattended. -/
theorem Attends.of_not {d d' : Debugger σ} (h : ¬d'.IsUnattended) : Attends d d' :=
  fun hd' => absurd hd' h

/-- An open console attends to all. -/
theorem not_isUnattended_of_isOpen {d : Debugger σ} (h : d.console.isOpen) : ¬d.IsUnattended :=
  fun hd => Bool.false_ne_true (hd.1.symm.trans h)

/-- A running program needs no attention. -/
theorem not_isUnattended_of_allRunning {d : Debugger σ} (hphase : d.phase ≠ .stopped)
    (hthreads : d.threads.allRunning) : ¬d.IsUnattended :=
  fun hd => hd.2.elim hphase fun hstopped => Bool.false_ne_true (hstopped.symm.trans hthreads)

/-- Console and phase are the same, and no thread was stopped. -/
structure Looks (d d' : Debugger σ) : Prop where
  console : d'.console.isOpen = d.console.isOpen
  phase : d'.phase = d.phase
  threads : d.threads.allRunning → d'.threads.allRunning
  session : d'.session.isSome = d.session.isSome
  generation : d'.generation = d.generation

instance : IsPreorder (Debugger σ) Looks where
  refl _ := ⟨rfl, rfl, id, rfl, rfl⟩
  trans _ _ _ h₁ h₂ := {
    console := h₂.console.trans h₁.console
    phase := h₂.phase.trans h₁.phase
    threads := h₂.threads ∘ h₁.threads
    session := h₂.session.trans h₁.session
    generation := h₂.generation.trans h₁.generation }

/-- Looking at a program attends to it as before. -/
theorem Looks.attends {d d' : Debugger σ} (h : Looks d d') : Attends d d' :=
  .of_imp (h.console ▸ id) (h.phase ▸ id) h.threads h.generation

variable [Environment σ]

/-- Talk looks at a program at most. -/
theorem Steady.looks {d d' : Debugger σ} (h : Steady d d') : Looks d d' :=
  ⟨by rw [h.console], h.phase, h.threads ▸ id, h.session, h.generation⟩

/-- A request changes neither console nor phase nor threads. -/
theorem looks_send (call : Call α) : Action.Within Looks (Action.send call : Action σ α) :=
  fun _ => ⟨rfl, rfl, id, Option.isSome_map, rfl⟩

instance : AdmitsViews (Looks (σ := σ)) where
  session h := h.session
  asks _ := ⟨rfl, rfl, id, Option.isSome_map, rfl⟩
  notes _ _ _ _ _ := ⟨rfl, rfl, id, rfl, rfl⟩
  canonical _ _ := ⟨rfl, rfl, id, rfl, rfl⟩
  view hthreads := ⟨rfl, rfl, hthreads, rfl, rfl⟩

instance : AdmitsLookUps (Looks (σ := σ)) :=
  admitsLookUps_of_keep (fun _ _ => ⟨rfl, rfl, id, rfl, rfl⟩)
    (fun _ => (looks_send _).inSession) fun _ _ => ⟨rfl, rfl, id, rfl, rfl⟩

/-! ### Reports of the adapter -/

/-- Where all threads run again the program counts as running; else nothing but threads changes. -/
theorem attends_noteContinued (threadId : Int64) (allThreads : Bool) :
    Reaction.Within Attends (noteContinued threadId allThreads : Reaction σ Unit) := by
  have hrest : Reaction.Within Attends (do
      let d ← get
      if d.threads.allRunning then
        if d.phase = .stopped then Reaction.enter .running
        Reaction.closeInput : Reaction σ Unit) := by
    intro d
    rw [Reaction.bind_apply, Reaction.get_apply]
    split
    · rename_i hall
      refine .of_not (not_isUnattended_of_allRunning ?_ ?_)
      · split
        · exact nofun
        · rename_i hphase
          exact hphase
      · split <;> exact hall
    · exact refl_of Attends d
  have hthreads {f : Threads → Threads}
      (hf : ∀ ts : Threads, ts.allRunning → (f ts).allRunning) :
      Reaction.Within Attends (Reaction.onThreads f : Reaction σ Unit) :=
    fun d => (Reaction.within_onThreads (R := Looks) hf d).attends
  unfold noteContinued
  split
  · exact Reaction.within_bind (hthreads fun ts _ => ts.allRunning_markAllRunning) fun _ => hrest
  · exact Reaction.within_bind (hthreads fun ts => Threads.allRunning_markRunning threadId)
      fun _ => hrest

/-- Resuming closes the console only over threads that run. -/
theorem attends_continueRunning : Action.Within Attends (continueRunning : Action σ Unit) := by
  refine Action.within_bind (Action.within_requireSession _) fun _ =>
    Action.within_bind (fun d => (within_activeThread (R := Looks) d).attends) fun _ =>
      Action.within_bind (fun d => (looks_send _ d).attends) fun _ => ?_
  exact Action.within_react (attends_noteContinued _ _)

/-- A report of a stop names threads, and then some may have stopped; or nothing comes of it. -/
theorem noteStopped_cases (body : StoppedBody) (d : Debugger σ) :
    ∃ d₁ threads, Looks d d₁ ∧ noteStopped body d =
      if body.allThreadsStopped || body.threadId.isSome then (true, { d₁ with threads })
      else (false, d₁) := by
  unfold noteStopped
  cases body.allThreadsStopped with
  | false =>
    cases body.threadId with
    | none =>
      let line := "stop event with no thread information ignored."
      exact ⟨{ d with console := d.console.writeLine line }, {}, ⟨rfl, rfl, id, rfl, rfl⟩, rfl⟩
    | some id => exact ⟨d, _, refl_of Looks d, rfl⟩
  | true =>
    rw [if_pos rfl, Reaction.bind_apply, Reaction.get_apply]
    dsimp only
    split
    · have hrefresh := within_refreshThreads (R := Looks) d
      cases body.threadId with
      | none => exact ⟨_, _, hrefresh, rfl⟩
      | some id => exact ⟨_, _, hrefresh, rfl⟩
    · cases body.threadId with
      | none => exact ⟨d, _, refl_of Looks d, rfl⟩
      | some id => exact ⟨d, _, refl_of Looks d, rfl⟩

/-- Where a stop is shown the console is open. -/
theorem isOpen_showStop (threadId : Option Int64) (d : Debugger σ) :
    (showStop threadId d).2.console.isOpen := by
  unfold showStop
  rw [Reaction.bind_apply, Reaction.get_apply]
  cases threadId.or d.threads.firstStopped? with
  | none => exact Console.isOpen_openInput _
  | some focus =>
    dsimp only
    rw [Reaction.bind_apply, Reaction.bind_apply, Reaction.run_apply]
    rcases topOfStack focus
      (Reaction.onThreads (fun ts => (ts.setFocus focus).toOption.getD ts) d).2 with
      ⟨_ | _ | line, d₁⟩ <;> exact Console.isOpen_openInput _

/-- What is done about a stop: the description is shown, threads have stopped, and on the first stop
the console opens. -/
theorem onStopped_cases (body : StoppedBody) (d : Debugger σ) :
    ∃ d₁ threads, Looks d d₁ ∧ (onStopped body d).2 =
      if body.allThreadsStopped || body.threadId.isSome then
        let d₂ := { d₁ with
          threads, phase := if d₁.phase = .running then .stopped else d₁.phase }
        if d.threads.allRunning then (showStop body.threadId d₂).2 else d₂
      else d₁ := by
  -- whether this is a first stop is told after the description, which leaves the threads alone
  have hnote (d₀ : Debugger σ) (hlooks : Looks d d₀) (hthreads : d₀.threads = d.threads) :
      ∃ d₁ threads, Looks d d₁ ∧ ((do
        let firstStop := (← get).threads.allRunning
        if ← noteStopped body then
          if (← get).phase = .running then Reaction.enter .stopped
          if firstStop then showStop body.threadId : Reaction σ Unit) d₀).2 =
        if body.allThreadsStopped || body.threadId.isSome then
          let d₂ := { d₁ with
            threads, phase := if d₁.phase = .running then .stopped else d₁.phase }
          if d.threads.allRunning then (showStop body.threadId d₂).2 else d₂
        else d₁ := by
    obtain ⟨d₁, threads, hd₁, hnoted⟩ := noteStopped_cases body d₀
    refine ⟨d₁, threads, trans_of Looks hlooks hd₁, ?_⟩
    rw [Reaction.bind_apply, Reaction.get_apply]
    dsimp only
    rw [Reaction.bind_apply, hnoted, hthreads]
    split
    · rw [if_pos rfl, Reaction.bind_apply, Reaction.get_apply]
      dsimp only
      by_cases hphase : d₁.phase = .running
      · rw [if_pos hphase, if_pos hphase]
        cases d.threads.allRunning <;> rfl
      · rw [if_neg hphase, if_neg hphase]
        cases d.threads.allRunning <;> rfl
    · rfl
  unfold onStopped
  cases body.description with
  | none => exact hnote d (refl_of Looks d) rfl
  | some description =>
    exact hnote { d with console := d.console.writeLine description } ⟨rfl, rfl, id, rfl, rfl⟩ rfl

/-- A report of a stop opens the console. -/
theorem attends_onStopped (body : StoppedBody) :
    Reaction.Within Attends (onStopped body : Reaction σ Unit) := fun d => by
  obtain ⟨d₁, threads, hlooks, heq⟩ := onStopped_cases body d
  rw [heq]
  split
  · dsimp only
    split
    · exact .of_not (not_isUnattended_of_isOpen (isOpen_showStop _ _))
    · -- some thread had stopped before, so a console that is closed now was closed on it
      rename_i hstopped
      rintro ⟨hclosed, -⟩
      exact ⟨⟨hlooks.console ▸ hclosed, .inr (by simpa using hstopped)⟩, hlooks.generation⟩
  · exact hlooks.attends

/-! ### Sessions that end and begin -/

/-- Without its session a program has no threads. -/
theorem attends_closeSession (d : Debugger σ) : Attends d (closeSession d).2 := by
  rw [closeSession_apply]
  split_ifs
  · exact refl_of Attends d
  · exact .of_imp id id (fun _ => rfl) rfl

/-- A session that is opened begins without threads. -/
theorem threads_openSession (target : Target) (d : Debugger σ) :
    (openSession target d).2.threads = {} := by
  rw [openSession_apply]
  obtain ⟨environment, -, ⟨e, hconnect⟩ | hconnect⟩ := connect_cases target.executable
    { d with console := d.console.closeInput, threads := {} } <;> rw [hconnect]
  dsimp only
  obtain ⟨environment', session, answer, -, -, heq⟩ := Action.send_apply
    (Call.introduce (InitializeArguments.ofAdapter target.adapterId)) { d with
      console := d.console.closeInput, threads := {}
      environment, session := some {}, generation := d.generation + 1
      exchanges := .connect target.executable (.ok ()) :: d.exchanges }
  rw [heq]
  split <;> rename_i hsend <;> obtain ⟨-, rfl⟩ := Prod.mk.inj hsend <;> rfl

/-- Where a session begins, or fails to, no thread is known. -/
theorem threads_relaunch {d : Debugger σ} (h : d.target.isSome) : (relaunch d).2.threads = {} := by
  obtain ⟨target, htarget⟩ := Option.isSome_iff_exists.1 h
  have hopened := threads_openSession target (closeSession { d with phase := .initializing }).2
  rw [relaunch_of_target htarget]
  rcases hopen : openSession target (closeSession { d with phase := .initializing }).2 with
    ⟨e | _, d'⟩ <;> rw [hopen] at hopened <;> exact hopened

/-- Nor is there anything to attend to after a relaunch. -/
theorem not_isUnattended_relaunch {d : Debugger σ} (h : d.target.isSome) :
    ¬(relaunch d).2.IsUnattended := by
  have hphase : (relaunch d).2.phase ≠ .stopped := by
    rw [(relaunch_spec h).phase]
    exact nofun
  exact not_isUnattended_of_allRunning hphase (by rw [threads_relaunch h]; rfl)

/-- Whether it comes to a relaunch or not. -/
theorem attends_relaunch (d : Debugger σ) : Attends d (relaunch d).2 := by
  rcases Option.eq_none_or_eq_some d.target with htarget | ⟨target, htarget⟩
  · rw [relaunch_of_no_target htarget]
    exact refl_of Attends d
  · exact .of_not (not_isUnattended_relaunch (by rw [htarget]; rfl))

/-- The end of a program leaves nothing to attend to. -/
theorem attends_onTargetGone {d : Debugger σ} {console : Console}
    (hconsole : console.isOpen = d.console.isOpen) :
    Attends d (onTargetGone { d with phase := .terminated, console }).2 := by
  have hgone : Attends d { d with phase := .terminated, console } :=
    .of_imp (fun h => hconsole.trans h) nofun id rfl
  rcases onTargetGone_cases { d with phase := .terminated, console } with
    ⟨-, heq⟩ | ⟨-, heq⟩ | ⟨htarget, -, text, heq⟩ <;> rw [heq]
  · exact hgone
  · exact hgone
  · refine .of_not (not_isUnattended_of_allRunning ?_ ?_)
    · exact fun hphase => nomatch (relaunch_spec htarget).phase.symm.trans hphase
    · rw [threads_relaunch htarget]
      rfl

/-- Nor does the end of the stream. -/
theorem attends_onClosed (d : Debugger σ) : Attends d (onClosed d).2 := by
  have hgone : Attends d { d with
    phase := .terminated
    console := d.console.writeLine "The debug adapter has exited." } := .of_imp id nofun id rfl
  have hclosed := trans_of Attends hgone (attends_closeSession _)
  rw [onClosed_apply]
  dsimp only
  split_ifs
  · exact hclosed
  · exact hclosed

/-- Nor does a start that fails. -/
theorem attends_onStarted (result : Except Error Unit) (d : Debugger σ) :
    Attends d (onStarted result d).2 := by
  cases result with
  | ok _ => exact refl_of Attends d
  | error e =>
    rw [onStarted_error]
    generalize "Failed to " ++ (if d.launches then "launch" else "attach") ++ ": " ++ e.message =
      line
    have hgone : Attends d { d with
      phase := .terminated, console := d.console.writeLine line } := .of_imp id nofun id rfl
    dsimp only
    split_ifs
    · exact .of_not (not_isUnattended_of_isOpen (Console.isOpen_openInput _))
    · exact trans_of Attends hgone (attends_closeSession _)

/-! ### Configurations -/

/-- The threads are asked for, and replaced by those that the adapter lists; all of these run. -/
theorem refreshThreads_cases {d : Debugger σ} (hsession : d.session.isSome) :
    ∃ answer d₁, Steady d d₁ ∧
      d₁.exchanges = .request (Call.threads.on d.generation) answer :: d.exchanges ∧
      if (Call.threads.result answer).isOk then
        ∃ threads, threads.allRunning ∧ (refreshThreads d).2 = { d₁ with threads }
      else (refreshThreads d).2 = d₁ := by
  have hsteady := steady_send Call.threads d
  rw [refreshThreads, Action.requireSession_bind_of_session hsession, Action.bind_apply]
  obtain ⟨environment, session, answer, -, -, heq⟩ := Action.send_apply Call.threads d
  rw [heq] at hsteady ⊢
  refine ⟨answer, _, hsteady, rfl, ?_⟩
  cases Call.threads.result answer with
  | error e => rfl
  | ok infos =>
    have hall : (infos.map fun info => ({ id := info.id, name := info.name } : Thread)).all
        (·.running) := List.all_map.trans (List.all_eq_true.2 fun _ _ => rfl)
    exact ⟨d.threads.replaceAll _, hall, rfl⟩

/-- A configuration that fails has not touched the threads; one that succeeds has asked for them
last and closes the console. -/
theorem configure_cases {d : Debugger σ} (hwf : d.breakpoints.WellFormed)
    (hsession : d.session.isSome) : ∃ d₁, Steady { d with phase := .running } d₁ ∧
      ((∃ e, configure d = (.error e, d₁)) ∨
        ∃ answer threads, d₁.exchanges.head? =
            some (.request (Call.threads.on d.generation) answer) ∧
          threads.allRunning = ((Call.threads.result answer).isOk || d.threads.allRunning) ∧
          configure d = (.ok (), { d₁ with threads, console := d₁.console.closeInput })) := by
  -- batch, settings, threads, one after the other; only the last changes the list of threads
  obtain ⟨pushed, htells, -, -⟩ := pushAllPaths_spec (d := { d with phase := .running }) hwf
  rw [configure_apply hsession d.phase, Action.bind_apply]
  rcases hpush : pushAllPaths { d with phase := .running } with ⟨e | _, d₁⟩ <;> rw [hpush] at htells
  · exact ⟨d₁, htells.toSteady, .inl ⟨e, rfl⟩⟩
  have hopen : d₁.session.isSome := htells.session.trans hsession
  have hsettings := Action.within_sendEach (R := Steady)
    (fun call (_ : call ∈ settingCalls d₁.capabilities) => steady_send call) d₁
  dsimp only
  rw [Action.bind_apply, finishConfiguration_apply]
  rcases hsend : Action.sendEach (settingCalls d₁.capabilities) d₁ with ⟨e | _, d₂⟩ <;>
    rw [hsend] at hsettings
  · exact ⟨d₂, trans_of Steady htells.toSteady hsettings, .inl ⟨e, rfl⟩⟩
  obtain ⟨answer, d₃, hrefresh, hexchanges, hthreads⟩ :=
    refreshThreads_cases (hsettings.session.trans hopen : d₂.session.isSome)
  have hsteady := trans_of Steady (trans_of Steady htells.toSteady hsettings) hrefresh
  have hgeneration : d₂.generation = d.generation :=
    hsettings.generation.trans htells.generation
  have hhead : d₃.exchanges.head? = some (.request (Call.threads.on d.generation) answer) := by
    rw [hexchanges, hgeneration]
    rfl
  refine ⟨d₃, hsteady, .inr ⟨answer, ?_⟩⟩
  dsimp only
  split at hthreads
  · rename_i hlisted
    obtain ⟨threads, hall, heq⟩ := hthreads
    refine ⟨threads, hhead, by rw [hlisted, hall, Bool.true_or], ?_⟩
    rw [heq]
    rfl
  · rename_i hrefused
    refine ⟨d.threads, hhead, by rw [Bool.eq_false_iff.2 hrefused, Bool.false_or], ?_⟩
    rw [hthreads, ← (hsteady.threads : d₃.threads = d.threads)]
    rfl

end Debugger

open Debugger

variable [Environment σ]

/-- Does a configuration close the console although threads have stopped, because the adapter
refuses to list them? -/
def Step.Blinds (step : Step σ) : Prop :=
  step.configuration? = some (.ok ()) ∧ step.before.threads.allRunning = false ∧
    ∃ answer, (Call.threads.result answer).isOk = false ∧
      step.after.exchanges.head? =
        some (.request (Call.threads.on step.before.generation) answer)

namespace Debugger

/-- The debugger configures itself, and where that fails at most the session is closed after it. -/
theorem configure_of_configuration? {d : Debugger σ} {move : Move σ} {outcome : Except Error Unit}
    (h : Step.configuration? ⟨d, move⟩ = some outcome) : d.session.isSome ∧
      ∃ d', configure d = (outcome, d') ∧ Attends d' (move.next d) ∧
        (outcome = .ok () → move.next d = d') := by
  rcases cases_of_configuration? h with ⟨rfl, hphase, hlaunches, hsession, rfl⟩ |
    ⟨connection, rfl, hopen, hattaches, rfl⟩
  · have hnext : (Move.operate .run : Move σ).next d = (configure d).2 := by
      show (Debugger.run d).2 = _
      rw [run_apply, if_pos ⟨hphase, hlaunches⟩]
    exact ⟨hsession, _, rfl, hnext ▸ refl_of Attends _, fun _ => hnext⟩
  · have hsession : d.session.isSome := (Bool.and_eq_true_iff.1 hopen).2
    obtain ⟨target, htarget, hmode⟩ := exists_target_of_attaches hattaches
    have hconfigure : configure { d with phase := .configuring } = configure d :=
      (configure_apply hsession .configuring).trans (configure_apply hsession d.phase).symm
    have hopen' : d.isOpen (Signal.event connection Event.initialized).generation := hopen
    have hnext : (Move.handle (.event connection .initialized) : Move σ).next d =
        (onInitialized d).2 := by
      show (handle (.event connection .initialized) d).2 = _
      rw [handle_apply, if_pos hopen']
      rfl
    rw [hnext, onInitialized_of_target htarget, if_neg (Bool.eq_false_iff.1 hmode), hconfigure]
    refine ⟨hsession, ?_⟩
    rcases configure d with ⟨e | _, d'⟩
    · refine ⟨d', rfl, ?_, nofun⟩
      exact trans_of Attends (.of_imp id id id rfl) (attends_closeSession _)
    · exact ⟨d', rfl, refl_of Attends d', fun _ => rfl⟩

/-- A configuration that fails leaves nobody unattended who was not. -/
theorem attends_of_configuration_fails {d : Debugger σ} (hwf : d.breakpoints.WellFormed)
    {move : Move σ} {e : Error} (h : Step.configuration? ⟨d, move⟩ = some (.error e)) :
    Attends d (move.next d) := by
  obtain ⟨hsession, d', hconfigure, hnext, -⟩ := configure_of_configuration? h
  obtain ⟨d₁, hsteady, ⟨e', heq⟩ | ⟨answer, threads, -, -, heq⟩⟩ :=
    configure_cases hwf hsession <;> rw [hconfigure] at heq
  · obtain ⟨-, rfl⟩ := Prod.mk.inj heq
    have hrunning : Attends d { d with phase := .running } := .of_imp id nofun id rfl
    exact trans_of Attends (trans_of Attends hrunning hsteady.looks.attends) hnext
  · cases (Prod.mk.inj heq).1

/-- A configuration that succeeds leaves the program running behind a closed console, and threads
that have stopped stay so just if the adapter refuses to list them. -/
theorem cases_of_configuration_succeeds {d : Debugger σ} (hwf : d.breakpoints.WellFormed)
    {move : Move σ} (h : Step.configuration? ⟨d, move⟩ = some (.ok ())) :
    (move.next d).console.isOpen = false ∧ (move.next d).phase = .running ∧
      (move.next d).session.isSome ∧ (move.next d).generation = d.generation ∧
      ∃ answer, (move.next d).exchanges.head? =
          some (.request (Call.threads.on d.generation) answer) ∧
        (move.next d).threads.allRunning =
          ((Call.threads.result answer).isOk || d.threads.allRunning) := by
  obtain ⟨hsession, d', hconfigure, -, hnext⟩ := configure_of_configuration? h
  obtain ⟨d₁, hsteady, ⟨e', heq⟩ | ⟨answer, threads, hhead, hthreads, heq⟩⟩ :=
    configure_cases hwf hsession <;> rw [hconfigure] at heq
  · cases (Prod.mk.inj heq).1
  · rw [hnext rfl, (Prod.mk.inj heq).2]
    exact ⟨rfl, hsteady.phase, hsteady.session.trans hsession, hsteady.generation, answer, hhead,
      hthreads⟩

/-! ### Moves -/

theorem looks_sendStart :
    Reaction.Within Looks (Reaction.sendStart : Reaction σ Unit) := fun d => by
  rcases sendStart_cases d with heq | ⟨session, mode, hsession, -, heq⟩ <;> rw [heq]
  · exact refl_of Looks d
  · exact ⟨rfl, rfl, id, by rw [hsession]; rfl, rfl⟩

omit [Environment σ] in
theorem looks_takeSignal (d : Debugger σ) : Looks d (takeSignal d).2 := by
  rcases takeSignal_cases d with heq | ⟨session, signal, taken, hsession, -, heq⟩ <;> rw [heq]
  · exact refl_of Looks d
  · exact ⟨rfl, rfl, id, by rw [hsession]; rfl, rfl⟩

/-- **No plain signal leaves a program unattended.** -/
theorem attends_react {signal : Signal} (h : signal.isPlain) (d : Debugger σ) :
    Attends d (react signal d).2 := by
  rcases signal with ⟨connection, event⟩ | _ | _
  · cases event with
    | output body =>
      rw [react, onEvent_output]
      split_ifs
      · exact refl_of Attends d
      · exact .of_imp id id id rfl
    | continued threadId allThreads => exact attends_noteContinued threadId allThreads d
    | stopped body => exact attends_onStopped body d
    | thread body => exact (within_onThread (R := Looks) body d).attends
    | other name body => exact refl_of Attends d
    | _ => cases h
  · cases h
  · cases h

/-- A plain move leaves nobody unattended who was not. -/
theorem attends_of_isPlain {move : Move σ} (h : move.isPlain) (d : Debugger σ) :
    Attends d (move.next d) := by
  rcases move with operation | text | _ | _ | signal | ⟨connection, arrivals⟩ | change
  · by_cases hresume : operation = .resume
    · subst hresume
      exact attends_continueRunning d
    · exact (Operation.within_act_of_ne (R := Looks) h hresume d).attends
  · exact .of_imp id id id rfl
  · exact (looks_sendStart d).attends
  · exact (looks_takeSignal d).attends
  · exact related_handle fun _ => attends_react h d
  · rw [Move.next]
    split
    · exact .of_imp id id id rfl
    · exact refl_of Attends d
  · exact .of_imp id id id rfl

/-- **A step leaves nobody unattended who was not, but for a configuration that succeeds.** -/
theorem attends_next {d : Debugger σ} (hwf : d.breakpoints.WellFormed) {move : Move σ}
    (h : Step.configuration? ⟨d, move⟩ ≠ some (.ok ())) : Attends d (move.next d) := by
  cases hconfiguration : Step.configuration? ⟨d, move⟩ with
  | some outcome =>
    cases outcome with
    | error e => exact attends_of_configuration_fails hwf hconfiguration
    | ok _ => exact absurd hconfiguration h
  | none =>
  -- what configures has been treated, so below `run` does nothing and readiness opens the console
  cases move using Move.casesPlain with
  | plain move hplain => exact attends_of_isPlain hplain d
  | launch target =>
    show Attends d (launch target d).2
    rw [launch_apply]
    exact .of_not (not_isUnattended_relaunch rfl)
  | relaunch => exact attends_relaunch d
  | close => exact attends_closeSession d
  | run =>
    show Attends d (Debugger.run d).2
    rw [run_of_not_begun hconfiguration]
    exact refl_of Attends d
  | setBreakpoint path line => exact (edits_setBreakpoint path line d).toSteady.looks.attends
  | setEnabled index enabled => exact (edits_setEnabled index enabled d).toSteady.looks.attends
  | deleteBreakpoint index => exact (edits_deleteBreakpoint index d).toSteady.looks.attends
  | initialized connection =>
    refine related_handle fun hopen => ?_
    show Attends d (onInitialized d).2
    rw [onInitialized_of_not_begun hopen hconfiguration]
    split_ifs
    · exact .of_not (not_isUnattended_of_isOpen (Console.isOpen_openInput _))
    · exact refl_of Attends d
  | exited connection body =>
    refine related_handle fun _ => ?_
    show Attends d (onEvent (.exited body) d).2
    rw [onEvent_exited]
    exact attends_onTargetGone rfl
  | terminated connection body =>
    refine related_handle fun _ => ?_
    show Attends d (onEvent (.terminated body) d).2
    rw [onEvent_terminated]
    split_ifs
    · exact attends_onTargetGone rfl
    · exact refl_of Attends d
  | breakpoint connection reason descriptor =>
    refine related_handle fun _ => ?_
    show Attends d (onEvent (.breakpoint reason descriptor) d).2
    obtain ⟨breakpoints, heq⟩ := exists_onEvent_breakpoint reason descriptor d
    rw [heq]
    exact .of_imp id id id rfl
  | closed connection => exact related_handle fun _ => attends_onClosed d
  | started connection result => exact related_handle fun _ => attends_onStarted result d

/-- The console is closed on threads that have stopped just if some are left so. -/
theorem blinds_iff {d : Debugger σ} (hwf : d.breakpoints.WellFormed) {move : Move σ} :
    Step.Blinds ⟨d, move⟩ ↔
      Step.configuration? ⟨d, move⟩ = some (.ok ()) ∧ (move.next d).threads.allRunning = false := by
  refine ⟨fun ⟨hsucceeds, hstopped, answer, hrefused, hlast⟩ => ⟨hsucceeds, ?_⟩,
    fun ⟨hsucceeds, hstands⟩ => ?_⟩
  · obtain ⟨-, -, -, -, answer', hlast', hthreads⟩ := cases_of_configuration_succeeds hwf hsucceeds
    obtain rfl : answer' = answer := by
      have hsame := Option.some.inj (hlast'.symm.trans hlast)
      injection hsame
    rw [hthreads, hrefused, Bool.false_or]
    exact hstopped
  · obtain ⟨-, -, -, -, answer, hlast, hthreads⟩ := cases_of_configuration_succeeds hwf hsucceeds
    rw [hthreads, Bool.or_eq_false_iff] at hstands
    exact ⟨hsucceeds, hstands.2, answer, hstands.1, hlast⟩

/-- **The only way out.**  Who is unattended has been left so by this step, or was so before. -/
theorem cases_of_isUnattended_next {d : Debugger σ} (hwf : d.breakpoints.WellFormed) {move : Move σ}
    (h : (move.next d).IsUnattended) :
    (Step.Blinds ⟨d, move⟩ ∨ d.IsUnattended) ∧ (move.next d).generation = d.generation := by
  by_cases hsucceeds : Step.configuration? ⟨d, move⟩ = some (.ok ())
  · obtain ⟨-, hphase, -, hgeneration, -⟩ := cases_of_configuration_succeeds hwf hsucceeds
    have hstands := h.2.resolve_left fun hstopped => nomatch hphase.symm.trans hstopped
    exact ⟨.inl ((blinds_iff hwf).2 ⟨hsucceeds, hstands⟩), hgeneration⟩
  · obtain ⟨hbefore, hgeneration⟩ := attends_next hwf hsucceeds h
    exact ⟨.inr hbefore, hgeneration⟩

/-- A configuration that blinds leaves a program unattended. -/
theorem isUnattended_of_blinds {d : Debugger σ} (hwf : d.breakpoints.WellFormed) {move : Move σ}
    (h : Step.Blinds ⟨d, move⟩) : (move.next d).IsUnattended := by
  obtain ⟨hclosed, -⟩ := cases_of_configuration_succeeds hwf h.1
  exact ⟨hclosed, .inr ((blinds_iff hwf).1 h).2⟩

/-- A stop that is not the first one makes a running program count as stopped, and no more. -/
theorem next_of_later_stop {d : Debugger σ} (hsession : d.session.isSome)
    (hphase : d.phase = .running) (hstopped : d.threads.allRunning = false) {body : StoppedBody}
    (hbody : body.allThreadsStopped ∨ body.threadId.isSome) :
    let d' := (Move.handle (.event d.generation (.stopped body)) : Move σ).next d
    d'.phase = .stopped ∧ d'.console.isOpen = d.console.isOpen := by
  have hopen : d.isOpen (Signal.event d.generation (.stopped body)).generation := by
    simp [isOpen, hsession, Signal.generation]
  obtain ⟨d₁, threads, hlooks, heq⟩ := onStopped_cases body d
  have hnamed : (body.allThreadsStopped || body.threadId.isSome) = true := by simpa using hbody
  rw [if_pos hnamed, hstopped] at heq
  have hnext : (Move.handle (.event d.generation (.stopped body)) : Move σ).next d =
      (onStopped body d).2 := by
    rw [Move.next, handle_apply, if_pos hopen]
    rfl
  dsimp only
  rw [hnext, heq]
  exact ⟨if_pos (hlooks.phase.trans hphase), hlooks.console⟩

end Debugger

/-- Somebody has been left unattended by a step on the present connection. -/
theorem Run.exists_blinds {history : List (Step σ)} {d : Debugger σ} (h : Run history d)
    (hd : d.IsUnattended) :
    ∃ step ∈ history, step.before.generation = d.generation ∧ step.Blinds := by
  -- back along the run, as long as it was unattended: this ends, for no run begins so
  induction h with
  | start environment console suppressed => rcases hd with ⟨-, hphase | hstopped⟩ <;> contradiction
  | @step history d hrun move ih =>
    have hwf := hrun.isTold.wellFormed
    obtain ⟨hblinds | hbefore, hgeneration⟩ := cases_of_isUnattended_next hwf hd
    · exact ⟨_, .head _, hgeneration.symm, hblinds⟩
    · obtain ⟨step, hmem, hsame, hblinds⟩ := ih hbefore
      exact ⟨step, .tail _ hmem, hsame.trans hgeneration.symm, hblinds⟩

/-- **When a stopped program has a prompt.**  The program is stopped behind a closed console only if
a configuration on this connection has closed the console on threads that had stopped, because the
adapter refused to list them.  No other step leaves a debugger unattended, and this one always does:
at the next stop the program is stopped, and the console stays closed. -/
theorem Run.attended_iff {history : List (Step σ)} {d : Debugger σ} (h : Run history d) :
    (d.phase = .stopped → d.console.isOpen = false →
      ∃ step ∈ history, step.before.generation = d.generation ∧ step.Blinds) ∧
    ∀ move : Move σ,
      (¬d.IsUnattended → ((move.next d).IsUnattended ↔ Step.Blinds ⟨d, move⟩)) ∧
      (Step.Blinds ⟨d, move⟩ → ∀ body : StoppedBody,
        body.allThreadsStopped ∨ body.threadId.isSome →
          let stop : Move σ := .handle (.event d.generation (.stopped body))
          (stop.next (move.next d)).phase = .stopped ∧
            (stop.next (move.next d)).console.isOpen = false) := by
  have hwf := h.isTold.wellFormed
  refine ⟨fun hphase hclosed => h.exists_blinds ⟨hclosed, .inl hphase⟩, fun move => ⟨?_, ?_⟩⟩
  · intro hattended
    refine ⟨fun hnext => ?_, isUnattended_of_blinds hwf⟩
    exact (cases_of_isUnattended_next hwf hnext).1.resolve_right hattended
  · intro hblinds body hbody
    obtain ⟨hclosed, hphase, hsession, hgeneration, -⟩ :=
      cases_of_configuration_succeeds hwf hblinds.1
    have hstop := next_of_later_stop hsession hphase ((blinds_iff hwf).1 hblinds).2 hbody
    rw [hgeneration] at hstop
    exact ⟨hstop.1, hstop.2.trans hclosed⟩

/-- A launched program that has stopped before it was let run, and whose adapter does not list its
threads. -/
def Script.stopping : List (Move Script) :=
  [ .operate (.launch launched), .handle (.event 1 .initialized),
    .handle (.event 1 (.stopped { threadId := some 1 })) ]

/-- An adapter that does not list the threads. -/
def Script.unlisting : Script :=
  { entries := [("threads", [{ answer := .refusal (.refused "busy") }])] }

/-- A run it speaks of: the program that is let run has been stopped before. -/
theorem Run.attended_iff_scripted :
    let run := Move.steps Script.stopping [] (Script.rehearse Script.unlisting)
    let move : Move Script := .operate .run
    let stop : Move Script := .handle (.event run.2.generation (.stopped { threadId := some 1 }))
    ¬run.2.IsUnattended ∧ Step.Blinds ⟨run.2, move⟩ ∧ (move.next run.2).IsUnattended ∧
      (stop.next (move.next run.2)).phase = .stopped ∧
      (stop.next (move.next run.2)).console.isOpen = false ∧
      ∃ step ∈ ⟨move.next run.2, stop⟩ :: ⟨run.2, move⟩ :: run.1,
        step.before.generation = (stop.next (move.next run.2)).generation ∧ step.Blinds := by
  intro run move stop
  have hrun : Run run.1 run.2 := (Run.start _ _ _).steps _
  have hattended : ¬run.2.IsUnattended := not_isUnattended_of_isOpen (by decide +kernel)
  have hblinds : Step.Blinds ⟨run.2, move⟩ :=
    (blinds_iff hrun.isTold.wellFormed).2 ⟨by decide +kernel, by decide +kernel⟩
  obtain ⟨-, hsteps⟩ := hrun.attended_iff
  obtain ⟨hiff, hstop⟩ := hsteps move
  obtain ⟨hphase, hclosed⟩ := hstop hblinds { threadId := some 1 } (.inr rfl)
  obtain ⟨hexplained, -⟩ := ((hrun.step move).step stop).attended_iff
  exact ⟨hattended, hblinds, (hiff hattended).2 hblinds, hphase, hclosed,
    hexplained hphase hclosed⟩

/-- A stopped program does not always have a prompt. -/
theorem Run.attended_not_always : ¬∀ (history : List (Step Script)) (d : Debugger Script),
    Run history d → d.phase = .stopped → d.console.isOpen := by
  intro h
  let run := Move.steps
    (Script.stopping ++ [.operate .run, .handle (.event 1 (.stopped { threadId := some 1 }))]) []
    (Script.rehearse Script.unlisting)
  have hrun : Run run.1 run.2 := (Run.start _ _ _).steps _
  have hopen := h _ _ hrun (by decide +kernel)
  exact absurd hopen (by decide +kernel)

end DebugConsole
