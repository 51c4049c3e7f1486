/-
# Threads that run again

Of threads that run again the adapter tells in an event, in the answer to a request that lets one
run, or in both.  All the same comes of it.

| told of | threads afterwards |
| --- | --- |
| all threads | all of them run |
| a thread that is known | that one runs, the others are as before |
| a thread that is not known | as before |

If all known threads run then, the console closes, and a program that counted as stopped counts as
running; otherwise console and phase are as before (`Debugger.Resumes`).  Whoever is told twice does
nothing the second time.
-/

import DebugConsole.Proofs.Stops

namespace DebugConsole

open Protocol

variable {σ : Type}

namespace Threads

/-- Threads of which one runs again, or all do. -/
def resume (id : Int64) (every : Bool) (list : List Thread) : List Thread :=
  if every then list.map Thread.resumed else changeFirst (·.id = id) Thread.resumed list

/-- What runs again already is not resumed any further. -/
theorem resume_resume (id : Int64) (every : Bool) (list : List Thread) :
    resume id every (resume id every list) = resume id every list := by
  cases every with
  | true => exact List.map_map
  | false =>
    exact changeFirst_changeFirst (f := Thread.resumed) (g := Thread.resumed) (fun _ => rfl) list

/-- Marking threads as running changes the list, and not the focus. -/
theorem resume_eq (ts : Threads) (id : Int64) (every : Bool) :
    (if every then ts.markAllRunning else (ts.markRunning id).toOption.getD ts) =
      { ts with list := resume id every ts.list } := by
  cases every with
  | true => rfl
  | false => exact ts.getD_update id Thread.resumed

end Threads

namespace Debugger

/-- What comes of it when a thread, or every thread, runs again. -/
structure Resumes (id : Int64) (every : Bool) (d d' : Debugger σ) : Prop where
  /-- Nothing but the list of threads, the phase and the console changes. -/
  rest : ∃ list phase console, d' = { d with
    threads := { d.threads with list }, phase, console }
  all : every → d'.threads.list = d.threads.list.map Thread.resumed
  named : every = false → (d.threads.find? id).isSome →
    Threads.ChangesFirst id Thread.resumed d.threads.list d'.threads.list
  unknown : every = false → d.threads.find? id = none → d'.threads.list = d.threads.list
  /-- Once every known thread runs, the console is closed and the program runs. -/
  running : d'.threads.allRunning → d'.console = d.console.closeInput ∧
    d'.phase = if d.phase = .stopped then .running else d.phase
  /-- Before that, both are left alone. -/
  waiting : d'.threads.allRunning = false → d'.console = d.console ∧ d'.phase = d.phase

theorem noteContinued_apply (id : Int64) (every : Bool) (d : Debugger σ) :
    (noteContinued id every d).2 =
      let threads := { d.threads with list := Threads.resume id every d.threads.list }
      if threads.allRunning then { d with
        threads
        phase := if d.phase = .stopped then .running else d.phase
        console := d.console.closeInput }
      else { d with threads } := by
  -- the two branches differ in the threads they resume only
  have hrest (threads : Threads) : ((do
      let d ← get
      if d.threads.allRunning then
        if d.phase = .stopped then Reaction.enter .running
        Reaction.closeInput : Reaction σ Unit) { d with threads }).2 =
      if threads.allRunning then { d with
        threads
        phase := if d.phase = .stopped then .running else d.phase
        console := d.console.closeInput }
      else { d with threads } := by
    rw [Reaction.bind_apply, Reaction.get_apply]
    dsimp only
    cases threads.allRunning with
    | false => rfl
    | true =>
      rw [if_pos rfl, if_pos rfl]
      by_cases hphase : d.phase = .stopped
      · rw [if_pos hphase, if_pos hphase]
        rfl
      · rw [if_neg hphase, if_neg hphase]
        rfl
  dsimp only
  rw [← Threads.resume_eq]
  unfold noteContinued
  cases every <;> exact hrest _

/-- What is noted of threads that go on resumes them. -/
theorem resumes_noteContinued (id : Int64) (every : Bool) (d : Debugger σ) :
    Resumes id every d (noteContinued id every d).2 := by
  have hthreads : (noteContinued id every d).2.threads =
      { d.threads with list := Threads.resume id every d.threads.list } := by
    rw [noteContinued_apply]
    dsimp only
    split <;> rfl
  refine ⟨?_, fun hevery => ?_, fun hone hknown => ?_, fun hone hunknown => ?_, fun hrunning => ?_,
    fun hwaiting => ?_⟩
  · rw [noteContinued_apply]
    dsimp only
    split <;> exact ⟨_, _, _, rfl⟩
  · rw [hthreads]
    exact if_pos hevery
  · rw [hthreads, Threads.resume, if_neg (Bool.eq_false_iff.1 hone)]
    exact Threads.changesFirst_changeFirst (Threads.find?_isSome_iff.1 hknown)
  · rw [hthreads, Threads.resume, if_neg (Bool.eq_false_iff.1 hone)]
    refine Threads.changeFirst_eq_self fun hknown => ?_
    rw [← Threads.find?_isSome_iff, hunknown] at hknown
    cases hknown
  · rw [hthreads] at hrunning
    rw [noteContinued_apply]
    dsimp only
    rw [if_pos hrunning]
    exact ⟨rfl, rfl⟩
  · rw [hthreads] at hwaiting
    rw [noteContinued_apply]
    dsimp only
    rw [hwaiting, if_neg Bool.false_ne_true]
    exact ⟨rfl, rfl⟩

theorem session_noteContinued (id : Int64) (every : Bool) (d : Debugger σ) :
    (noteContinued id every d).2.session = d.session := by
  obtain ⟨list, phase, console, heq⟩ := (resumes_noteContinued id every d).rest
  rw [heq]

/-- Who is told again that threads run does nothing more. -/
theorem noteContinued_noteContinued (id : Int64) (every : Bool) (d : Debugger σ) :
    (noteContinued id every (noteContinued id every d).2).2 = (noteContinued id every d).2 := by
  rw [noteContinued_apply id every d]
  dsimp only
  cases hrunning : ({ d.threads with list := Threads.resume id every d.threads.list } :
      Threads).allRunning with
  | true =>
    rw [if_pos rfl, noteContinued_apply]
    dsimp only
    rw [Threads.resume_resume, hrunning, if_pos rfl]
    cases d.phase <;> rfl
  | false =>
    rw [if_neg Bool.false_ne_true, noteContinued_apply]
    dsimp only
    rw [Threads.resume_resume, hrunning, if_neg Bool.false_ne_true]

variable [Environment σ]

/-- The debugger after its adapter has reported that threads run again. -/
def toldContinued (id : Int64) (every : Bool) (d : Debugger σ) : Debugger σ :=
  (Move.handle (.event d.generation (.continued id every))).next d

/-- In a session the event has just this effect. -/
theorem toldContinued_eq {d : Debugger σ} (hsession : d.session.isSome) (id : Int64)
    (every : Bool) : d.toldContinued id every = (noteContinued id every d).2 := by
  have hopen : d.isOpen d.generation := by simp [isOpen, hsession]
  exact Move.next_event_of_isOpen hopen _

/-- What becomes of a request that lets a thread run, depending on the answer. -/
structure AnswersResume (thread : Thread) (d : Debugger σ) (answer : Except Error ContinueBody) :
    Prop where
  /-- A refusal is passed on; the debugger has only asked. -/
  refused : ∀ e, answer = .error e →
    (continueRunning d).1 = .error e ∧ Waits d (continueRunning d).2
  /-- Any other answer has the effect of a report of the same thing, which then has no effect any
  longer. -/
  granted : ∀ body, answer = .ok body → (continueRunning d).1 = .ok () ∧
    Waits (d.toldContinued thread.id body.allThreadsContinued) (continueRunning d).2 ∧
    (continueRunning d).2.toldContinued thread.id body.allThreadsContinued =
      (continueRunning d).2

omit [Environment σ] in
/-- In a session of a program that was started, the active thread is the one with the focus. -/
theorem activeThread_apply {d : Debugger σ} (hsession : d.session.isSome)
    (hphase : d.phase.isStarted) :
    activeThread d = (d.threads.focus?.elim (.error .noFocusThread) .ok, d) := by
  have hguard : ¬d.session.isNone := by simpa [Option.isSome_iff_ne_none] using hsession
  have hstarted : ¬(!false && !d.phase.isStarted) := by simp [hphase]
  rw [activeThread, Action.requireSession_bind_apply, if_neg hguard, if_neg hstarted,
    Action.bind_apply, Action.get_apply]
  dsimp only
  cases d.threads.focus? <;> rfl

/-- The thread with the focus is asked to run, and the answer is taken for a report. -/
theorem continueRunning_apply {d : Debugger σ} (hsession : d.session.isSome)
    (hphase : d.phase.isStarted) {thread : Thread} (hfocus : d.threads.focus? = some thread) :
    continueRunning d = match Action.send (Call.resume { threadId := thread.id }) d with
      | (.ok body, d₁) => (.ok (), (noteContinued thread.id body.allThreadsContinued d₁).2)
      | (.error e, d₁) => (.error e, d₁) := by
  have hguard : ¬d.session.isNone := by simpa [Option.isSome_iff_ne_none] using hsession
  have hstarted : ¬(!false && !d.phase.isStarted) := by simp [hphase]
  have hactive : activeThread d = (.ok thread, d) := by
    rw [activeThread_apply hsession hphase, hfocus]
    rfl
  rw [continueRunning, Action.requireSession_bind_apply, if_neg hguard, if_neg hstarted,
    Action.bind_apply, hactive]
  dsimp only
  rw [Action.bind_apply]
  rcases Action.send (Call.resume { threadId := thread.id }) d with ⟨e | body, d₁⟩ <;> rfl

omit [Environment σ] in
/-- What threads, phase and console become does not depend on what was asked or has arrived. -/
theorem waits_noteContinued {d d₁ : Debugger σ} (h : Waits d d₁) (id : Int64) (every : Bool) :
    Waits (noteContinued id every d).2 (noteContinued id every d₁).2 := by
  obtain ⟨environment, arrived, asked, rfl⟩ := h
  rw [noteContinued_apply, noteContinued_apply]
  dsimp only
  split <;> exact ⟨environment, arrived, asked, rfl⟩

/-- Resuming the thread in focus asks the adapter once. -/
theorem continueRunning_of_focus {d : Debugger σ} (hsession : d.session.isSome)
    (hphase : d.phase.isStarted) {thread : Thread} (hfocus : d.threads.focus? = some thread) :
    ∃ answer, (continueRunning d).2.exchanges =
      .request ((Call.resume { threadId := thread.id }).on d.generation) answer :: d.exchanges ∧
      AnswersResume thread d ((Call.resume { threadId := thread.id }).result answer) := by
  have hrun := continueRunning_apply hsession hphase hfocus
  have hwaits := Action.waits_send (Call.resume { threadId := thread.id }) d
  obtain ⟨environment, session, answer, hopen, -, hsend⟩ :=
    Action.send_apply (Call.resume { threadId := thread.id }) d
  rw [hsend] at hrun hwaits
  refine ⟨answer, ?_, ?_⟩
  · rw [hrun]
    cases (Call.resume { threadId := thread.id }).result answer with
    | error e => rfl
    | ok body =>
      -- noting that threads go on asks nothing
      obtain ⟨list, phase, console, heq⟩ :=
        (resumes_noteContinued thread.id body.allThreadsContinued _).rest
      dsimp only
      rw [heq]
      rfl
  · cases hanswer : (Call.resume { threadId := thread.id }).result answer with
    | error e =>
      rw [hanswer] at hrun
      refine ⟨fun e' he' => ?_, nofun⟩
      obtain rfl := Except.error.inj he'
      rw [hrun]
      exact ⟨rfl, hwaits⟩
    | ok body =>
      rw [hanswer] at hrun
      refine ⟨nofun, fun body' hbody' => ?_⟩
      obtain rfl := Except.ok.inj hbody'
      rw [hrun, toldContinued_eq hsession,
        toldContinued_eq ((session_noteContinued ..).symm ▸ hopen.trans hsession)]
      exact ⟨rfl, waits_noteContinued hwaits _ _, noteContinued_noteContinued _ _ _⟩

/-- **However the debugger is told that threads run again, the same comes of it.**  A report changes
just the threads it is about, and console and phase once all of them run; the answer to a request
that lets the thread with the focus run has the same effect as a report; a second report of the same
thing has none. -/
theorem resumptions_agree {d : Debugger σ} (hsession : d.session.isSome) :
    (∀ id every, Resumes id every d (d.toldContinued id every) ∧
      (d.toldContinued id every).toldContinued id every = d.toldContinued id every) ∧
    ∀ thread, d.phase.isStarted → d.threads.focus? = some thread →
      ∃ answer, (continueRunning d).2.exchanges =
        .request ((Call.resume { threadId := thread.id }).on d.generation) answer :: d.exchanges ∧
        AnswersResume thread d ((Call.resume { threadId := thread.id }).result answer) := by
  refine ⟨fun id every => ?_, fun thread hphase => continueRunning_of_focus hsession hphase⟩
  rw [toldContinued_eq hsession,
    toldContinued_eq ((session_noteContinued id every d).symm ▸ hsession)]
  exact ⟨resumes_noteContinued id every d, noteContinued_noteContinued id every d⟩

/-- A run it speaks of: the only thread has stopped, and is let run or reported to run. -/
theorem resumptions_agree_scripted :
    let d := (Move.steps Script.standing [] (Script.rehearse {})).2
    let thread : Thread := { id := 1, name := "main", running := false }
    (d.phase = .stopped ∧ d.console.isOpen) ∧
      ((continueRunning d).2.phase = .running ∧ (continueRunning d).2.console.isOpen = false) ∧
      Resumes 1 false d (d.toldContinued 1 false) ∧
      ∃ answer, (continueRunning d).2.exchanges =
        .request ((Call.resume { threadId := 1 }).on d.generation) answer :: d.exchanges ∧
        AnswersResume thread d ((Call.resume { threadId := 1 }).result answer) := by
  intro d thread
  have hsession : d.session.isSome := by decide +kernel
  obtain ⟨htold, hasked⟩ := resumptions_agree hsession
  exact ⟨by decide +kernel, by decide +kernel, (htold 1 false).1,
    hasked thread (by decide +kernel) (by decide +kernel)⟩

end Debugger
end DebugConsole
