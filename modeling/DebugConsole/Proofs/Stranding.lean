/-
# When a host is stranded

A host waits for the next signal of the session and, while the prompt is open, for a line
of the user.  Without a session and with a closed prompt it waits for ever, unless it
was told to end: it is stranded (`Debugger.IsStranded`).

| the session is gone because | prompt | host ends |
| --- | --- | --- |
| the start was refused | opened for a launched target | for an attached one |
| the target is gone | | for an attached target |
| the stream has ended | as it was | for an attached target |
| an attached target could not be configured | as it was | no |
| the connection for another session was refused | closed | no |

The last three rows can strand a host, and nothing else can
(`HostRun.stranded_iff`).
-/

import DebugConsole.CommandLine.Dialogue
import DebugConsole.Proofs.Commands

namespace DebugConsole

open Protocol

variable {σ : Type}

/-- Nothing will ever happen on the host again. -/
def Debugger.IsStranded (d : Debugger σ) : Prop :=
  d.session = none ∧ d.shutdownRequested = false ∧ d.console.isOpen = false

instance (d : Debugger σ) : Decidable d.IsStranded :=
  decidable_of_iff (d.session.isNone ∧ d.shutdownRequested = false ∧ d.console.isOpen = false)
    (by rw [Debugger.IsStranded, Option.isNone_iff_eq_none])

/-- What happens next on a host. -/
inductive HostMove (σ : Type) where
  /-- The next signal is handled. -/
  | signal
  /-- A line is taken, while the prompt is open. -/
  | line (text : String)
  | hear (connection : Nat) (arrivals : Arrivals)
  | elsewhere (change : σ → σ)

section

variable [Environment σ]

/-- The debugger after something has happened on the host. -/
def HostMove.next (options : CommandOptions) (move : HostMove σ) (d : Debugger σ) : Debugger σ :=
  match move with
  | .signal =>
    match Debugger.takeSignal d with
    | (some taken, d) => (Debugger.settle taken d).2
    | (none, d) => d
  | .line text =>
    if d.console.isOpen then (CommandLine.runLine (CommandTable.builtin options) text d).2 else d
  | .hear connection arrivals => (Move.hear connection arrivals).next d
  | .elsewhere change => (Move.elsewhere change).next d

/-- The run of a host, with the debuggers and what happened to them, last first.  It begins with
a target that was launched or attached to. -/
inductive HostRun (options : CommandOptions) :
    List (Debugger σ × HostMove σ) → Debugger σ → Prop
  | start {environment : σ} {console : Console} {suppressed : List String} {target : Target}
    (h : (Debugger.launch target { environment, console, suppressed }).1 = .ok ()) :
    HostRun options []
      (Reaction.sendStart (Debugger.launch target { environment, console, suppressed }).2).2
  | step {history : List (Debugger σ × HostMove σ)} {d : Debugger σ}
    (run : HostRun options history d) (move : HostMove σ) :
    HostRun options ((d, move) :: history) (move.next options d)

/-- What happens on a host, one after the other, with where it leads. -/
def HostMove.steps (options : CommandOptions) : List (HostMove σ) →
    List (Debugger σ × HostMove σ) → Debugger σ → List (Debugger σ × HostMove σ) × Debugger σ
  | [], history, d => (history, d)
  | move :: rest, history, d => steps options rest ((d, move) :: history) (move.next options d)

/-- A run of a host goes on with any moves. -/
theorem HostRun.steps {options : CommandOptions} {history : List (Debugger σ × HostMove σ)}
    {d : Debugger σ} (h : HostRun options history d) (moves : List (HostMove σ)) :
    HostRun options (HostMove.steps options moves history d).1
      (HostMove.steps options moves history d).2 := by
  induction moves generalizing history d with
  | nil => exact h
  | cons move rest ih => exact ih (.step h move)

/-- Does a signal end the session with nothing to follow it?  The stream of a launched program
has ended, or an attached one cannot be configured. -/
def Signal.Loses (d : Debugger σ) : Signal → Prop
  | .closed _ => d.launches
  | .event _ .initialized =>
    d.attaches ∧ ∃ e, (Debugger.configure { d with phase := .configuring }).1 = .error e
  | _ => False

/-- Does a move leave the host without a way out?  An attempt to connect is refused or, while the
prompt is closed, a session is lost. -/
def HostMove.Strands (options : CommandOptions) (d : Debugger σ) (move : HostMove σ) : Prop :=
  d.shutdownRequested = false ∧
    (d.refusals < (move.next options d).refusals ∨
      d.console.isOpen = false ∧ ∃ signal, move = .signal ∧
        (Debugger.takeSignal d).1 = some signal ∧ signal.Loses (Debugger.takeSignal d).2)

end

namespace Debugger

/-- Nothing changes of what a host waits for. -/
structure Rests (d d' : Debugger σ) : Prop where
  target : d'.target = d.target
  session : d'.session.isSome = d.session.isSome
  shutdownRequested : d'.shutdownRequested = d.shutdownRequested
  refusals : d'.refusals = d.refusals
  prompt : d'.console.isOpen = d.console.isOpen

/-- Two stretches at rest make one. -/
theorem Rests.trans {d₁ d₂ d₃ : Debugger σ} (h₁ : Rests d₁ d₂) (h₂ : Rests d₂ d₃) :
    Rests d₁ d₃ where
  target := h₂.target.trans h₁.target
  session := h₂.session.trans h₁.session
  shutdownRequested := h₂.shutdownRequested.trans h₁.shutdownRequested
  refusals := h₂.refusals.trans h₁.refusals
  prompt := h₂.prompt.trans h₁.prompt

/-- What lasts and leaves the prompt alone is at rest. -/
theorem Lasts.rests {d d' : Debugger σ} (h : Lasts d d')
    (hprompt : d'.console.isOpen = d.console.isOpen) : Rests d d' :=
  ⟨h.target, h.session, h.shutdownRequested, h.refusals_eq, hprompt⟩

/-- What is at rest is stranded after it exactly if it was before. -/
theorem Rests.isStranded_iff {d d' : Debugger σ} (h : Rests d d') :
    d'.IsStranded ↔ d.IsStranded := by
  have hnone : d'.session = none ↔ d.session = none := by
    rw [← Option.isNone_iff_eq_none, ← Option.isNone_iff_eq_none, ← Option.not_isSome,
      ← Option.not_isSome, h.session]
  rw [IsStranded, IsStranded, hnone, h.shutdownRequested, h.prompt]

/-- With a session nothing is stranded. -/
theorem not_isStranded_of_session {d : Debugger σ} (h : d.session.isSome) : ¬d.IsStranded := by
  rintro ⟨hnone, _⟩
  rw [hnone] at h
  cases h

/-! ### Signals -/

/-- What a reaction of the open session comes to: it strands the host just if a connection was
refused, or the session is lost while the prompt is closed. -/
structure Answers (loses : Prop) (d d' : Debugger σ) : Prop where
  target : d'.target = d.target
  isStranded_iff : d'.IsStranded ↔ d.shutdownRequested = false ∧
    (d.refusals < d'.refusals ∨ d.console.isOpen = false ∧ loses)

/-- The session goes on. -/
theorem Answers.of_session {loses : Prop} {d d' : Debugger σ} (hsession : d'.session.isSome)
    (htarget : d'.target = d.target) (hrefusals : d'.refusals ≤ d.refusals) (hloses : ¬loses) :
    Answers loses d d' where
  target := htarget
  isStranded_iff := by
    refine iff_of_false (not_isStranded_of_session hsession) fun h => ?_
    rcases h.2 with hlt | ⟨_, hlost⟩
    · omega
    · exact hloses hlost

/-- The host ends, or was going to. -/
theorem Answers.of_shutdown {loses : Prop} {d d' : Debugger σ} (hshutdown : d'.shutdownRequested)
    (htarget : d'.target = d.target) (hrefusals : d'.refusals ≤ d.refusals) (hloses : ¬loses) :
    Answers loses d d' where
  target := htarget
  isStranded_iff := by
    refine iff_of_false (fun h => Bool.false_ne_true (h.2.1.symm.trans hshutdown)) fun h => ?_
    rcases h.2 with hlt | ⟨_, hlost⟩
    · omega
    · exact hloses hlost

/-- The session is gone, and the rest is as it was. -/
theorem Answers.of_lost {loses : Prop} {d d' : Debugger σ} (hsession : d'.session = none)
    (htarget : d'.target = d.target) (hshutdown : d'.shutdownRequested = d.shutdownRequested)
    (hrefusals : d'.refusals = d.refusals) (hprompt : d'.console.isOpen = d.console.isOpen)
    (hloses : loses) : Answers loses d d' where
  target := htarget
  isStranded_iff := by
    rw [IsStranded, hshutdown, hrefusals, hprompt]
    constructor
    · rintro ⟨_, hrunning, hclosed⟩
      exact ⟨hrunning, .inr ⟨hclosed, hloses⟩⟩
    · rintro ⟨hrunning, hlt | ⟨hclosed, _⟩⟩
      · exact absurd hlt (lt_irrefl _)
      · exact ⟨hsession, hrunning, hclosed⟩

/-- What changes nothing may go before. -/
theorem Answers.of_prepared {loses : Prop} {d d₁ d' : Debugger σ} (hbefore : Rests d d₁)
    (h : Answers loses d₁ d') : Answers loses d d' where
  target := h.target.trans hbefore.target
  isStranded_iff := by
    rw [h.isStranded_iff, hbefore.shutdownRequested, hbefore.refusals, hbefore.prompt]

/-- What changes nothing may follow. -/
theorem Answers.trans_rests {loses : Prop} {d d₁ d' : Debugger σ} (h : Answers loses d d₁)
    (hafter : Rests d₁ d') : Answers loses d d' where
  target := hafter.target.trans h.target
  isStranded_iff := by rw [hafter.isStranded_iff, h.isStranded_iff, hafter.refusals]

/-- Printing and a change of phase are at rest. -/
theorem Rests.of_write (d : Debugger σ) (phase : Phase) {console : Console}
    (h : console.isOpen = d.console.isOpen) : Rests d { d with phase, console } :=
  ⟨rfl, rfl, rfl, rfl, h⟩

/-- A session that lasts strands nobody. -/
theorem Lasts.answers {loses : Prop} {d d' : Debugger σ} (h : Lasts d d')
    (hsession : d.session.isSome) (hloses : ¬loses) : Answers loses d d' :=
  .of_session (h.session.trans hsession) h.target h.refusals_eq.le hloses

variable [Environment σ]

/-- Another session, if there is a connection for it. -/
theorem Restarts.answers {d d' : Debugger σ} (h : Restarts d d') : Answers False d d' where
  target := h.target
  isStranded_iff := by
    have hclosed : d'.console.isOpen = false := by
      rw [h.console]
      rfl
    rw [and_false, or_false, ← h.shutdownRequested]
    rcases h.outcome with ⟨hnone, _, hrefused⟩ | ⟨hsome, _, hrefused⟩
    · constructor
      · rintro ⟨_, hshutdown, _⟩
        exact ⟨hshutdown, by omega⟩
      · rintro ⟨hshutdown, _⟩
        exact ⟨hnone, hshutdown, hclosed⟩
    · refine iff_of_false (not_isStranded_of_session hsome) fun hlt => ?_
      omega

/-- What leaves the session steady is at rest. -/
theorem Steady.rests {d d' : Debugger σ} (h : Steady d d') : Rests d d' where
  target := h.target
  session := h.session
  shutdownRequested := h.shutdownRequested
  refusals := h.unconnected.refusals_eq
  prompt := by rw [h.console]

/-- The session is lost just if the target was attached to and cannot be configured. -/
theorem answers_onInitialized {d : Debugger σ} (hwf : d.breakpoints.WellFormed)
    (hsession : d.session.isSome) : Answers
      (d.attaches ∧ ∃ e, (configure { d with phase := .configuring }).1 = .error e)
      d (onInitialized d).2 := by
  rcases Option.eq_none_or_eq_some d.target with htarget | ⟨target, htarget⟩
  · have hattaches : d.attaches = false := by rw [attaches, htarget]; rfl
    rw [onInitialized_of_no_target htarget]
    exact .of_session hsession rfl le_rfl fun h => Bool.false_ne_true (hattaches.symm.trans h.1)
  have hattaches : d.attaches = !target.mode.isLaunch := by rw [attaches, htarget]; rfl
  rw [onInitialized_of_target htarget]
  by_cases hlaunch : target.mode.isLaunch
  · rw [if_pos hlaunch]
    exact .of_session hsession rfl le_rfl fun h => by rw [hattaches, hlaunch] at h; cases h.1
  rw [if_neg hlaunch]
  have hattached : d.attaches := by simpa [hattaches] using hlaunch
  obtain ⟨pushed, d₁, d₂, htells, hcalm, hresult⟩ :=
    configure_spec (d := { d with phase := .configuring }) hwf hsession
  -- the batch and the settings change nothing that a host waits for
  have hconfigured : Rests d d₂ := (Rests.of_write d .running rfl).trans
    (htells.rests.trans (hcalm.rests (by rw [hcalm.console])))
  rcases hresult with ⟨e, hrun⟩ | ⟨hrun, _⟩
  · have hcloses := closeSession_spec { d₂ with console := (d₂.console.writeLine
      "Failed to initialize debugging session.").writeLine e.message }
    rw [hrun]
    refine .of_lost hcloses.session (hcloses.target.trans hconfigured.target)
      (hcloses.shutdownRequested.trans hconfigured.shutdownRequested)
      (hcloses.inner.unconnected.refusals_eq.trans hconfigured.refusals) ?_ ⟨hattached, e, rfl⟩
    exact (congrArg Console.isOpen hcloses.console).trans hconfigured.prompt
  · rw [hrun]
    refine .of_session (hconfigured.session.trans hsession) hconfigured.target
      hconfigured.refusals.le ?_
    rintro ⟨_, e, he⟩
    cases he

/-- After the end of a target a host is stranded just if a connection was refused. -/
theorem answers_onTargetGone {d : Debugger σ} (hsession : d.session.isSome) :
    Answers False d (onTargetGone d).2 := by
  rcases onTargetGone_cases d with ⟨-, heq⟩ | ⟨-, heq⟩ | ⟨htarget, -, text, heq⟩ <;> rw [heq]
  · exact .of_session hsession rfl le_rfl id
  · exact .of_shutdown rfl rfl le_rfl id
  · exact (relaunch_spec htarget).answers.trans_rests (.of_write _ _ rfl)

/-- **What a signal comes to.** -/
theorem answers_react {d : Debugger σ} (hwf : d.breakpoints.WellFormed)
    (hsession : d.session.isSome) (htarget : d.target.isSome) (signal : Signal) :
    Answers (signal.Loses d) d (react signal d).2 := by
  -- two events lead to the end of the target, with a line of their own
  have hgone (line : String) : Answers False d (onTargetGone { d with
      phase := .terminated, console := d.console.writeLine line }).2 := by
    refine .of_prepared ?_ (answers_onTargetGone (d := { d with
      phase := .terminated, console := d.console.writeLine line }) hsession)
    exact .of_write d .terminated rfl
  rcases signal with ⟨connection, event⟩ | connection | ⟨connection, result⟩
  · cases event with
    | initialized => exact answers_onInitialized hwf hsession
    | exited body => exact hgone _
    | terminated body =>
      show Answers False d (onEvent (.terminated body) d).2
      rw [onEvent_terminated]
      split_ifs
      · exact hgone _
      · exact .of_session hsession rfl le_rfl id
    | breakpoint reason descriptor =>
      show Answers False d (onEvent (.breakpoint reason descriptor) d).2
      obtain ⟨breakpoints, heq⟩ := exists_onEvent_breakpoint reason descriptor d
      rw [heq]
      exact .of_session hsession rfl le_rfl id
    | _ => exact (within_react (R := Stays) rfl d).toLasts.answers hsession id
  · obtain ⟨hdrops, hprompt, hshutdown⟩ := onClosed_spec d
    have hrefusals := hdrops.inner.unconnected.refusals_eq
    show Answers (d.launches = true) d (onClosed d).2
    cases hlaunches : d.launches with
    | true =>
      -- that the session of a launched target ends is no reason to shut down
      rw [attaches_of_target htarget, hlaunches] at hshutdown
      exact .of_lost hdrops.session hdrops.target (hshutdown.trans (Bool.or_false _)) hrefusals
        hprompt rfl
    | false =>
      rw [attaches_of_target htarget, hlaunches] at hshutdown
      exact .of_shutdown (hshutdown.trans (Bool.or_true _)) hdrops.target hrefusals.le nofun
  · cases result with
    | ok _ => exact .of_session hsession rfl le_rfl id
    | error e =>
      obtain ⟨hdrops, hprompt, hshutdown⟩ := onStarted_error_spec e d
      have hrefusals := hdrops.inner.unconnected.refusals_eq
      show Answers False d (onStarted (.error e) d).2
      cases hlaunches : d.launches with
      | true =>
        -- a launch that is refused opens the prompt again
        rw [hlaunches] at hprompt
        refine ⟨hdrops.target, iff_of_false (fun h => ?_) fun h => ?_⟩
        · exact Bool.false_ne_true (h.2.2.symm.trans hprompt)
        · rcases h.2 with hlt | ⟨_, hlost⟩
          · omega
          · exact hlost
      | false =>
        rw [hlaunches] at hshutdown
        exact .of_shutdown (hshutdown.trans (Bool.or_true _)) hdrops.target hrefusals.le id

/-! ### Moves of the host -/

/-- The answer to the start request is at rest. -/
theorem rests_sendStart (d : Debugger σ) : Rests d (Reaction.sendStart d).2 :=
  (calm_sendStart d).rests (by rw [(calm_sendStart d).console])

/-- Showing the prompt neither opens nor closes the console. -/
theorem isOpen_showPrompt (c : Console) : c.showPrompt.isOpen = c.isOpen := by
  rw [Console.showPrompt]
  split_ifs <;> rfl

/-- After a line the console shows an error, if there was one, and the prompt. -/
theorem rests_runLine (options : CommandOptions) (text : String) (d : Debugger σ) :
    Rests (((CommandTable.builtin options).dispatch text : Action σ Unit) d).2
      (CommandLine.runLine (.builtin options) text d).2 := by
  have hprompt (d : Debugger σ) : Rests d { d with console := d.console.showPrompt } :=
    .of_write d d.phase (isOpen_showPrompt d.console)
  rw [CommandLine.runLine, Reaction.bind_apply, Reaction.run_apply]
  rcases ((CommandTable.builtin options).dispatch text : Action σ Unit) d with ⟨e | _, d'⟩
  · have hsaid := Rests.of_write d' d'.phase (Console.isOpen_writeLine ("Error: " ++ e.message) _)
    exact hsaid.trans ((rests_sendStart _).trans (hprompt _))
  · exact (rests_sendStart d').trans (hprompt _)

/-- **What a line comes to.**  It strands the host just if a connection was refused. -/
theorem answers_runLine {options : CommandOptions} {text : String} {d : Debugger σ}
    (hwf : d.breakpoints.WellFormed) (htarget : d.target.isSome) (hopen : d.console.isOpen) :
    Answers False d (CommandLine.runLine (.builtin options) text d).2 := by
  refine Answers.trans_rests ?_ (rests_runLine options text d)
  rcases CommandTable.dispatch_builtin (σ := σ) options text with hrelaunch | hsteady
  · rw [hrelaunch]
    exact (relaunch_spec htarget).answers
  · have hkeeps := (hsteady d).keeps hwf
    refine ⟨hkeeps.target, iff_of_false (fun hstranded => ?_) fun h => ?_⟩
    · have hnone : d.session = none := by simpa [hstranded.1] using hkeeps.session.symm
      rw [IsStranded, hkeeps.prompt hnone, hopen] at hstranded
      cases hstranded.2.2
    · rw [hkeeps.refusals] at h
      rcases h.2 with hlt | ⟨_, hlost⟩
      · exact lt_irrefl _ hlt
      · exact hlost

/-- The target is kept, and the host is stranded just if it was or the move strands it. -/
structure Proceeds (options : CommandOptions) (move : HostMove σ) (d : Debugger σ) : Prop where
  target : (move.next options d).target = d.target
  isStranded_iff : (move.next options d).IsStranded ↔ d.IsStranded ∨ move.Strands options d

/-- A move that changes nothing a host waits for. -/
theorem Rests.proceeds {options : CommandOptions} {d : Debugger σ} {move : HostMove σ}
    (h : Rests d (move.next options d))
    (hloses : ∀ signal, move = .signal → (takeSignal d).1 ≠ some signal) :
    Proceeds options move d where
  target := h.target
  isStranded_iff := by
    have hnot : ¬move.Strands options d := by
      rintro ⟨_, hlt | ⟨_, signal, hmove, htaken, _⟩⟩
      · exact absurd hlt (by rw [h.refusals]; exact lt_irrefl _)
      · exact hloses signal hmove htaken
    rw [h.isStranded_iff, or_iff_left hnot]

/-- A move that is answered, where the host was not stranded. -/
theorem Answers.proceeds {loses : Prop} {options : CommandOptions} {d : Debugger σ}
    {move : HostMove σ} (h : Answers loses d (move.next options d)) (hnot : ¬d.IsStranded)
    (hloses : loses ↔ ∃ signal, move = .signal ∧ (takeSignal d).1 = some signal ∧
      signal.Loses (takeSignal d).2) : Proceeds options move d where
  target := h.target
  isStranded_iff := by rw [h.isStranded_iff, HostMove.Strands, or_iff_right hnot, hloses]

/-- **Handling a signal strands a host in the ways that are named**, and in no other. -/
theorem proceeds_signal {options : CommandOptions} {d : Debugger σ}
    (hwf : d.breakpoints.WellFormed) (htarget : d.target.isSome) :
    Proceeds options .signal d := by
  obtain ⟨hquiet, htaken⟩ := takeSignal_spec d
  have hrests : Rests d (takeSignal d).2 := hquiet.rests (by rw [hquiet.console])
  rcases htake : takeSignal d with ⟨_ | signal, d₁⟩
  · rw [htake] at hrests
    refine Rests.proceeds ?_ fun signal _ hsome => ?_
    · rw [HostMove.next, htake]
      exact hrests
    · rw [htake] at hsome
      cases hsome
  · have hopen := (isOpen_of_takeSignal htake).2
    rw [htake] at hrests hquiet
    have hsession : d₁.session.isSome := (Bool.and_eq_true_iff.1 hopen).2
    have hnext : HostMove.signal.next options d = (Reaction.sendStart (react signal d₁).2).2 := by
      rw [HostMove.next, htake]
      show (Reaction.sendStart (handle signal d₁).2).2 = _
      rw [handle_apply, if_pos hopen]
    have hanswers := answers_react (hquiet.breakpoints ▸ hwf) hsession
      (hrests.target ▸ htarget) signal
    have hall := (Answers.of_prepared hrests hanswers).trans_rests (rests_sendStart _)
    rw [← hnext] at hall
    refine hall.proceeds (not_isStranded_of_session (hrests.session ▸ hsession)) ?_
    rw [htake]
    simp

/-- **What strands a host.**  Every move keeps the host from being stranded, unless it is one of
those that strand it. -/
theorem proceeds_next {options : CommandOptions} {d : Debugger σ}
    (hwf : d.breakpoints.WellFormed) (htarget : d.target.isSome) (move : HostMove σ) :
    Proceeds options move d := by
  cases move with
  | signal => exact proceeds_signal hwf htarget
  | line text =>
    by_cases hopen : d.console.isOpen
    · have hnot : ¬d.IsStranded := fun h => Bool.false_ne_true (h.2.2.symm.trans hopen)
      have hnext : (HostMove.line text).next options d =
          (CommandLine.runLine (.builtin options) text d).2 := if_pos hopen
      have hanswers : Answers False d (CommandLine.runLine (.builtin options) text d).2 :=
        answers_runLine hwf htarget hopen
      rw [← hnext] at hanswers
      refine hanswers.proceeds hnot (iff_of_false id ?_)
      rintro ⟨_, hsignal, _⟩
      cases hsignal
    · refine Rests.proceeds ?_ fun _ hsignal => by cases hsignal
      have hnext : (HostMove.line text).next options d = d := if_neg hopen
      rw [hnext]
      exact .of_write d d.phase rfl
  | hear connection arrivals =>
    have hlasts := (Move.hear connection arrivals).lasts_next rfl d
    refine Rests.proceeds (hlasts.rests ?_) fun _ hsignal => by cases hsignal
    rw [Move.next]
    split_ifs <;> rfl
  | elsewhere change =>
    have hlasts := (Move.elsewhere change).lasts_next rfl d
    exact Rests.proceeds (hlasts.rests rfl) fun _ hsignal => by cases hsignal

/-! ### Runs of a host -/

/-- What happens on a host is made of moves of a debugger. -/
theorem reaches_next (options : CommandOptions) (move : HostMove σ) (d : Debugger σ) :
    Reaches (fun _ => true) d (move.next options d) := by
  have hnext (move : Move σ) (d : Debugger σ) : Reaches (fun _ => true) d (move.next d) :=
    .next move rfl d
  cases move with
  | signal =>
    have htake := hnext .take d
    rw [HostMove.next]
    rcases hrun : takeSignal d with ⟨_ | signal, d₁⟩
    · rw [Move.next, hrun] at htake
      exact htake
    · rw [Move.next, hrun] at htake
      exact trans_of _ htake
        (trans_of _ (hnext (.handle signal) d₁) (hnext .sendStart (handle signal d₁).2))
  | line text =>
    have hprompt (d : Debugger σ) : Reaches (fun _ => true) d
        { d with console := d.console.showPrompt } := by
      rw [Console.showPrompt]
      split_ifs
      · exact hnext (.write d.console.prompt) d
      · exact refl_of _ d
    have hsend (d : Debugger σ) := trans_of _ (hnext .sendStart d) (hprompt _)
    have hdispatch : Reaches (fun _ => true) d
        (((CommandTable.builtin options).dispatch text : Action σ Unit) d).2 := by
      rcases CommandTable.dispatch_builtin (σ := σ) options text with hrelaunch | hsteady
      · rw [hrelaunch]
        exact hnext (.operate .relaunch) d
      · exact (hsteady d).mono fun _ _ => rfl
    rw [HostMove.next]
    split_ifs
    · rw [CommandLine.runLine, Reaction.bind_apply, Reaction.run_apply]
      rcases hrun : ((CommandTable.builtin options).dispatch text : Action σ Unit) d with
        ⟨e | _, d'⟩ <;> rw [hrun] at hdispatch
      · exact trans_of _ hdispatch
          (trans_of _ (hnext (.write ("Error: " ++ e.message ++ "\n")) d') (hsend _))
      · exact trans_of _ hdispatch (hsend d')
    · exact refl_of _ d
  | hear connection arrivals => exact hnext (.hear connection arrivals) d
  | elsewhere change => exact hnext (.elsewhere change) d

end Debugger

open Debugger

variable [Environment σ]

/-- A run of a host is a run of its debugger, with a target. -/
theorem HostRun.run {options : CommandOptions} {history : List (Debugger σ × HostMove σ)}
    {d : Debugger σ} (h : HostRun options history d) :
    d.target.isSome ∧ ∃ steps, Run steps d := by
  induction h with
  | @start environment console suppressed target hlaunch =>
    have htarget : (launch target { environment, console, suppressed }).2.target = some target := by
      rw [launch_apply]
      exact (relaunch_spec rfl).target
    refine ⟨?_, (Run.start environment console suppressed).exists_history
      [.operate (.launch target), .sendStart]⟩
    rw [(calm_sendStart _).target, htarget]
    rfl
  | @step history d _ move ih =>
    obtain ⟨htarget, steps, hrun⟩ := ih
    have hproceeds : Proceeds options move d := proceeds_next hrun.isTold.wellFormed htarget move
    obtain ⟨moves, _, hmoves⟩ := reaches_next options move d
    exact ⟨hproceeds.target ▸ htarget, hmoves ▸ hrun.exists_history moves⟩

/-- **A host is stranded just if one of its moves has stranded it**, and then for ever. -/
theorem HostRun.stranded_iff {options : CommandOptions}
    {history : List (Debugger σ × HostMove σ)} {d : Debugger σ}
    (h : HostRun options history d) :
    (d.IsStranded ↔ ∃ step ∈ history, step.2.Strands options step.1) ∧
      (d.IsStranded → ∀ move : HostMove σ, (move.next options d).IsStranded) := by
  have hproceeds {history : List (Debugger σ × HostMove σ)} {d : Debugger σ}
      (h : HostRun options history d) (move : HostMove σ) : Proceeds options move d := by
    obtain ⟨htarget, _, hrun⟩ := h.run
    exact proceeds_next hrun.isTold.wellFormed htarget move
  refine ⟨?_, fun hstranded move => (hproceeds h move).isStranded_iff.2 (.inl hstranded)⟩
  induction h with
  | @start environment console suppressed target hlaunch =>
    refine iff_of_false (not_isStranded_of_session ?_) fun ⟨_, hmem, _⟩ =>
      List.not_mem_nil hmem
    rw [launch_apply] at hlaunch ⊢
    rw [(calm_sendStart _).session]
    exact session_of_relaunch hlaunch
  | @step history d hrun move ih =>
    rw [(hproceeds hrun move).isStranded_iff, ih, List.exists_mem_cons_iff, or_comm]

/-- A run it speaks of: the stream of a launched adapter ends before the prompt was ever open. -/
theorem HostRun.stranded_iff_scripted :
    let begun := (Debugger.launch Script.launched (Script.rehearse {})).2
    let run := HostMove.steps {} [.hear 1 { ended := true }, .signal] []
      (Reaction.sendStart begun).2
    run.2.IsStranded ∧ ∃ step ∈ run.1, step.2.Strands {} step.1 := by
  intro begun run
  have hrun : HostRun {} run.1 run.2 := (HostRun.start rfl).steps _
  have hstranded : run.2.IsStranded := by decide +kernel
  exact ⟨hstranded, (HostRun.stranded_iff hrun).1.1 hstranded⟩

/-- A host can be stranded: the program has exited and its adapter cannot be started again. -/
theorem HostRun.strandable : ¬∀ (history : List (Debugger Script × HostMove Script))
    (d : Debugger Script), HostRun {} history d →
      d.session.isSome ∨ d.shutdownRequested ∨ d.console.isOpen := by
  intro h
  let script : Script :=
    { entries := [("connect", [{}, { answer := .refusal (.refused "no adapter") }])] }
  let begun := (Debugger.launch Script.launched (Script.rehearse script)).2
  let run := HostMove.steps {} [.hear 1 { events := [.exited ⟨0⟩] }, .signal] []
    (Reaction.sendStart begun).2
  have hrun : HostRun {} run.1 run.2 := (HostRun.start rfl).steps _
  have hstranded : ¬(run.2.session.isSome ∨ run.2.shutdownRequested ∨ run.2.console.isOpen) := by
    decide +kernel
  exact hstranded (h _ _ hrun)

end DebugConsole
