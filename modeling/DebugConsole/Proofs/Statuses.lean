/-
# What the phase says of the threads

Phase and threads are kept apart: stops and continuations are reported for both, but a list of
threads, or a thread that exits, changes the threads alone.  A debugger is vacant when the program
counts as stopped and no known thread has stopped, and strained when it counts as running and some
thread has stopped.

| what happens to the threads | while the program counts as stopped |
| --- | --- |
| some stop | not all run |
| some run again | it counts as running as soon as all do |
| one starts: the adapter lists all of them anew | vacant, as all are taken to run |
| one starts, and the adapter does not list them | as before, but for that one |
| one exits | vacant, if all the others run |
| all stop, and none is known or listed | vacant |

A debugger becomes vacant in no other way (`Step.Vacates`), and it becomes strained only where a
configuration passes over threads that have stopped (`Step.Overlooks`).
-/

import DebugConsole.Proofs.Prompt
import DebugConsole.Proofs.Threads

namespace DebugConsole

open Protocol

variable {σ α : Type}

namespace Threads

/-- The first match is changed where it stands. -/
theorem find?_changeFirst {p : Thread → Bool} {f : Thread → Thread}
    (hf : ∀ t, p (f t) = p t) (list : List Thread) :
    (changeFirst p f list).find? p = (list.find? p).map f := by
  induction list with
  | nil => rfl
  | cons t rest ih =>
    rw [changeFirst]
    cases hp : p t with
    | true =>
      rw [if_pos rfl, List.find?_cons_of_pos ((hf t).trans hp), List.find?_cons_of_pos hp]
      rfl
    | false =>
      rw [if_neg Bool.false_ne_true, List.find?_cons_of_neg (by simp [hp]),
        List.find?_cons_of_neg (by simp [hp]), ih]

/-- A thread that was heard of is known afterwards. -/
theorem find?_ensureKnown (ts : Threads) (id : Int64) : ((ts.ensureKnown id).find? id).isSome := by
  unfold ensureKnown
  cases hfind : ts.find? id with
  | some t =>
    dsimp only
    rw [hfind]
    rfl
  | none =>
    have hadded : ts.insert (placeholderThread id) =
        { ts with list := ts.list ++ [placeholderThread id] } := by
      rw [insert, show ts.find? (placeholderThread id).id = none from hfind]
    rw [hadded, find?, List.find?_isSome]
    exact ⟨placeholderThread id, List.mem_append_right _ List.mem_cons_self, by
      simp [placeholderThread]⟩

/-- Clearing a selected frame removes no thread. -/
theorem find?_clearFrame {ts : Threads} {id : Int64} (h : (ts.find? id).isSome) :
    (((ts.clearFrame id).toOption.getD ts).find? id).isSome := by
  unfold clearFrame update
  cases hfind : ts.find? id with
  | none =>
    rw [hfind] at h
    cases h
  | some t =>
    have hkept := find?_changeFirst (p := (·.id = id))
      (f := fun t => { t with selectedFrame := none }) (fun _ => rfl) ts.list
    exact (congrArg Option.isSome hkept).trans (Option.isSome_map.trans h)

/-- A thread that is changed to fail a test makes the whole list fail it. -/
theorem all_changeFirst_eq_false {p q : Thread → Bool} {f : Thread → Thread}
    (hf : ∀ t, q (f t) = false) {list : List Thread} (h : (list.find? p).isSome) :
    (changeFirst p f list).all q = false := by
  induction list with
  | nil => cases h
  | cons t rest ih =>
    rw [changeFirst]
    cases hp : p t with
    | true => rw [if_pos rfl, List.all_cons, hf, Bool.false_and]
    | false =>
      rw [List.find?_cons_of_neg (by simp [hp])] at h
      rw [if_neg Bool.false_ne_true, List.all_cons, ih h, Bool.and_false]

/-- A known thread that has stopped is not running. -/
theorem allRunning_markStopped {ts : Threads} {id : Int64} (h : (ts.find? id).isSome) :
    ((ts.markStopped id).toOption.getD ts).allRunning = false := by
  unfold markStopped update
  cases hfind : ts.find? id with
  | none =>
    rw [hfind] at h
    cases h
  | some t =>
    exact all_changeFirst_eq_false (p := (·.id = id))
      (f := fun t => { t with running := false }) (fun _ => rfl) h

theorem isEmpty_statuses (ts : Threads) : ts.statuses.isEmpty = ts.isEmpty := List.isEmpty_map

/-- When every thread has stopped, all of them run just if none is known. -/
theorem allRunning_markAllStopped (ts : Threads) :
    ts.markAllStopped.clearAllFrames.allRunning = ts.isEmpty := by
  rw [allRunning_eq, statuses_clearAllFrames]
  obtain ⟨list, focusId⟩ := ts
  cases list <;> rfl

/-- Stopping all threads adds and removes none. -/
theorem isEmpty_markAllStopped (ts : Threads) :
    ts.markAllStopped.clearAllFrames.isEmpty = ts.isEmpty := by
  rw [← isEmpty_statuses, statuses_clearAllFrames]
  obtain ⟨list, focusId⟩ := ts
  cases list <;> rfl

/-- Where a thread is found there is one. -/
theorem isEmpty_of_find? {ts : Threads} {id : Int64} (h : (ts.find? id).isSome) :
    ts.isEmpty = false := by
  obtain ⟨t, ht, -⟩ := List.find?_isSome.1 h
  rw [isEmpty, List.isEmpty_eq_false_iff]
  exact List.ne_nil_of_mem ht

end Threads

namespace Debugger

/-- The program counts as running although some thread has stopped. -/
def IsStrained (d : Debugger σ) : Prop :=
  d.session.isSome ∧ d.phase = .running ∧ d.threads.allRunning = false

/-- The program counts as stopped although no known thread has. -/
def IsVacant (d : Debugger σ) : Prop :=
  d.session.isSome ∧ d.phase = .stopped ∧ d.threads.allRunning

/-- Who is strained or vacant now was so before, on the same connection. -/
structure Aligns (d d' : Debugger σ) : Prop where
  strained : d'.IsStrained → d.IsStrained ∧ d'.generation = d.generation
  vacant : d'.IsVacant → d.IsVacant ∧ d'.generation = d.generation

instance : IsPreorder (Debugger σ) Aligns where
  refl _ := ⟨fun h => ⟨h, rfl⟩, fun h => ⟨h, rfl⟩⟩
  trans _ _ _ h₁ h₂ := {
    strained := fun h =>
      have h₂ := h₂.strained h
      have h₁ := h₁.strained h₂.1
      ⟨h₁.1, h₂.2.trans h₁.2⟩
    vacant := fun h =>
      have h₂ := h₂.vacant h
      have h₁ := h₁.vacant h₂.1
      ⟨h₁.1, h₂.2.trans h₁.2⟩ }

/-- Without a session a program is neither strained nor vacant. -/
theorem Aligns.of_session_none {d d' : Debugger σ} (h : d'.session = none) : Aligns d d' where
  strained hd' := by
    rw [IsStrained, h] at hd'
    cases hd'.1
  vacant hd' := by
    rw [IsVacant, h] at hd'
    cases hd'.1

/-- A program that neither runs nor stands is neither strained nor vacant. -/
theorem Aligns.of_not_live {d d' : Debugger σ} (h : d'.phase.isLive = false) : Aligns d d' where
  strained hd' := by
    rw [hd'.2.1] at h
    cases h
  vacant hd' := by
    rw [hd'.2.1] at h
    cases h

/-- Phase and session are the same, and no thread was stopped or resumed. -/
structure Selects (d d' : Debugger σ) : Prop where
  session : d'.session.isSome = d.session.isSome
  phase : d'.phase = d.phase
  threads : d'.threads.statuses = d.threads.statuses
  generation : d'.generation = d.generation

instance : IsPreorder (Debugger σ) Selects where
  refl _ := ⟨rfl, rfl, rfl, rfl⟩
  trans _ _ _ h₁ h₂ := {
    session := h₂.session.trans h₁.session
    phase := h₂.phase.trans h₁.phase
    threads := h₂.threads.trans h₁.threads
    generation := h₂.generation.trans h₁.generation }

theorem Selects.allRunning_eq {d d' : Debugger σ} (h : Selects d d') :
    d'.threads.allRunning = d.threads.allRunning := by
  rw [Threads.allRunning_eq, Threads.allRunning_eq, h.threads]

theorem Selects.isEmpty_eq {d d' : Debugger σ} (h : Selects d d') :
    d'.threads.isEmpty = d.threads.isEmpty := by
  rw [← Threads.isEmpty_statuses, ← Threads.isEmpty_statuses, h.threads]

/-- Selecting a frame or the focus strains nothing and eases nothing. -/
theorem Selects.isStrained_iff {d d' : Debugger σ} (h : Selects d d') :
    d'.IsStrained ↔ d.IsStrained := by
  rw [IsStrained, IsStrained, h.session, h.phase, h.allRunning_eq]

/-- Neither does it leave the list vacant or fill it. -/
theorem Selects.isVacant_iff {d d' : Debugger σ} (h : Selects d d') :
    d'.IsVacant ↔ d.IsVacant := by
  rw [IsVacant, IsVacant, h.session, h.phase, h.allRunning_eq]

/-- What only selects keeps the phase in line with the threads. -/
theorem Selects.aligns {d d' : Debugger σ} (h : Selects d d') : Aligns d d' :=
  ⟨fun hd' => ⟨h.isStrained_iff.1 hd', h.generation⟩,
    fun hd' => ⟨h.isVacant_iff.1 hd', h.generation⟩⟩

/-- A change of what neither phase nor threads depend on. -/
theorem Aligns.of_eq {d d' : Debugger σ} (hsession : d'.session = d.session)
    (hphase : d'.phase = d.phase) (hthreads : d'.threads = d.threads)
    (hgeneration : d'.generation = d.generation) : Aligns d d' :=
  Selects.aligns ⟨by rw [hsession], hphase, by rw [hthreads], hgeneration⟩

variable [Environment σ]

/-- What leaves the session steady selects at most. -/
theorem Steady.selects {d d' : Debugger σ} (h : Steady d d') : Selects d d' :=
  ⟨h.session, h.phase, by rw [h.threads], h.generation⟩

/-- A request leaves the statuses of the threads alone. -/
theorem selects_send (call : Call α) : Action.Within Selects (Action.send call : Action σ α) :=
  fun d => (steady_send call d).selects

instance : AdmitsSelections (Selects (σ := σ)) where
  session h := h.session
  asks _ := ⟨Option.isSome_map, rfl, rfl, rfl⟩
  notes _ _ _ _ _ := ⟨rfl, rfl, rfl, rfl⟩
  canonical _ _ := ⟨rfl, rfl, rfl, rfl⟩
  selection hthreads := ⟨rfl, rfl, hthreads, rfl⟩

instance : AdmitsLookUps (Selects (σ := σ)) :=
  admitsLookUps_of_keep (fun _ _ => ⟨rfl, rfl, rfl, rfl⟩) (fun _ => (selects_send _).inSession)
    fun _ _ => ⟨rfl, rfl, rfl, rfl⟩

/-! ### Continuations -/

omit [Environment σ] in
/-- A program of which all threads run is not taken to be stopped any longer. -/
theorem aligns_noteContinued (threadId : Int64) (allThreads : Bool) :
    Reaction.Within Aligns (noteContinued threadId allThreads : Reaction σ Unit) := fun d => by
  have hrest (threads : Threads) (hthreads : d.threads.allRunning → threads.allRunning) :
      Aligns d ((do
        let d ← get
        if d.threads.allRunning then
          if d.phase = .stopped then Reaction.enter .running
          Reaction.closeInput : Reaction σ Unit) { d with threads }).2 := by
    rw [Reaction.bind_apply, Reaction.get_apply]
    dsimp only
    cases hall : threads.allRunning with
    | false =>
      have hbefore : d.threads.allRunning = false := by
        rw [← Bool.not_eq_true]
        intro hd
        rw [hthreads hd] at hall
        cases hall
      refine ⟨fun hd' => ⟨⟨hd'.1, hd'.2.1, hbefore⟩, rfl⟩, fun hd' => ?_⟩
      exact absurd (hall.symm.trans hd'.2.2) (by decide)
    | true =>
      rw [if_pos rfl]
      split
      · refine ⟨fun hd' => ?_, fun hd' => by cases hd'.2.1⟩
        exact absurd (hall.symm.trans hd'.2.2) (by decide)
      · rename_i hphase
        refine ⟨fun hd' => ?_, fun hd' => absurd hd'.2.1 hphase⟩
        exact absurd (hall.symm.trans hd'.2.2) (by decide)
  unfold noteContinued
  cases allThreads with
  | true => exact hrest _ fun _ => d.threads.allRunning_markAllRunning
  | false => exact hrest _ (Threads.allRunning_markRunning threadId)

/-- Continuing takes the threads and the phase along together. -/
theorem aligns_continueRunning : Action.Within Aligns (continueRunning : Action σ Unit) := by
  refine Action.within_bind (Action.within_requireSession _) fun _ =>
    Action.within_bind (fun d => (within_activeThread (R := Selects) d).aligns) fun _ =>
      Action.within_bind (fun d => (selects_send _ d).aligns) fun _ => ?_
  exact Action.within_react (aligns_noteContinued _ _)

/-! ### Stops -/

/-- What a report of a stop does to the threads. -/
structure Notes (body : StoppedBody) (d d' : Debugger σ) : Prop where
  session : d'.session.isSome = d.session.isSome
  phase : d'.phase = d.phase
  generation : d'.generation = d.generation
  /-- A thread that is named has stopped. -/
  named : body.threadId.isSome → d'.threads.allRunning = false
  /-- Where all have stopped, none runs; there may be none. -/
  all : body.allThreadsStopped → d'.threads.allRunning = d'.threads.isEmpty ∧
    (d.threads.isEmpty = false → d'.threads.isEmpty = false)
  /-- A report that says neither is ignored. -/
  ignored : body.allThreadsStopped = false → body.threadId = none → d'.threads = d.threads

/-- When all threads have stopped, the adapter is asked for them if none is known. -/
theorem noteStopped_of_all {body : StoppedBody} (h : body.allThreadsStopped) (d : Debugger σ) :
    noteStopped body d =
      let d₁ := if d.threads.isEmpty then (refreshThreads d).2 else d
      let threads := body.threadId.elim d₁.threads d₁.threads.ensureKnown
      (true, { d₁ with threads := threads.markAllStopped.clearAllFrames }) := by
  unfold noteStopped
  rw [if_pos h, Reaction.bind_apply, Reaction.get_apply]
  dsimp only
  cases d.threads.isEmpty <;> cases body.threadId <;> rfl

/-- A stop of one thread clears its frame and marks it, known or not. -/
theorem noteStopped_of_named {body : StoppedBody} (h : body.allThreadsStopped = false) {id : Int64}
    (hid : body.threadId = some id) (d : Debugger σ) : noteStopped body d =
      let cleared := ((d.threads.ensureKnown id).clearFrame id).toOption.getD
        (d.threads.ensureKnown id)
      (true, { d with threads := (cleared.markStopped id).toOption.getD cleared }) := by
  unfold noteStopped
  rw [if_neg (Bool.eq_false_iff.1 h), hid]
  rfl

/-- A stop that names no thread and is not of all is only complained about. -/
theorem noteStopped_of_ignored {body : StoppedBody} (h : body.allThreadsStopped = false)
    (hid : body.threadId = none) (d : Debugger σ) : noteStopped body d =
      (false, { d with
        console := d.console.writeLine "stop event with no thread information ignored." }) := by
  unfold noteStopped
  rw [if_neg (Bool.eq_false_iff.1 h), hid]
  rfl

/-- **What taking note of a stop does**, whichever threads it names. -/
theorem noteStopped_spec (body : StoppedBody) (d : Debugger σ) :
    (noteStopped body d).1 = (body.allThreadsStopped || body.threadId.isSome) ∧
      Notes body d (noteStopped body d).2 := by
  cases hall : body.allThreadsStopped with
  | true =>
    rw [noteStopped_of_all hall]
    dsimp only
    -- all that counts of the threads that are asked for is whether there are any
    generalize hasked : (if d.threads.isEmpty then (refreshThreads d).2 else d) = d₁
    have hlooks : Looks d d₁ := by
      rw [← hasked]
      split_ifs
      · exact within_refreshThreads (R := Looks) d
      · exact refl_of Looks d
    have hknown : d.threads.isEmpty = false → d₁.threads.isEmpty = false := by
      intro hempty
      rw [← hasked, if_neg (Bool.eq_false_iff.1 hempty)]
      exact hempty
    have hnamed (id : Int64) : (d₁.threads.ensureKnown id).isEmpty = false :=
      Threads.isEmpty_of_find? (d₁.threads.find?_ensureKnown id)
    refine ⟨rfl, hlooks.session, hlooks.phase, hlooks.generation, fun hsome => ?_,
      fun _ => ⟨?_, ?_⟩, fun hnone => ?_⟩
    · obtain ⟨id, hid⟩ := Option.isSome_iff_exists.1 hsome
      rw [hid]
      exact (Threads.allRunning_markAllStopped _).trans (hnamed id)
    · dsimp only
      rw [Threads.allRunning_markAllStopped, Threads.isEmpty_markAllStopped]
    · intro hempty
      dsimp only
      rw [Threads.isEmpty_markAllStopped]
      cases body.threadId with
      | none => exact hknown hempty
      | some id => exact hnamed id
    · rw [hall] at hnone
      cases hnone
  | false =>
    have hnone : ¬body.allThreadsStopped := Bool.eq_false_iff.1 hall
    cases hid : body.threadId with
    | none =>
      rw [noteStopped_of_ignored hall hid]
      refine ⟨rfl, rfl, rfl, rfl, fun hsome => ?_, fun h => absurd h hnone, fun _ _ => rfl⟩
      rw [hid] at hsome
      cases hsome
    | some id =>
      rw [noteStopped_of_named hall hid]
      -- the thread that is named is known from now on, so the list has one that stands
      have hcleared := Threads.find?_clearFrame (d.threads.find?_ensureKnown id)
      refine ⟨rfl, rfl, rfl, rfl, fun _ => Threads.allRunning_markStopped hcleared,
        fun h => absurd h hnone, fun _ h => ?_⟩
      rw [hid] at h
      cases h

/-- Showing where a thread stands resumes none. -/
theorem selects_showStop (threadId : Option Int64) :
    Reaction.Within Selects (showStop threadId : Reaction σ Unit) := by
  have hconsole (f : Console → Console) : Reaction.Within Selects
      (Reaction.onConsole f : Reaction σ Unit) := fun _ => ⟨rfl, rfl, rfl, rfl⟩
  have hfocus (id : Int64) : Reaction.Within Selects
      (Reaction.onThreads fun ts => (ts.setFocus id).toOption.getD ts : Reaction σ Unit) := by
    intro d
    refine ⟨rfl, rfl, ?_, rfl⟩
    show ((d.threads.setFocus id).toOption.getD d.threads).statuses = _
    cases hset : d.threads.setFocus id with
    | error e => rfl
    | ok threads => exact Threads.statuses_setFocus hset
  refine Reaction.within_bind Reaction.within_get fun d => ?_
  split
  · exact hconsole _
  · refine Reaction.within_bind (hfocus _) fun _ => ?_
    refine Reaction.within_bind (fun d => within_topOfStack _ d) fun top => ?_
    split
    · exact Reaction.within_bind (hconsole _) fun _ => hconsole _
    · exact hconsole _

/-- What is done about a stop: the threads are marked, the program counts as stopped if it was
running, and on the first stop it is shown where it stands. -/
theorem onStopped_spec (body : StoppedBody) (d : Debugger σ) : ∃ d₁, Notes body d d₁ ∧
    Selects (if body.allThreadsStopped || body.threadId.isSome then
      { d₁ with phase := if d₁.phase = .running then .stopped else d₁.phase } else d₁)
      (onStopped body d).2 := by
  -- the description leaves everything alone that counts here
  have hrest (console : Console) : ∃ d₁, Notes body d d₁ ∧
      Selects (if body.allThreadsStopped || body.threadId.isSome then
        { d₁ with phase := if d₁.phase = .running then .stopped else d₁.phase } else d₁)
      ((do
        let firstStop := (← get).threads.allRunning
        if ← noteStopped body then
          if (← get).phase = .running then Reaction.enter .stopped
          if firstStop then showStop body.threadId : Reaction σ Unit) { d with console }).2 := by
    obtain ⟨hnoted, hnotes⟩ := noteStopped_spec body { d with console }
    refine ⟨_, ⟨hnotes.session, hnotes.phase, hnotes.generation, hnotes.named, hnotes.all,
      hnotes.ignored⟩, ?_⟩
    rw [Reaction.bind_apply, Reaction.get_apply]
    dsimp only
    rw [Reaction.bind_apply, hnoted]
    split
    · rw [Reaction.bind_apply, Reaction.get_apply]
      dsimp only
      split
      · cases d.threads.allRunning with
        | true => exact selects_showStop body.threadId _
        | false => exact refl_of Selects _
      · cases d.threads.allRunning with
        | true => exact selects_showStop body.threadId _
        | false => exact refl_of Selects _
    · exact refl_of Selects _
  unfold onStopped
  cases body.description with
  | none => exact hrest d.console
  | some description => exact hrest (d.console.writeLine description)

/-! ### Threads that come and go -/

/-- When a thread starts the adapter is asked for all of them; those that it lists are taken to
run. -/
theorem onThread_started {body : ThreadBody} (h : body.reason = "started") {d : Debugger σ}
    (hsession : d.session.isSome) :
    let d' := (onThread body d).2
    d'.session.isSome ∧ d'.phase = d.phase ∧ d'.generation = d.generation ∧
      ∃ answer, d'.exchanges.head? = some (.request (Call.threads.on d.generation) answer) ∧
        d'.threads.allRunning = ((Call.threads.result answer).isOk ||
          (d.threads.insert (placeholderThread body.threadId)).allRunning) := by
  have hasked : (onThread body d).2 = (refreshThreads { d with
      threads := d.threads.insert (placeholderThread body.threadId) }).2 := by
    unfold onThread
    rw [if_pos h]
    rfl
  obtain ⟨answer, d₁, hsteady, hexchanges, hresult⟩ := refreshThreads_cases (d := { d with
    threads := d.threads.insert (placeholderThread body.threadId) }) hsession
  have hhead : d₁.exchanges.head? = some (.request (Call.threads.on d.generation) answer) := by
    rw [hexchanges]
    rfl
  dsimp only
  rw [hasked]
  split at hresult
  · rename_i hlisted
    obtain ⟨threads, hall, heq⟩ := hresult
    rw [heq]
    refine ⟨hsteady.session.trans hsession, hsteady.phase, hsteady.generation, answer, hhead, ?_⟩
    rw [hlisted, Bool.true_or]
    exact hall
  · rename_i hrefused
    rw [hresult]
    refine ⟨hsteady.session.trans hsession, hsteady.phase, hsteady.generation, answer, hhead, ?_⟩
    rw [Bool.eq_false_iff.2 hrefused, Bool.false_or, hsteady.threads]

omit [Environment σ] in
/-- A thread that runs may be forgotten. -/
theorem isStrained_of_remove {d : Debugger σ} {id : Int64}
    (h : { d with threads := d.threads.remove id }.IsStrained) : d.IsStrained := by
  refine ⟨h.1, h.2.1, ?_⟩
  rw [← Bool.not_eq_true]
  intro hall
  have hremoved : (d.threads.remove id).allRunning = false := h.2.2
  rw [Threads.allRunning_remove id hall] at hremoved
  cases hremoved

end Debugger

open Debugger

variable [Environment σ]

/-! ### Which steps leave a debugger vacant or strained -/

/-- Does a step leave no thread stopped of a program that counts as stopped?  A list that the
adapter gives replaces what was known, a thread that exits is forgotten, and all threads may stop
where none is known. -/
def Step.Vacates (step : Step σ) : Prop :=
  let d := step.before
  match step.move with
  | .handle (.event connection (.thread body)) =>
    d.isOpen connection ∧ d.phase = .stopped ∧
      (body.reason = "started" ∧ (∃ answer,
          step.after.exchanges.head? = some (.request (Call.threads.on d.generation) answer) ∧
            ((Call.threads.result answer).isOk ||
              (d.threads.insert (placeholderThread body.threadId)).allRunning)) ∨
        body.reason = "exited" ∧ (d.threads.remove body.threadId).allRunning)
  | .handle (.event connection (.stopped body)) =>
    d.isOpen connection ∧ d.phase.isLive ∧ body.allThreadsStopped ∧ body.threadId = none ∧
      d.threads.isEmpty ∧ step.after.threads.isEmpty
  | _ => False

/-- Does a configuration that is begun after threads have stopped end without a list of them? -/
def Step.Overlooks (step : Step σ) : Prop :=
  step.Blinds ∨
    step.before.threads.allRunning = false ∧ ∃ e, step.configuration? = some (.error e)

/-- Has a step of a kind been made since which every debugger was in such a state, on the same
connection? -/
def Since (kind : Step σ → Prop) (state : Debugger σ → Prop) : List (Step σ) → Prop
  | [] => False
  | step :: history => kind step ∨
    (state step.before ∧ step.after.generation = step.before.generation ∧
      Since kind state history)

namespace Debugger

/-- Who is strained or vacant after a move has been left so by it, or was so before. -/
structure Explains (d : Debugger σ) (move : Move σ) (d' : Debugger σ) : Prop where
  strained : d'.IsStrained →
    Step.Overlooks ⟨d, move⟩ ∨ d.IsStrained ∧ d'.generation = d.generation
  vacant : d'.IsVacant → Step.Vacates ⟨d, move⟩ ∨ d.IsVacant ∧ d'.generation = d.generation

/-- Where a program was strained or vacant before, nothing more is to be explained. -/
theorem Aligns.explains {d d' : Debugger σ} (h : Aligns d d') (move : Move σ) :
    Explains d move d' :=
  ⟨fun hd' => .inr (h.strained hd'), fun hd' => .inr (h.vacant hd')⟩

/-- A signal that reaches no session changes nothing. -/
theorem explains_handle {signal : Signal} {d : Debugger σ}
    (h : d.isOpen signal.generation → (handle signal d).2 = (react signal d).2 →
      Explains d (.handle signal) (react signal d).2) :
    Explains d (.handle signal) ((Move.handle signal).next d) := by
  rw [Move.next]
  cases hopen : d.isOpen signal.generation with
  | true =>
    have heq : (handle signal d).2 = (react signal d).2 := by
      rw [handle_apply, hopen]
      rfl
    rw [heq]
    exact h hopen heq
  | false =>
    rw [handle_apply, hopen]
    exact (refl_of Aligns d).explains _

/-- The step of a signal is in line where its handler is. -/
theorem aligns_handle {signal : Signal} {d : Debugger σ} (h : Aligns d (react signal d).2) :
    Explains d (.handle signal) ((Move.handle signal).next d) :=
  explains_handle fun _ _ => h.explains _

/-- A report about a thread strains nothing, and leaves a program vacant in named ways only. -/
theorem explains_onThread {connection : Nat} (body : ThreadBody) {d : Debugger σ}
    (hopen : d.isOpen connection)
    (hnext : (handle (.event connection (.thread body)) d).2 = (onThread body d).2) :
    Explains d (.handle (.event connection (.thread body))) (onThread body d).2 := by
  by_cases hstarted : body.reason = "started"
  · have hsession : d.session.isSome := (Bool.and_eq_true_iff.1 hopen).2
    obtain ⟨-, hphase, hgeneration, answer, hhead, hthreads⟩ := onThread_started hstarted hsession
    refine ⟨fun hd' => .inr ⟨⟨hsession, hphase.symm.trans hd'.2.1, ?_⟩, hgeneration⟩,
      fun hd' => .inl ⟨hopen, hphase.symm.trans hd'.2.1, .inl ⟨hstarted, answer, ?_, ?_⟩⟩⟩
    · -- a thread that starts is taken to run, so another one has stopped
      have hinserted := hthreads.symm.trans hd'.2.2
      rw [Bool.or_eq_false_iff] at hinserted
      rw [← Bool.not_eq_true]
      intro hall
      have hrunning : (d.threads.insert (placeholderThread body.threadId)).allRunning :=
        Threads.allRunning_insert rfl hall
      rw [hinserted.2] at hrunning
      cases hrunning
    · exact (congrArg (·.exchanges.head?) hnext).trans hhead
    · exact hthreads.symm.trans hd'.2.2
  by_cases hexited : body.reason = "exited"
  · have hremoved : (onThread body d).2 =
        { d with threads := d.threads.remove body.threadId } := by
      unfold onThread
      rw [if_neg hstarted, if_pos hexited]
      rfl
    rw [hremoved]
    exact ⟨fun hd' => .inr ⟨isStrained_of_remove hd', rfl⟩,
      fun hd' => .inl ⟨hopen, hd'.2.1, .inr ⟨hexited, hd'.2.2⟩⟩⟩
  · have hsame : (onThread body d).2 = d := by
      unfold onThread
      rw [if_neg hstarted, if_neg hexited]
      rfl
    rw [hsame]
    exact (refl_of Aligns d).explains _

/-- A report of a stop that leaves no thread is the one that names none. -/
theorem explains_onStopped {connection : Nat} (body : StoppedBody) {d : Debugger σ}
    (hopen : d.isOpen connection)
    (hnext : (handle (.event connection (.stopped body)) d).2 = (onStopped body d).2) :
    Explains d (.handle (.event connection (.stopped body))) (onStopped body d).2 := by
  obtain ⟨d₁, hnotes, hselects⟩ := onStopped_spec body d
  split at hselects
  · rename_i hnamed
    have hgeneration : (onStopped body d).2.generation = d.generation :=
      hselects.generation.trans hnotes.generation
    refine ⟨fun hd' => ?_, fun hd' => ?_⟩
    · -- a program that stops does not count as running
      have hphase := hselects.phase.symm.trans hd'.2.1
      dsimp only at hphase
      split at hphase
      · cases hphase
      · rename_i hne
        exact absurd hphase hne
    · have hrunning : d₁.threads.allRunning := hselects.allRunning_eq.symm.trans hd'.2.2
      have hunnamed : body.threadId = none := by
        rw [← Option.not_isSome_iff_eq_none]
        intro hsome
        rw [hnotes.named hsome] at hrunning
        cases hrunning
      have hall : body.allThreadsStopped := by
        rw [hunnamed, Option.isSome_none, Bool.or_false] at hnamed
        exact hnamed
      obtain ⟨hnone, hknown⟩ := hnotes.all hall
      have hempty : d₁.threads.isEmpty := hnone.symm.trans hrunning
      have hlive : d.phase.isLive := by
        have hphase := hselects.phase.symm.trans hd'.2.1
        rw [hnotes.phase] at hphase
        cases hd : d.phase <;> rw [hd] at hphase <;> first | rfl | cases hphase
      refine .inl ⟨hopen, hlive, hall, hunnamed, ?_, ?_⟩
      · rw [← Bool.not_eq_false]
        intro hbefore
        rw [hknown hbefore] at hempty
        cases hempty
      · exact (congrArg (·.threads.isEmpty) hnext).trans (hselects.isEmpty_eq.trans hempty)
  · -- nothing is done about a report that says nothing
    rename_i hnamed
    rw [Bool.or_eq_true, not_or, Bool.not_eq_true, Option.not_isSome_iff_eq_none] at hnamed
    have hignored := hnotes.ignored hnamed.1 hnamed.2
    have hsame : Selects d d₁ :=
      ⟨hnotes.session, hnotes.phase, congrArg Threads.statuses hignored, hnotes.generation⟩
    exact (trans_of Selects hsame hselects).aligns.explains _

/-- A configuration leaves the program running; threads that have stopped before it stay so unless
the adapter lists them. -/
theorem explains_configuration {d : Debugger σ} (hwf : d.breakpoints.WellFormed) {move : Move σ}
    {outcome : Except Error Unit} (h : Step.configuration? ⟨d, move⟩ = some outcome) :
    Explains d move (move.next d) := by
  have hattempts := attempts_of_configuration? hwf h
  refine ⟨fun hd' => .inl ?_, fun hd' => ?_⟩
  · cases outcome with
    -- a program that stands after a configuration that succeeds was blinded by it
    | ok _ => exact .inl ((blinds_iff hwf).2 ⟨h, hd'.2.2⟩)
    | error e =>
      have hlaunches : d.launches := by
        have hsession := hattempts.session.symm.trans hd'.1
        rwa [show (Except.error e : Except Error Unit).isOk = false from rfl, Bool.false_or]
          at hsession
      -- where it fails, only a launched session is still open
      rcases cases_of_configuration? h with ⟨rfl, hphase, -, hsession, hresult⟩ |
        ⟨connection, -, -, hattaches, -⟩
      · have hnext : (Move.operate .run : Move σ).next d = (configure d).2 := by
          show (Debugger.run d).2 = _
          rw [run_apply, if_pos ⟨hphase, hlaunches⟩]
        have hstopped := hd'.2.2
        obtain ⟨d₁, hsteady, ⟨e', heq⟩ | ⟨answer, threads, -, -, heq⟩⟩ :=
          configure_cases hwf hsession
        · rw [hnext, heq, hsteady.threads] at hstopped
          exact .inr ⟨hstopped, e, h⟩
        · rw [heq] at hresult
          cases hresult
      · rw [launches_of_attaches hattaches] at hlaunches
        cases hlaunches
  · have hphase := hattempts.phase
    rw [hd'.2.1] at hphase
    cases hphase

/-! ### Moves -/

/-- A relaunch starts over with no threads. -/
theorem aligns_relaunch (d : Debugger σ) : Aligns d (relaunch d).2 := by
  rcases Option.eq_none_or_eq_some d.target with htarget | ⟨target, htarget⟩
  · rw [relaunch_of_no_target htarget]
    exact refl_of Aligns d
  · refine .of_not_live ?_
    rw [(relaunch_spec (by rw [htarget]; rfl)).phase]
    rfl

/-- So does what follows on the end of a target. -/
theorem aligns_onTargetGone {d : Debugger σ} (console : Console) :
    Aligns d (onTargetGone { d with phase := .terminated, console }).2 := by
  have hgone : Aligns d { d with phase := .terminated, console } := .of_not_live rfl
  rcases onTargetGone_cases { d with phase := .terminated, console } with
    ⟨-, heq⟩ | ⟨-, heq⟩ | ⟨htarget, -, text, heq⟩ <;> rw [heq]
  · exact hgone
  · exact .of_not_live rfl
  · exact .of_not_live (by dsimp only; rw [(relaunch_spec htarget).phase]; rfl)

/-- No plain move leaves the phase out of line. -/
theorem explains_of_isPlain {move : Move σ} (h : move.isPlain) (d : Debugger σ) :
    Explains d move (move.next d) := by
  have hsame {d' : Debugger σ} (hd' : Selects d d') : Explains d move d' := hd'.aligns.explains _
  rcases move with operation | text | _ | _ | signal | ⟨connection, arrivals⟩ | change
  · -- of all plain operations only resuming lets threads run
    by_cases hresume : operation = .resume
    · subst hresume
      exact (aligns_continueRunning d).explains _
    · exact hsame (Operation.within_act_of_ne (R := Selects) h hresume d)
  · exact hsame ⟨rfl, rfl, rfl, rfl⟩
  · show Explains d _ (Reaction.sendStart d).2
    rcases sendStart_cases d with heq | ⟨session, mode, hsession, -, heq⟩ <;> rw [heq]
    · exact hsame (refl_of Selects d)
    · exact hsame ⟨by rw [hsession]; rfl, rfl, rfl, rfl⟩
  · show Explains d _ (takeSignal d).2
    rcases takeSignal_cases d with heq | ⟨session, signal, taken, hsession, -, heq⟩ <;> rw [heq]
    · exact hsame (refl_of Selects d)
    · exact hsame ⟨by rw [hsession]; rfl, rfl, rfl, rfl⟩
  · rcases signal with ⟨connection, event⟩ | _ | _
    · cases event with
      | output body =>
        refine aligns_handle ?_
        rw [react, onEvent_output]
        split_ifs
        · exact refl_of Aligns d
        · exact .of_eq rfl rfl rfl rfl
      | continued threadId allThreads =>
        exact aligns_handle (aligns_noteContinued threadId allThreads d)
      | stopped body => exact explains_handle fun hopen heq => explains_onStopped body hopen heq
      | thread body => exact explains_handle fun hopen heq => explains_onThread body hopen heq
      | other name body => exact aligns_handle (refl_of Aligns d)
      | _ => cases h
    · cases h
    · cases h
  · rw [Move.next]
    split
    · exact hsame ⟨Option.isSome_map, rfl, rfl, rfl⟩
    · exact hsame (refl_of Selects d)
  · exact hsame ⟨rfl, rfl, rfl, rfl⟩

/-- **Every move explains** why a debugger is strained or vacant after it. -/
theorem explains_next {d : Debugger σ} (hwf : d.breakpoints.WellFormed) (move : Move σ) :
    Explains d move (move.next d) := by
  cases hconfiguration : Step.configuration? ⟨d, move⟩ with
  | some outcome => exact explains_configuration hwf hconfiguration
  | none =>
  -- every other move keeps phase and threads in line, but for two reports
  cases move using Move.casesPlain with
  | plain move hplain => exact explains_of_isPlain hplain d
  | launch target =>
    show Explains d _ (launch target d).2
    rw [launch_apply]
    refine (Aligns.of_not_live ?_).explains _
    rw [(relaunch_spec rfl).phase]
    rfl
  | relaunch => exact (aligns_relaunch d).explains _
  | close => exact (Aligns.of_session_none (closeSession_spec d).session).explains _
  | run =>
    show Explains d _ (Debugger.run d).2
    rw [run_of_not_begun hconfiguration]
    exact (refl_of Aligns d).explains _
  | setBreakpoint path line =>
    exact (edits_setBreakpoint path line d).toSteady.selects.aligns.explains _
  | setEnabled index enabled =>
    exact (edits_setEnabled index enabled d).toSteady.selects.aligns.explains _
  | deleteBreakpoint index =>
    exact (edits_deleteBreakpoint index d).toSteady.selects.aligns.explains _
  | initialized connection =>
    refine explains_handle fun hopen _ => Aligns.explains ?_ _
    show Aligns d (onInitialized d).2
    rw [onInitialized_of_not_begun hopen hconfiguration]
    split_ifs
    · exact .of_not_live rfl
    · exact refl_of Aligns d
  | exited connection body =>
    refine aligns_handle ?_
    show Aligns d (onEvent (.exited body) d).2
    rw [onEvent_exited]
    exact aligns_onTargetGone _
  | terminated connection body =>
    refine aligns_handle ?_
    show Aligns d (onEvent (.terminated body) d).2
    rw [onEvent_terminated]
    split_ifs
    · exact aligns_onTargetGone _
    · exact refl_of Aligns d
  | breakpoint connection reason descriptor =>
    refine aligns_handle ?_
    show Aligns d (onEvent (.breakpoint reason descriptor) d).2
    obtain ⟨breakpoints, heq⟩ := exists_onEvent_breakpoint reason descriptor d
    rw [heq]
    exact .of_eq rfl rfl rfl rfl
  | closed connection => exact aligns_handle (.of_session_none (onClosed_spec d).1.session)
  | started connection result =>
    refine aligns_handle ?_
    cases result with
    | ok _ => exact refl_of Aligns d
    | error e => exact .of_session_none (onStarted_error_spec e d).1.session

/-- A step that takes the last stopped thread away leaves the debugger vacant. -/
theorem isVacant_of_vacates {d : Debugger σ} {move : Move σ} (h : Step.Vacates ⟨d, move⟩) :
    (move.next d).IsVacant := by
  unfold Step.Vacates at h
  dsimp only at h
  split at h
  · rename_i connection body
    obtain ⟨hopen, hphase, hvacated⟩ := h
    have hsession : d.session.isSome := (Bool.and_eq_true_iff.1 hopen).2
    have hnext : (Move.handle (.event connection (.thread body)) : Move σ).next d =
        (onThread body d).2 := Move.next_event_of_isOpen hopen _
    rcases hvacated with ⟨hstarted, answer, hlast, hrunning⟩ | ⟨hexited, hrunning⟩
    · obtain ⟨hopened, hkept, -, answer', hhead, hthreads⟩ := onThread_started hstarted hsession
      rw [Step.after, hnext] at hlast
      -- the answer on record is the one that the list was taken from
      obtain rfl : answer' = answer := by
        have hsame := Option.some.inj (hhead.symm.trans hlast)
        injection hsame
      rw [hnext]
      exact ⟨hopened, hkept.trans hphase, hthreads.trans hrunning⟩
    · -- a thread that has exited is only taken out of the list
      have hremoved : (onThread body d).2 =
          { d with threads := d.threads.remove body.threadId } := by
        unfold onThread
        rw [if_neg (by rw [hexited]; decide), if_pos hexited]
        rfl
      rw [hnext, hremoved]
      exact ⟨hsession, hphase, hrunning⟩
  · rename_i connection body
    obtain ⟨hopen, hlive, hall, -, -, hempty⟩ := h
    have hsession : d.session.isSome := (Bool.and_eq_true_iff.1 hopen).2
    have hnext : (Move.handle (.event connection (.stopped body)) : Move σ).next d =
        (onStopped body d).2 := Move.next_event_of_isOpen hopen _
    obtain ⟨d₁, hnotes, hselects⟩ := onStopped_spec body d
    rw [hall, Bool.true_or, if_pos rfl] at hselects
    rw [Step.after, hnext] at hempty
    rw [hnext]
    refine ⟨hselects.session.trans (hnotes.session.trans hsession), ?_, ?_⟩
    · rw [hselects.phase]
      dsimp only
      rw [hnotes.phase]
      cases hd : d.phase <;> rw [hd] at hlive <;> first | rfl | cases hlive
    · rw [hselects.allRunning_eq]
      dsimp only
      rw [(hnotes.all hall).1]
      exact hselects.isEmpty_eq.symm.trans hempty
  · cases h

end Debugger

/-! ### Runs -/

/-- A strained program has been so since a step of the one kind. -/
theorem Run.since_overlooks {history : List (Step σ)} {d : Debugger σ} (h : Run history d)
    (hd : d.IsStrained) : Since Step.Overlooks IsStrained history := by
  induction h with
  | start environment console suppressed => cases hd.1
  | step hrun move ih =>
    have hexplained := (explains_next hrun.isTold.wellFormed move).strained hd
    exact hexplained.imp_right fun ⟨hbefore, hgeneration⟩ => ⟨hbefore, hgeneration, ih hbefore⟩

/-- A vacant program has been so since a step of the other kind. -/
theorem Run.since_vacates {history : List (Step σ)} {d : Debugger σ} (h : Run history d)
    (hd : d.IsVacant) : Since Step.Vacates IsVacant history := by
  induction h with
  | start environment console suppressed => cases hd.1
  | step hrun move ih =>
    have hexplained := (explains_next hrun.isTold.wellFormed move).vacant hd
    exact hexplained.imp_right fun ⟨hbefore, hgeneration⟩ => ⟨hbefore, hgeneration, ih hbefore⟩

/-- A launched program of which the only thread has stopped. -/
def Script.standing : List (Move Script) :=
  running ++ [.handle (.event 1 (.stopped { threadId := some 1 }))]

end DebugConsole
