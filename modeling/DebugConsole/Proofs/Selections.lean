/-
# Which threads have a frame selected

The adapter may list several threads with one id.  A frame is only ever selected for the first one
of them, and nothing that happens later puts another thread before it:

| what happens | list of threads |
| --- | --- |
| a thread is added, or replaced by one with its id | the new thread has no frame selected |
| threads stop, run again or exit | no frame is selected, and the order is kept |
| the adapter lists the threads | no frame is selected |
| the session ends, or another one begins | no thread is known |

So in every run the list of threads is tidy (`Run.isTidy`), and when all of them stop no frame stays
selected (`Run.takes_stop`).
-/

import DebugConsole.Proofs.Evolution

namespace DebugConsole

open Protocol

variable {σ : Type}

namespace Threads

/-- A change of the first thread with an id, or of no thread. -/
theorem IsTidy.update {ts : Threads} (h : IsTidy ts.list) (id : Int64) {f : Thread → Thread}
    (hf : ∀ t, (f t).id = t.id) : IsTidy ((ts.update id f).toOption.getD ts).list := by
  rw [getD_update]
  exact h.changeFirst fun t hid => (hf t).trans hid

/-- A thread of which a frame is selected is the first one with its id. -/
theorem IsTidy.selectFrame {ts : Threads} (h : IsTidy ts.list) (id : Int64) (place : UInt64) :
    IsTidy ((Change.selectFrame id place).apply ts).list :=
  h.update (f := fun t => { t with selectedFrame := some place }) id fun _ => rfl

theorem IsTidy.apply {ts : Threads} (h : IsTidy ts.list) {change : Change}
    (hnone : change.SelectsNone) : IsTidy (change.apply ts).list := by
  cases change with
  | insert t => exact h.insert hnone
  | remove id => exact List.Pairwise.filter _ h
  | replaceAll list => exact isTidy_of_forall hnone
  | markRunning id => exact h.update (f := fun t => { t with running := true }) id fun _ => rfl
  | markStopped id => exact h.update (f := fun t => { t with running := false }) id fun _ => rfl
  | markAllRunning => exact h.map fun _ => ⟨rfl, fun hselected => hselected⟩
  | markAllStopped => exact h.map fun _ => ⟨rfl, fun hselected => hselected⟩
  | selectFrame id place => exact hnone.elim
  | clearFrame id => exact h.update (f := fun t => { t with selectedFrame := none }) id fun _ => rfl
  | clearAllFrames =>
    rw [Change.apply, clearAllFrames_eq h]
    exact h.map fun _ => ⟨rfl, fun _ => rfl⟩
  | setFocus id =>
    rw [Change.apply, list_setFocus]
    exact h

end Threads

namespace Run

open Debugger

variable [Environment σ]

/-- **Selections stay in place.**  In every run, frames are selected for first threads only. -/
theorem isTidy {history : List (Step σ)} {d : Debugger σ} (h : Run history d) :
    Threads.IsTidy d.threads.list :=
  h.threads_induction (P := fun ts => Threads.IsTidy ts.list) .nil
    (fun hts hnone => hts.apply hnone) fun id place hts => hts.selectFrame id place

/-- **What a stop does.**  A report that names no thread and does not say that all have stopped only
writes to the console.  Any other one stops the thread that it names, or all of them, and so the
program if it was started; whether it moves the focus, opens the console and asks for a stack
depends on whether all threads ran before it. -/
theorem takes_stop {history : List (Step σ)} {d : Debugger σ} (h : Run history d)
    (hsession : d.session.isSome) (body : StoppedBody) :
    let d' := (Move.handle (.event d.generation (.stopped body)) : Move σ).next d
    (body.threadId = none → body.allThreadsStopped = false →
      ∃ text, d' = { d with console := { d.console with text } }) ∧
    (body.threadId.isSome ∨ body.allThreadsStopped → ∃ new, TakesStop body new d d') := by
  have hopen : d.isOpen d.generation := by simp [isOpen, hsession]
  have hnext : (Move.handle (.event d.generation (.stopped body)) : Move σ).next d =
      (onStopped body d).2 := Move.next_event_of_isOpen hopen _
  dsimp only
  rw [hnext]
  exact ⟨fun hid hall => onStopped_of_ignored hid hall d, fun hnoted =>
    takesStop_onStopped hnoted hsession h.isTidy⟩

/-- A first stop it speaks of: the thread that is named was not known, and the other one runs on. -/
theorem takes_stop_scripted :
    let d := (Move.steps Script.running [] (Script.rehearse {})).2
    let body : StoppedBody := { threadId := some 7 }
    let d' := (Move.handle (.event d.generation (.stopped body)) : Move Script).next d
    d.threads.list = [{ id := 1, name := "main" }] ∧
      d'.threads = {
        list := [{ id := 1, name := "main" }, { id := 7, name := "thread 7", running := false }]
        focusId := some 7 } ∧
      d'.phase = .stopped ∧ d'.console.isOpen ∧ ∃ new, TakesStop body new d d' := by
  intro d body d'
  have hrun : Run _ d := (Run.start _ _ _).steps Script.running
  exact ⟨by decide +kernel, by decide +kernel, by decide +kernel, by decide +kernel,
    (takes_stop hrun (by decide +kernel) body).2 (.inl rfl)⟩

end Run
end DebugConsole
