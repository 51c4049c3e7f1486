/-
# The focus

The thread with the focus is remembered by its id, apart from the list of threads.  Each change
keeps the two together:

| change | threads that leave the list | focus |
| --- | --- | --- |
| `remove` | those with the id | given up if it has the id |
| `replaceAll` | those with an id that the new list does not have | given up if it has such an id |
| `setFocus` | none | on a listed thread |
| any other | none; the ids that were listed are listed | stays |

So in every run the focus is on a known thread, if there is one, and a thread is missing only where
no focus is set (`Run.focus_known`).
-/

import DebugConsole.Proofs.Evolution

namespace DebugConsole

variable {σ : Type}

namespace Threads

/-- The thread with the focus is listed. -/
def FocusKnown (ts : Threads) : Prop := ∀ id, ts.focusId = some id → ∃ t ∈ ts.list, t.id = id

/-- The thread in focus, if there is one, is among those known. -/
theorem focusKnown_iff {ts : Threads} : ts.FocusKnown ↔ ∀ id, ts.focusId = some id → id ∈ ts.ids :=
  forall₂_congr fun _ _ => List.mem_map.symm

/-- The focus stays on its thread as long as no id is given up. -/
theorem FocusKnown.of_subset {ts ts' : Threads} (h : ts.FocusKnown)
    (hfocus : ts'.focusId = ts.focusId) (hids : ts.ids ⊆ ts'.ids) : ts'.FocusKnown :=
  focusKnown_iff.2 fun id hid => hids (focusKnown_iff.1 h id (hfocus.symm.trans hid))

/-- The same ids and the same focus. -/
theorem FocusKnown.of_ids {ts ts' : Threads} (h : ts.FocusKnown)
    (hfocus : ts'.focusId = ts.focusId) (hids : ts'.ids = ts.ids) : ts'.FocusKnown :=
  h.of_subset hfocus fun _ hmem => hids ▸ hmem

/-- A change of one thread that keeps its id. -/
theorem FocusKnown.update {ts : Threads} (h : ts.FocusKnown) (id : Int64) {f : Thread → Thread}
    (hf : ∀ t, (f t).id = t.id) : ((ts.update id f).toOption.getD ts).FocusKnown := by
  refine h.of_ids ?_ (ids_update hf ts)
  rw [getD_update]

/-- A thread more does not take the focus away. -/
theorem FocusKnown.insert {ts : Threads} (h : ts.FocusKnown) (t : Thread) :
    (ts.insert t).FocusKnown := by
  refine h.of_subset ?_ ?_
  · rw [Threads.insert]
    split <;> rfl
  · rw [ids_insert]
    split
    · exact List.Subset.refl ts.ids
    · exact List.subset_append_left ts.ids [t.id]

/-- With a thread its focus goes. -/
theorem FocusKnown.remove {ts : Threads} (h : ts.FocusKnown) (id : Int64) :
    (ts.remove id).FocusKnown := fun focus hfocus => by
  by_cases hid : ts.focusId = some id
  · rw [Threads.remove, if_pos hid] at hfocus
    cases hfocus
  · rw [Threads.remove, if_neg hid] at hfocus
    obtain ⟨t, ht, htid⟩ := h focus hfocus
    have hother : t.id ≠ id := fun heq => hid (by rw [hfocus, ← htid, heq])
    exact ⟨t, List.mem_filter.2 ⟨ht, by simpa using hother⟩, htid⟩

/-- Another list keeps the focus just if it has a thread with the id. -/
theorem focusKnown_replaceAll (ts : Threads) (list : List Thread) :
    (ts.replaceAll list).FocusKnown := fun focus hfocus => by
  obtain ⟨-, hany⟩ := Option.filter_eq_some_iff.1 hfocus
  obtain ⟨t, ht, htid⟩ := List.any_eq_true.1 hany
  exact ⟨t, ht, of_decide_eq_true htid⟩

/-- Only a known thread comes into focus. -/
theorem FocusKnown.setFocus {ts : Threads} (h : ts.FocusKnown) (id : Int64) :
    ((ts.setFocus id).toOption.getD ts).FocusKnown := by
  rw [Threads.setFocus]
  cases hfind : ts.find? id with
  | none => exact h
  | some found =>
    have hlisted : ∃ t ∈ ts.list, t.id = id := find?_isSome_iff.1 (by rw [hfind]; rfl)
    intro focus hfocus
    obtain rfl : id = focus := Option.some.inj hfocus
    exact hlisted

/-- **Every change keeps the thread in focus known.** -/
theorem FocusKnown.apply {ts : Threads} (h : ts.FocusKnown) (change : Change) :
    (change.apply ts).FocusKnown := by
  cases change with
  | insert t => exact h.insert t
  | remove id => exact h.remove id
  | replaceAll list => exact focusKnown_replaceAll ts list
  | markRunning id => exact h.update id fun _ => rfl
  | markStopped id => exact h.update id fun _ => rfl
  | markAllRunning => exact h.of_ids rfl List.map_map
  | markAllStopped => exact h.of_ids rfl List.map_map
  | selectFrame id place => exact h.update id fun _ => rfl
  | clearFrame id => exact h.update id fun _ => rfl
  | clearAllFrames =>
    have hids : ts.clearAllFrames.ids = ts.ids :=
      map_clearAllFrames (g := Thread.id) (fun _ => rfl) ts
    refine h.of_ids ?_ hids
    rw [Change.apply, clearAllFrames_eq_foldl]
  | setFocus id => exact h.setFocus id

end Threads

namespace Run

open Debugger

variable [Environment σ]

/-- **The focus is always on a known thread.**  In every run the id that has the focus, if one has,
is the id of a thread that is listed.  So in a session of a program that was started there is an
active thread unless no focus is set, and it has that id. -/
theorem focus_known {history : List (Step σ)} {d : Debugger σ} (h : Run history d) :
    d.threads.FocusKnown ∧ (d.session.isSome → d.phase.isStarted →
      ((activeThread d).1 = .error .noFocusThread ↔ d.threads.focusId = none) ∧
      ∀ id, d.threads.focusId = some id →
        ∃ t ∈ d.threads.list, t.id = id ∧ activeThread d = (.ok t, d)) := by
  have hknown : d.threads.FocusKnown :=
    h.threads_induction nofun (fun hts _ => hts.apply _) fun _ _ hts => hts.apply _
  refine ⟨hknown, fun hsession hphase => ?_⟩
  rw [activeThread_apply hsession hphase, Threads.focus?]
  cases hfocus : d.threads.focusId with
  | none => exact ⟨iff_of_true rfl rfl, nofun⟩
  | some focus =>
    obtain ⟨t, hfind⟩ :=
      Option.isSome_iff_exists.1 (Threads.find?_isSome_iff.2 (hknown focus hfocus))
    rw [Option.bind_some, hfind]
    refine ⟨iff_of_false nofun nofun, fun id hid => ?_⟩
    obtain rfl : focus = id := Option.some.inj hid
    exact ⟨t, List.mem_of_find?_eq_some hfind, by simpa using List.find?_some hfind, rfl⟩

/-- A run it speaks of: the only thread has stopped and has the focus, and then it exits. -/
theorem focus_known_scripted :
    let exited : Move Script := .handle (.event 1 (.thread { reason := "exited", threadId := 1 }))
    let run := Move.steps Script.standing [] (Script.rehearse {})
    (run.2.threads.focusId = some 1 ∧
      ∃ t ∈ run.2.threads.list, t.id = 1 ∧ activeThread run.2 = (.ok t, run.2)) ∧
      (activeThread (exited.next run.2)).1 = .error .noFocusThread ∧
      (exited.next run.2).threads.focusId = none := by
  intro exited run
  have hrun : Run run.1 run.2 := (Run.start _ _ _).steps _
  have hfocus : run.2.threads.focusId = some 1 := by decide +kernel
  have hnone : (exited.next run.2).threads.focusId = none := by decide +kernel
  obtain ⟨-, hstanding⟩ := hrun.focus_known
  obtain ⟨-, hgone⟩ := (hrun.step exited).focus_known
  exact ⟨⟨hfocus, (hstanding (by decide +kernel) (by decide +kernel)).2 1 hfocus⟩,
    (hgone (by decide +kernel) (by decide +kernel)).1.2 hnone, hnone⟩

end Run
end DebugConsole
