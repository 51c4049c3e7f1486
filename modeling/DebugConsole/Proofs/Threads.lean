/-
# Lists of threads

What is reported of a thread changes the first one that is listed with its id.  The adapter may list
several threads with one id; the others are then left alone.

| reported | change of the list |
| --- | --- |
| a thread has stopped | `Thread.halted` for the first one with the id |
| a thread runs | `Thread.resumed` for the first one with the id |
| all have stopped, or run | the same for every thread |

A frame is only ever selected for the first thread with an id.  As long as this holds of a list
(`Threads.IsTidy`), forgetting the frames id by id forgets all of them.
-/

import DebugConsole.Debugger.Signal
import DebugConsole.Proofs.Inspection

namespace DebugConsole

/-- A thread after it was reported to have stopped. -/
def Thread.halted (t : Thread) : Thread := { t with running := false, selectedFrame := none }

/-- A thread after it was reported to run. -/
def Thread.resumed (t : Thread) : Thread := { t with running := true }

/-- A thread of which no frame is selected. -/
def Thread.cleared (t : Thread) : Thread := { t with selectedFrame := none }

namespace Threads

/-- Just one thread of a list has changed, the first one with an id. -/
def ChangesFirst (id : Int64) (f : Thread → Thread) (before after : List Thread) : Prop :=
  ∃ left t right, before = left ++ t :: right ∧ t.id = id ∧ (∀ u ∈ left, u.id ≠ id) ∧
    after = left ++ f t :: right

/-- Where a thread has the id, the first one is changed. -/
theorem changesFirst_changeFirst {id : Int64} {f : Thread → Thread} {list : List Thread}
    (h : ∃ t ∈ list, t.id = id) : ChangesFirst id f list (changeFirst (·.id = id) f list) := by
  induction list with
  | nil =>
    obtain ⟨t, ht, -⟩ := h
    cases ht
  | cons t rest ih =>
    rw [changeFirst]
    by_cases hid : t.id = id
    · rw [if_pos (decide_eq_true hid)]
      exact ⟨[], t, rest, rfl, hid, fun _ hu => absurd hu List.not_mem_nil, rfl⟩
    · rw [if_neg (by simpa using hid)]
      obtain ⟨u, hu, hfound⟩ := h
      have hrest : ∃ u ∈ rest, u.id = id := by
        rcases List.mem_cons.1 hu with rfl | hu
        · exact absurd hfound hid
        · exact ⟨u, hu, hfound⟩
      obtain ⟨left, t', right, heq, hid', hleft, hafter⟩ := ih hrest
      exact ⟨t :: left, t', right, by rw [heq]; rfl, hid', List.forall_mem_cons.2 ⟨hid, hleft⟩,
        by rw [hafter]; rfl⟩

/-- Where none has it, nothing is. -/
theorem changeFirst_eq_self {id : Int64} {f : Thread → Thread} {list : List Thread}
    (h : ¬∃ t ∈ list, t.id = id) : changeFirst (·.id = id) f list = list := by
  induction list with
  | nil => rfl
  | cons t rest ih =>
    have hid : t.id ≠ id := fun hid => h ⟨t, List.mem_cons_self, hid⟩
    have hrest : ¬∃ u ∈ rest, u.id = id :=
      fun ⟨u, hu, hfound⟩ => h ⟨u, List.mem_cons_of_mem t hu, hfound⟩
    rw [changeFirst, if_neg (by simpa using hid), ih hrest]

/-- A change of the first match is determined by the list. -/
theorem ChangesFirst.eq_changeFirst {id : Int64} {f : Thread → Thread} {before after : List Thread}
    (h : ChangesFirst id f before after) : after = changeFirst (·.id = id) f before := by
  obtain ⟨left, t, right, rfl, hid, hleft, rfl⟩ := h
  induction left with
  | nil => rw [List.nil_append, List.nil_append, changeFirst, if_pos (decide_eq_true hid)]
  | cons u rest ih =>
    obtain ⟨hu, hrest⟩ := List.forall_mem_cons.1 hleft
    rw [List.cons_append, List.cons_append, changeFirst, if_neg (by simpa using hu), ← ih hrest]

/-- Two changes of the first match are one, if the first leaves the match alone. -/
theorem changeFirst_changeFirst {p : Thread → Bool} {f g : Thread → Thread}
    (hf : ∀ t, p (f t) = p t) (list : List Thread) :
    changeFirst p g (changeFirst p f list) = changeFirst p (g ∘ f) list := by
  induction list with
  | nil => rfl
  | cons t rest ih =>
    rw [changeFirst, changeFirst]
    cases hp : p t with
    | true => rw [if_pos rfl, if_pos rfl, changeFirst, if_pos ((hf t).trans hp)]; rfl
    | false =>
      rw [if_neg Bool.false_ne_true, if_neg Bool.false_ne_true, changeFirst, hp,
        if_neg Bool.false_ne_true, ih]

/-- A thread is found exactly if one has the id. -/
theorem find?_isSome_iff {ts : Threads} {id : Int64} :
    (ts.find? id).isSome ↔ ∃ t ∈ ts.list, t.id = id := by
  simp [find?, List.find?_isSome]

/-- A change of a thread that is not known changes nothing. -/
theorem getD_update (ts : Threads) (id : Int64) (f : Thread → Thread) :
    (ts.update id f).toOption.getD ts = { ts with list := changeFirst (·.id = id) f ts.list } := by
  unfold update
  cases hfind : ts.find? id with
  | some t => rfl
  | none =>
    have hunknown : ¬∃ t ∈ ts.list, t.id = id := by
      rw [← find?_isSome_iff, hfind]
      exact Bool.false_ne_true
    dsimp only
    rw [changeFirst_eq_self hunknown]
    rfl

/-- Halting a thread clears its frame and marks it in one go. -/
theorem halt_eq (ts : Threads) (id : Int64) :
    (((ts.clearFrame id).toOption.getD ts).markStopped id).toOption.getD
        ((ts.clearFrame id).toOption.getD ts) =
      { ts with list := changeFirst (·.id = id) Thread.halted ts.list } := by
  rw [clearFrame, getD_update]
  unfold markStopped
  rw [getD_update]
  exact congrArg (fun list => ({ ts with list } : Threads))
    (changeFirst_changeFirst (f := fun t => { t with selectedFrame := none })
      (g := fun t => { t with running := false }) (fun _ => rfl) ts.list)

/-- A list of threads with a placeholder for the one that is named, where it is not in it. -/
def withNamed : Option Int64 → List Thread → List Thread
  | some id, list => if list.any (·.id = id) then list else list ++ [placeholderThread id]
  | none, list => list

/-- A named thread is in the list it was added to. -/
theorem exists_mem_withNamed (id : Int64) (list : List Thread) :
    ∃ t ∈ withNamed (some id) list, t.id = id := by
  rw [withNamed]
  split_ifs with hany
  · obtain ⟨t, ht, hid⟩ := List.any_eq_true.1 hany
    exact ⟨t, ht, of_decide_eq_true hid⟩
  · exact ⟨placeholderThread id, List.mem_append_right _ List.mem_cons_self, rfl⟩

theorem ensureKnown_eq (ts : Threads) (id : Int64) :
    ts.ensureKnown id = { ts with list := withNamed (some id) ts.list } := by
  have hany : ts.list.any (·.id = id) = (ts.find? id).isSome := by
    rw [Bool.eq_iff_iff, find?_isSome_iff]
    simp
  rw [withNamed, hany, ensureKnown]
  cases hfind : ts.find? id with
  | some t => rfl
  | none =>
    dsimp only
    rw [insert, show ts.find? (placeholderThread id).id = none from hfind]
    rfl

/-- The focus is kept apart from the list. -/
theorem list_setFocus (ts : Threads) (id : Int64) :
    ((ts.setFocus id).toOption.getD ts).list = ts.list := by
  unfold setFocus
  cases ts.find? id <;> rfl

/-- A known thread becomes the focus. -/
theorem focusId_setFocus {ts : Threads} {id : Int64} (h : (ts.find? id).isSome) :
    ((ts.setFocus id).toOption.getD ts).focusId = some id := by
  obtain ⟨t, ht⟩ := Option.isSome_iff_exists.1 h
  rw [setFocus, ht]
  rfl

/-! ### Frames -/

/-- Only the first thread with an id may have a frame selected. -/
def IsTidy (list : List Thread) : Prop :=
  list.Pairwise fun t u => t.id = u.id → u.selectedFrame = none

/-- A list without selected frames is tidy. -/
theorem isTidy_of_forall {list : List Thread} (h : ∀ t ∈ list, t.selectedFrame = none) :
    IsTidy list :=
  List.pairwise_of_forall_mem_list fun _ _ u hu _ => h u hu

/-- A changed list holds nothing but its threads and the changed one. -/
theorem mem_changeFirst {p : Thread → Bool} {f : Thread → Thread} {list : List Thread}
    {t : Thread} (h : t ∈ changeFirst p f list) : t ∈ list ∨ ∃ u ∈ list, p u ∧ t = f u := by
  induction list with
  | nil => cases h
  | cons u rest ih =>
    rw [changeFirst] at h
    split at h
    · rename_i hp
      rcases List.mem_cons.1 h with rfl | hrest
      · exact .inr ⟨u, List.mem_cons_self, hp, rfl⟩
      · exact .inl (List.mem_cons_of_mem u hrest)
    · rcases List.mem_cons.1 h with rfl | hrest
      · exact .inl List.mem_cons_self
      · rcases ih hrest with hmem | ⟨v, hv, hpv, rfl⟩
        · exact .inl (List.mem_cons_of_mem u hmem)
        · exact .inr ⟨v, List.mem_cons_of_mem u hv, hpv, rfl⟩

/-- The first thread with an id may be changed in any way, as none before it has the id. -/
theorem IsTidy.changeFirst {list : List Thread} (h : IsTidy list) {id : Int64}
    {f : Thread → Thread} (hf : ∀ t, t.id = id → (f t).id = id) :
    IsTidy (changeFirst (·.id = id) f list) := by
  induction list with
  | nil => exact .nil
  | cons t rest ih =>
    obtain ⟨hfirst, hrest⟩ := List.pairwise_cons.1 h
    rw [Threads.changeFirst]
    by_cases hid : t.id = id
    · rw [if_pos (decide_eq_true hid)]
      exact .cons (fun u hu hsame => hfirst u hu (hid.trans ((hf t hid).symm.trans hsame))) hrest
    · rw [if_neg (by simpa using hid)]
      refine .cons (fun u hu hsame => ?_) (ih hrest)
      rcases mem_changeFirst hu with hmem | ⟨v, -, hv, rfl⟩
      · exact hfirst u hmem hsame
      · exact absurd (hsame.trans (hf v (of_decide_eq_true hv))) hid

/-- A list stays tidy under changes that keep ids and select nothing. -/
theorem IsTidy.map {list : List Thread} (h : IsTidy list) {f : Thread → Thread}
    (hf : ∀ t, (f t).id = t.id ∧ (t.selectedFrame = none → (f t).selectedFrame = none)) :
    IsTidy (list.map f) :=
  List.pairwise_map.2 (List.Pairwise.imp (fun hsame hid =>
    (hf _).2 (hsame ((hf _).1.symm.trans (hid.trans (hf _).1)))) h)

/-- A new thread without a selected frame leaves a list tidy. -/
theorem IsTidy.append_singleton {list : List Thread} (h : IsTidy list) {t : Thread}
    (ht : t.selectedFrame = none) : IsTidy (list ++ [t]) :=
  List.pairwise_append.2 ⟨h, List.pairwise_singleton _ _, fun _ _ u hu _ => by
    rw [List.mem_singleton.1 hu]
    exact ht⟩

/-- So does the one that a stop names. -/
theorem IsTidy.withNamed {list : List Thread} (h : IsTidy list) (id? : Option Int64) :
    IsTidy (withNamed id? list) := by
  cases id? with
  | none => exact h
  | some id =>
    rw [Threads.withNamed]
    split
    · exact h
    · exact h.append_singleton rfl

/-- So does one that starts, also in the place of another. -/
theorem IsTidy.insert {ts : Threads} (h : IsTidy ts.list) {t : Thread}
    (ht : t.selectedFrame = none) : IsTidy (ts.insert t).list := by
  unfold Threads.insert
  split
  · exact h.changeFirst fun _ _ => rfl
  · exact h.append_singleton ht

/-- In a tidy list, the first thread with an id is the only one of which a frame is forgotten. -/
theorem changeFirst_cleared {list : List Thread} (h : IsTidy list) (id : Int64) :
    Threads.changeFirst (·.id = id) Thread.cleared list =
      list.map fun t => if t.id = id then t.cleared else t := by
  induction list with
  | nil => rfl
  | cons t rest ih =>
    obtain ⟨hfirst, hrest⟩ := List.pairwise_cons.1 h
    rw [Threads.changeFirst, List.map_cons]
    by_cases hid : t.id = id
    · have hothers : rest.map (fun u => if u.id = id then u.cleared else u) = rest := by
        refine (List.map_congr_left fun u hu => ?_).trans (List.map_id rest)
        split
        · rename_i hu'
          exact congrArg (fun frame => { u with selectedFrame := frame })
            (hfirst u hu (hid.trans hu'.symm)).symm
        · rfl
      rw [if_pos (decide_eq_true hid), if_pos hid, hothers]
    · rw [if_neg (by simpa using hid), if_neg hid, ih hrest]

/-- Clearing frames one by one clears those of the ids, in a tidy list. -/
theorem foldl_cleared {list : List Thread} (h : IsTidy list) (ids : List Int64) :
    ids.foldl (fun list id => Threads.changeFirst (·.id = id) Thread.cleared list) list =
      list.map fun t => if t.id ∈ ids then t.cleared else t := by
  induction ids generalizing list with
  | nil => simp
  | cons id rest ih =>
    rw [List.foldl_cons, ih (h.changeFirst (f := Thread.cleared) fun _ hid => hid),
      changeFirst_cleared h, List.map_map]
    refine List.map_congr_left fun t _ => ?_
    rw [Function.comp_apply]
    by_cases hid : t.id = id
    · simp [hid, Thread.cleared]
    · simp [hid]

theorem clearAllFrames_eq_foldl (ts : Threads) : ts.clearAllFrames = { ts with
    list := (ts.list.map (·.id)).foldl
      (fun list id => Threads.changeFirst (·.id = id) Thread.cleared list) ts.list } := by
  have hfold (ids : List Int64) (ts : Threads) :
      ids.foldl (fun ts id => (ts.clearFrame id).toOption.getD ts) ts = { ts with
        list := ids.foldl
          (fun list id => Threads.changeFirst (·.id = id) Thread.cleared list) ts.list } := by
    induction ids generalizing ts with
    | nil => rfl
    | cons id rest ih =>
      rw [List.foldl_cons, List.foldl_cons, ih]
      unfold clearFrame
      rw [getD_update]
      rfl
  exact hfold _ ts

/-- Forgetting frames leaves all else about the threads as it is. -/
theorem map_clearAllFrames {γ : Type} {g : Thread → γ} (hg : ∀ t, g t.cleared = g t)
    (ts : Threads) : ts.clearAllFrames.list.map g = ts.list.map g := by
  have hfold (ids : List Int64) (list : List Thread) :
      (ids.foldl (fun list id => Threads.changeFirst (·.id = id) Thread.cleared list)
        list).map g = list.map g := by
    induction ids generalizing list with
    | nil => rfl
    | cons id rest ih => rw [List.foldl_cons, ih, map_changeFirst hg]
  rw [clearAllFrames_eq_foldl]
  exact hfold _ _

/-- Forgetting frames stops no thread, and resumes none. -/
theorem statuses_clearAllFrames (ts : Threads) : ts.clearAllFrames.statuses = ts.statuses :=
  map_clearAllFrames (fun _ => rfl) ts

/-- Of a tidy list, all frames are forgotten. -/
theorem clearAllFrames_eq {ts : Threads} (h : IsTidy ts.list) :
    ts.clearAllFrames = { ts with list := ts.list.map Thread.cleared } := by
  rw [clearAllFrames_eq_foldl, foldl_cleared h]
  refine congrArg (fun list => ({ ts with list } : Threads)) (List.map_congr_left fun t ht => ?_)
  exact if_pos (List.mem_map_of_mem ht)

/-- **Halting all threads** stops and clears every one of a tidy list. -/
theorem haltAll_eq {ts : Threads} (h : IsTidy ts.list) :
    ts.markAllStopped.clearAllFrames = { ts with list := ts.list.map Thread.halted } := by
  have htidy : IsTidy ts.markAllStopped.list := h.map fun t => ⟨rfl, id⟩
  rw [clearAllFrames_eq htidy]
  exact congrArg (fun list => ({ ts with list } : Threads)) List.map_map

end Threads
end DebugConsole
