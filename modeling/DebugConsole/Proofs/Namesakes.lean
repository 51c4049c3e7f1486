/-
# Threads under one id

A thread is known by its id, and what is done by an id is meant for one thread.  All changes of
the threads see to that but `replaceAll`, which takes a list of the adapter as it is: an id that
the list has more than once is shared until it is removed.

| done by an id | one thread has it | several threads have it |
| --- | --- | --- |
| look-up, mark, frame, focus | concerns that thread | concerns the first of them |
| removal | takes out that thread | takes out all of them |

A thread behind another one with its id is hidden by it.  Whatever is done to single threads does
not reach a hidden one, so that one which has stopped keeps all threads from running.
-/

import DebugConsole.Proofs.Threads
import Mathlib.Data.List.Nodup

namespace DebugConsole
namespace Threads

/-- A change of the threads. -/
inductive Change where
  | insert (t : Thread)
  | remove (id : Int64)
  | replaceAll (list : List Thread)
  | markRunning (id : Int64)
  | markStopped (id : Int64)
  | markAllRunning
  | markAllStopped
  | selectFrame (id : Int64) (place : UInt64)
  | clearFrame (id : Int64)
  | clearAllFrames
  | setFocus (id : Int64)

/-- The threads after a change; one that fails leaves them as they were. -/
def Change.apply : Change → Threads → Threads
  | insert t, ts => ts.insert t
  | remove id, ts => ts.remove id
  | replaceAll list, ts => ts.replaceAll list
  | markRunning id, ts => (ts.markRunning id).toOption.getD ts
  | markStopped id, ts => (ts.markStopped id).toOption.getD ts
  | markAllRunning, ts => ts.markAllRunning
  | markAllStopped, ts => ts.markAllStopped
  | selectFrame id place, ts => (ts.selectFrame id place).toOption.getD ts
  | clearFrame id, ts => (ts.clearFrame id).toOption.getD ts
  | clearAllFrames, ts => ts.clearAllFrames
  | setFocus id, ts => (ts.setFocus id).toOption.getD ts

/-- Is a change meant for one thread, which stays listed? -/
def Change.isSingle : Change → Bool
  | markRunning _ | markStopped _ | selectFrame _ _ | clearFrame _ | setFocus _ => true
  | _ => false

/-- Changes of no threads, last first, and what they come to. -/
def replay : List Change → Threads
  | [] => {}
  | change :: earlier => change.apply (replay earlier)

/-- The list that was installed last has the id more than once, and it was not removed since. -/
def Change.Repeats (changes : List Change) (id : Int64) : Prop :=
  ∃ later list earlier, changes = later ++ .replaceAll list :: earlier ∧
    (∀ other, .replaceAll other ∉ later) ∧ .remove id ∉ later ∧ 1 < (list.map (·.id)).count id

/-- The ids of the threads, in their order. -/
def ids (ts : Threads) : List Int64 := ts.list.map (·.id)

/-- Several threads have the id. -/
def IsShared (ts : Threads) (id : Int64) : Prop := 1 < ts.ids.count id

/-- Ids are all different where none is shared. -/
theorem nodup_ids_iff {ts : Threads} : ts.ids.Nodup ↔ ∀ id, ¬ts.IsShared id := by
  simp only [List.nodup_iff_count_le_one, IsShared, Nat.not_lt]

/-! ### Which ids are shared after a change -/

/-- Is an id shared after a change, if it is known whether it was before? -/
def Change.shares (before : Prop) (id : Int64) : Change → Prop
  | replaceAll list => 1 < (list.map (·.id)).count id
  | remove other => other ≠ id ∧ before
  | _ => before

/-- A change that keeps the id of a thread keeps all ids. -/
theorem ids_update {id : Int64} {f : Thread → Thread} (hf : ∀ t, (f t).id = t.id) (ts : Threads) :
    ((ts.update id f).toOption.getD ts).ids = ts.ids := by
  rw [getD_update]
  exact map_changeFirst hf _ _

/-- Only a new thread with a new id makes the list longer. -/
theorem ids_insert (ts : Threads) (t : Thread) :
    (ts.insert t).ids = if (ts.find? t.id).isSome then ts.ids else ts.ids ++ [t.id] := by
  rw [Threads.insert]
  cases hfind : ts.find? t.id with
  | some found =>
    obtain ⟨left, u, right, hlist, hid, -, hchanged⟩ :=
      changesFirst_changeFirst (f := fun _ => t) (find?_isSome_iff.1 (by rw [hfind]; rfl))
    show (changeFirst (·.id = t.id) (fun _ => t) ts.list).map (·.id) = ts.ids
    rw [hchanged, ids, hlist, List.map_append, List.map_append, List.map_cons, List.map_cons, hid]
  | none => exact List.map_append

/-- A thread that is added shares its id with none. -/
theorem isShared_insert (ts : Threads) (t : Thread) (id : Int64) :
    (ts.insert t).IsShared id ↔ ts.IsShared id := by
  rw [IsShared, IsShared, ids_insert]
  split
  · exact Iff.rfl
  · rename_i hunknown
    have hnew : ts.ids.count t.id = 0 := by
      rw [List.count_eq_zero]
      intro hmem
      obtain ⟨u, hu, hid⟩ := List.mem_map.1 hmem
      exact hunknown (find?_isSome_iff.2 ⟨u, hu, hid⟩)
    rw [List.count_append, List.count_singleton]
    by_cases hid : t.id = id
    · subst hid
      rw [hnew]
      simp
    · simp [hid]

/-- With an id all threads go that share it. -/
theorem isShared_remove (ts : Threads) (other id : Int64) :
    (ts.remove other).IsShared id ↔ other ≠ id ∧ ts.IsShared id := by
  have hids : (ts.remove other).ids = ts.ids.filter (· ≠ other) := by
    rw [ids, remove, ids, List.filter_map]
    rfl
  rw [IsShared, IsShared, hids]
  by_cases hid : other = id
  · subst hid
    have hnone : (ts.ids.filter (· ≠ other)).count other = 0 :=
      List.count_eq_zero.2 fun hmem => by simpa using (List.mem_filter.1 hmem).2
    rw [hnone]
    exact iff_of_false (by decide) fun h => h.1 rfl
  · rw [List.count_filter (by simpa using Ne.symm hid)]
    exact (and_iff_right hid).symm

/-- What a change does to an id that is shared. -/
theorem isShared_apply (change : Change) (ts : Threads) (id : Int64) :
    (change.apply ts).IsShared id ↔ change.shares (ts.IsShared id) id := by
  have hsame (ts' : Threads) (h : ts'.ids = ts.ids) : ts'.IsShared id ↔ ts.IsShared id := by
    rw [IsShared, IsShared, h]
  have hupdate (other : Int64) (f : Thread → Thread) (hf : ∀ t, (f t).id = t.id) :
      ((ts.update other f).toOption.getD ts).IsShared id ↔ ts.IsShared id :=
    hsame _ (ids_update hf ts)
  cases change with
  | insert t => exact isShared_insert ts t id
  | remove other => exact isShared_remove ts other id
  | replaceAll list => exact Iff.rfl
  | markRunning other => exact hupdate other _ fun _ => rfl
  | markStopped other => exact hupdate other _ fun _ => rfl
  | markAllRunning => exact hsame ts.markAllRunning List.map_map
  | markAllStopped => exact hsame ts.markAllStopped List.map_map
  | selectFrame other place => exact hupdate other _ fun _ => rfl
  | clearFrame other => exact hupdate other _ fun _ => rfl
  | clearAllFrames =>
    exact hsame ts.clearAllFrames (map_clearAllFrames (g := Thread.id) (fun _ => rfl) ts)
  | setFocus other =>
    exact hsame ((ts.setFocus other).toOption.getD ts)
      (congrArg (List.map Thread.id) (list_setFocus ts other))

/-- Whether an id is repeated is decided change by change. -/
theorem Change.repeats_cons {change : Change} {earlier : List Change} {id : Int64} :
    Repeats (change :: earlier) id ↔ change.shares (Repeats earlier id) id := by
  -- another list than the one in front was installed last, and what is in front does not matter
  have hbehind (hother : ∀ list, change ≠ .replaceAll list) :
      Repeats (change :: earlier) id ↔ change ≠ .remove id ∧ Repeats earlier id := by
    constructor
    · rintro ⟨later, list, before, heq, hlast, hkept, hcount⟩
      cases later with
      | nil => exact absurd (List.cons.inj heq).1 (hother list)
      | cons first rest =>
        obtain ⟨rfl, rfl⟩ := List.cons.inj heq
        refine ⟨fun h => hkept (h ▸ List.mem_cons_self), rest, list, before, rfl, ?_, ?_, hcount⟩
        · exact fun other hmem => hlast other (List.mem_cons_of_mem _ hmem)
        · exact fun hmem => hkept (List.mem_cons_of_mem _ hmem)
    · rintro ⟨hne, later, list, before, rfl, hlast, hkept, hcount⟩
      refine ⟨change :: later, list, before, rfl, fun other hmem => ?_, fun hmem => ?_, hcount⟩
      · rcases List.mem_cons.1 hmem with heq | hmem
        · exact hother other heq.symm
        · exact hlast other hmem
      · rcases List.mem_cons.1 hmem with heq | hmem
        · exact hne heq.symm
        · exact hkept hmem
  cases change with
  | replaceAll list =>
    constructor
    · rintro ⟨later, installed, before, heq, hlast, -, hcount⟩
      cases later with
      | nil =>
        obtain ⟨hinstalled, -⟩ := List.cons.inj heq
        cases hinstalled
        exact hcount
      | cons first rest =>
        obtain ⟨rfl, -⟩ := List.cons.inj heq
        exact absurd List.mem_cons_self (hlast list)
    · exact fun hcount => ⟨[], list, earlier, rfl, fun _ => List.not_mem_nil,
        List.not_mem_nil, hcount⟩
  | remove other =>
    rw [hbehind nofun, shares]
    simp
  | _ => exact (hbehind nofun).trans (and_iff_right nofun)

/-- **An id is shared just if a list has brought it twice** and it was not removed since. -/
theorem isShared_replay (changes : List Change) (id : Int64) :
    (replay changes).IsShared id ↔ Change.Repeats changes id := by
  induction changes with
  | nil => exact iff_of_false (by simp [replay, IsShared, ids]) (by simp [Change.Repeats])
  | cons change earlier ih => rw [replay, isShared_apply, Change.repeats_cons, ih]

/-! ### What is done by an id -/

/-- What is done by the id of a thread is done to that thread and to no other. -/
def IsAlone (ts : Threads) (t : Thread) : Prop :=
  ∃ left right, ts.list = left ++ t :: right ∧ (∀ u ∈ left ++ right, u.id ≠ t.id) ∧
    ts.find? t.id = some t ∧
    (∀ f, ts.update t.id f = .ok { ts with list := left ++ f t :: right }) ∧
    (ts.remove t.id).list = left ++ right

/-- A thread is alone where no other one has its id. -/
theorem isAlone_of_split {ts : Threads} {t : Thread} {left right : List Thread}
    (hlist : ts.list = left ++ t :: right) (hothers : ∀ u ∈ left ++ right, u.id ≠ t.id) :
    ts.IsAlone t := by
  have hleft : ∀ u ∈ left, u.id ≠ t.id := fun u hu => hothers u (List.mem_append_left right hu)
  have hfind : ts.find? t.id = some t := by
    have hnone : left.find? (·.id = t.id) = none :=
      List.find?_eq_none.2 fun u hu => by simpa using hleft u hu
    rw [find?, hlist, List.find?_append, hnone, List.find?_cons_of_pos (by simp)]
    rfl
  refine ⟨left, right, hlist, hothers, hfind, fun f => ?_, ?_⟩
  · rw [update, hfind, ← ChangesFirst.eq_changeFirst ⟨left, t, right, hlist, rfl, hleft, rfl⟩]
  · have hkept : (left ++ right).filter (·.id ≠ t.id) = left ++ right :=
      List.filter_eq_self.2 fun u hu => by simpa using hothers u hu
    rw [remove, hlist, List.filter_append, List.filter_cons_of_neg (by simp),
      ← List.filter_append, hkept]

/-- A thread is alone just if its id is not shared. -/
theorem isAlone_iff {ts : Threads} {t : Thread} (h : t ∈ ts.list) :
    ts.IsAlone t ↔ ¬ts.IsShared t.id := by
  have hcount {left right : List Thread} (hlist : ts.list = left ++ t :: right) :
      ts.ids.count t.id = ((left ++ right).map (·.id)).count t.id + 1 := by
    rw [ids, hlist]
    simp only [List.map_append, List.map_cons, List.count_append, List.count_cons_self]
    omega
  have hnone {list : List Thread} :
      (list.map (·.id)).count t.id = 0 ↔ ∀ u ∈ list, u.id ≠ t.id := by
    rw [List.count_eq_zero, List.mem_map]
    exact ⟨fun h u hu hid => h ⟨u, hu, hid⟩, fun h ⟨u, hu, hid⟩ => h u hu hid⟩
  constructor
  · rintro ⟨left, right, hlist, hothers, -⟩
    rw [IsShared, hcount hlist, hnone.2 hothers]
    omega
  · intro hshared
    obtain ⟨left, right, hlist⟩ := List.append_of_mem h
    rw [IsShared, hcount hlist] at hshared
    exact isAlone_of_split hlist (hnone.1 (by omega))

/-! ### Hidden threads -/

/-- A thread stands behind one with its id. -/
def IsHidden (list : List Thread) (u : Thread) : Prop :=
  ∃ t, t.id = u.id ∧ [t, u].Sublist list

/-- A shared id has a thread behind the first one. -/
theorem exists_isHidden {ts : Threads} {id : Int64} (h : ts.IsShared id) :
    ∃ u, u.id = id ∧ IsHidden ts.list u := by
  have htwice : (List.replicate 2 id).Sublist ts.ids := List.replicate_sublist_iff.2 h
  obtain ⟨pair, hpair, hids⟩ := List.sublist_map_iff.1 htwice
  obtain ⟨t, u, rfl⟩ : ∃ t u, pair = [t, u] :=
    List.length_eq_two.1 (by simpa using (congrArg List.length hids).symm)
  obtain ⟨ht, hu⟩ : id = t.id ∧ id = u.id := by simpa using hids
  exact ⟨u, hu.symm, t, ht.symm.trans hu, hpair⟩

/-- Threads with other ids are left alone. -/
theorem mem_changeFirst_of_ne {id : Int64} {f : Thread → Thread} {list : List Thread} {u : Thread}
    (hu : u ∈ list) (hid : u.id ≠ id) : u ∈ changeFirst (·.id = id) f list := by
  induction list with
  | nil => cases hu
  | cons t rest ih =>
    rw [changeFirst]
    rcases List.mem_cons.1 hu with rfl | hu
    · rw [if_neg (by simpa using hid)]
      exact List.mem_cons_self
    · split_ifs
      · exact List.mem_cons_of_mem _ hu
      · exact List.mem_cons_of_mem _ (ih hu)

/-- A change of the first thread with an id does not reach a hidden one. -/
theorem IsHidden.changeFirst {list : List Thread} {u : Thread} (h : IsHidden list u) {id : Int64}
    {f : Thread → Thread} (hf : ∀ t, (f t).id = t.id) :
    IsHidden (changeFirst (·.id = id) f list) u := by
  obtain ⟨t, hsame, hpair⟩ := h
  induction list with
  | nil => cases hpair
  | cons first rest ih =>
    rw [Threads.changeFirst]
    cases hpair with
    | cons _ hpair =>
      split_ifs
      · exact ⟨t, hsame, hpair.cons _⟩
      · obtain ⟨t', hsame', hpair'⟩ := ih hpair
        exact ⟨t', hsame', hpair'.cons _⟩
    | cons_cons _ hu =>
      have hu : u ∈ rest := List.singleton_sublist.1 hu
      by_cases hid : t.id = id
      · rw [if_pos (decide_eq_true hid)]
        exact ⟨f t, (hf t).trans hsame, (List.singleton_sublist.2 hu).cons_cons _⟩
      · rw [if_neg (by simpa using hid)]
        have hkept := mem_changeFirst_of_ne (f := f) hu fun h => hid (hsame.trans h)
        exact ⟨t, hsame, (List.singleton_sublist.2 hkept).cons_cons _⟩

/-- No change to single threads reaches one that is hidden. -/
theorem IsHidden.apply {ts : Threads} {u : Thread} (h : IsHidden ts.list u) {change : Change}
    (hsingle : change.isSingle) : IsHidden (change.apply ts).list u := by
  have hupdate (id : Int64) (f : Thread → Thread) (hf : ∀ t, (f t).id = t.id) :
      IsHidden ((ts.update id f).toOption.getD ts).list u := by
    rw [getD_update]
    exact h.changeFirst hf
  cases change with
  | markRunning id => exact hupdate id _ fun _ => rfl
  | markStopped id => exact hupdate id _ fun _ => rfl
  | selectFrame id place => exact hupdate id _ fun _ => rfl
  | clearFrame id => exact hupdate id _ fun _ => rfl
  | setFocus id =>
    show IsHidden ((ts.setFocus id).toOption.getD ts).list u
    rw [list_setFocus]
    exact h
  | _ => cases hsingle

/-- Nor do any number of them. -/
theorem IsHidden.replay {changes : List Change} {u : Thread}
    (h : IsHidden (replay changes).list u) {later : List Change}
    (hsingle : ∀ change ∈ later, change.isSingle) :
    IsHidden (Threads.replay (later ++ changes)).list u := by
  induction later with
  | nil => exact h
  | cons change rest ih =>
    obtain ⟨hfirst, hrest⟩ := List.forall_mem_cons.1 hsingle
    exact (ih hrest).apply hfirst

/-- **Threads are kept under their ids if and only if no list has brought an id twice** that was not
removed since.  Just then what is done by the id of a listed thread is done to it alone; and behind
an id that was brought twice a thread stays as it is, whatever is done to single threads. -/
theorem keyed_iff (changes : List Change) :
    ((replay changes).ids.Nodup ↔ ∀ id, ¬Change.Repeats changes id) ∧
    (∀ t ∈ (replay changes).list, (replay changes).IsAlone t ↔ ¬Change.Repeats changes t.id) ∧
    ∀ id, Change.Repeats changes id → ∃ u, u.id = id ∧ ∀ later : List Change,
      (∀ change ∈ later, change.isSingle) → u ∈ (replay (later ++ changes)).list := by
  refine ⟨?_, fun t ht => ?_, fun id hrepeats => ?_⟩
  · exact nodup_ids_iff.trans (forall_congr' fun id => not_congr (isShared_replay changes id))
  · exact (isAlone_iff ht).trans (not_congr (isShared_replay changes t.id))
  · obtain ⟨u, hid, hhidden⟩ := exists_isHidden ((isShared_replay changes id).2 hrepeats)
    refine ⟨u, hid, fun later hsingle => ?_⟩
    obtain ⟨t, -, hpair⟩ := hhidden.replay hsingle
    exact hpair.subset (List.mem_cons_of_mem t List.mem_cons_self)

/-- One thread that is listed twice and has stopped: it is resumed by its id, and a thread under
that id stays as it is. -/
theorem keyed_iff_repeated :
    let changes : List Change :=
      [.markAllStopped, .replaceAll [{ id := 1, name := "main" }, { id := 1, name := "main" }]]
    (replay (.markRunning 1 :: changes)).allRunning = false ∧
      ¬(replay changes).IsAlone { id := 1, name := "main", running := false } := by
  intro changes
  have hrepeats : Change.Repeats changes 1 :=
    ⟨[.markAllStopped], _, [], rfl, by simp, by simp, by decide⟩
  have halone := (keyed_iff changes).2.1 { id := 1, name := "main", running := false } (by decide)
  exact ⟨by decide, fun h => halone.1 h hrepeats⟩

/-- Threads are not always kept under their ids. -/
theorem not_always_keyed : ¬∀ changes : List Change, (replay changes).ids.Nodup := fun h =>
  absurd (h [.replaceAll [{ id := 1, name := "main" }, { id := 1, name := "main" }]]) (by decide)

end Threads
end DebugConsole
