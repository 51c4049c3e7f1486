/-
# The list of breakpoints behind its index

`Breakpoints` keeps the list of breakpoints together with an index by path
(`groups`), and looks numbers up by relying on the order of the list.
`Breakpoints.WellFormed` is what these rely on; every change of the list keeps it.
Under it the index can be forgotten:

| looked up | in the list |
| --- | --- |
| `find? index` | the breakpoint with that number |
| `enabledFor path` | the enabled breakpoints of the path, in the order of numbers |
| `enabledByPath` | these for every path that has any |

What the user has decided about a breakpoint (`Breakpoint.intent`) is untouched by
all that an adapter says.
-/

import DebugConsole.Debugger.Synchronization
import Mathlib.Data.List.Nodup
import Mathlib.Data.String.Basic

namespace DebugConsole

open Protocol

/-- What the user has decided about a breakpoint: number, path, line, whether it is enabled. -/
def Breakpoint.intent (b : Breakpoint) : Nat × String × UInt32 × Bool :=
  (b.index, b.path, b.line, b.enabled)

/-- A descriptor changes nothing that the user has said. -/
theorem Breakpoint.intent_describe (descriptor : Descriptor) (b : Breakpoint) :
    (b.describe descriptor).intent = b.intent := by
  unfold describe
  split <;> rfl

namespace Breakpoints

/-- Is a breakpoint enabled and of this path? -/
def isEnabledFor (path : String) (b : Breakpoint) : Bool := b.path = path && b.enabled

/-- The lines of the enabled breakpoints of a path, in the order of the list. -/
def enabledLines (bs : Breakpoints) (path : String) : List UInt32 :=
  (bs.list.filter (isEnabledFor path)).map (·.line)

/-- The list is in the order of numbers, and the index lists for each path its numbers. -/
structure WellFormed (bs : Breakpoints) : Prop where
  sorted : bs.list.Pairwise (·.index < ·.index)
  bounded : ∀ b ∈ bs.list, b.index ≤ bs.lastIndex
  ordered : bs.groups.Pairwise (·.1 < ·.1)
  grouped : ∀ path, group path bs.groups = (bs.list.filter (·.path = path)).map (·.index)

/-- Without breakpoints everything is in order. -/
theorem wellFormed_empty : WellFormed {} where
  sorted := .nil
  bounded := fun _ h => absurd h List.not_mem_nil
  ordered := .nil
  grouped := fun _ => rfl

/-! ### Look-up by number -/

/-- In a list in order the look-up may end early. -/
theorem findIndexed?_eq_find? {list : List Breakpoint} (h : list.Pairwise (·.index < ·.index))
    (index : Nat) : findIndexed? index list = list.find? (·.index = index) := by
  induction list with
  | nil => rfl
  | cons b rest ih =>
    rw [List.pairwise_cons] at h
    rw [findIndexed?, List.find?_cons]
    rcases lt_trichotomy b.index index with hlt | heq | hgt
    · simp only [hlt, hlt.ne, decide_false, if_true]
      exact ih h.2
    · simp [heq]
    · have hnone : rest.find? (·.index = index) = none := by
        rw [List.find?_eq_none]
        intro c hc
        have := h.1 c hc
        simp only [decide_eq_true_eq]
        omega
      simp only [hgt.not_gt, hgt.ne', decide_false, if_false, hnone]

/-- A number is looked up as if the list were searched. -/
theorem WellFormed.find?_eq {bs : Breakpoints} (h : bs.WellFormed) (index : Nat) :
    bs.find? index = bs.list.find? (·.index = index) := findIndexed?_eq_find? h.sorted index

/-- Two breakpoints with one number are one. -/
theorem eq_of_index_eq {list : List Breakpoint} (h : list.Pairwise (·.index < ·.index))
    {b c : Breakpoint} (hb : b ∈ list) (hc : c ∈ list) (he : b.index = c.index) : b = c := by
  have hnodup : (list.map (·.index)).Nodup := List.pairwise_map.2 (h.imp fun hlt => hlt.ne)
  exact List.inj_on_of_nodup_map hnodup hb hc he

/-- Every breakpoint is found under its number. -/
theorem WellFormed.find?_of_mem {bs : Breakpoints} (h : bs.WellFormed) {b : Breakpoint}
    (hb : b ∈ bs.list) : bs.find? b.index = some b := by
  rw [h.find?_eq]
  cases hf : bs.list.find? (·.index = b.index) with
  | none => simpa using List.find?_eq_none.1 hf b hb
  | some c =>
    have hc : c.index = b.index := by simpa using List.find?_some hf
    rw [eq_of_index_eq h.sorted (List.mem_of_find?_eq_some hf) hb hc]

/-- What is found is there, under the number. -/
theorem WellFormed.mem_of_find? {bs : Breakpoints} (h : bs.WellFormed) {index : Nat}
    {b : Breakpoint} (hf : bs.find? index = some b) : b ∈ bs.list ∧ b.index = index := by
  rw [h.find?_eq] at hf
  exact ⟨List.mem_of_find?_eq_some hf, by simpa using List.find?_some hf⟩

/-! ### The enabled breakpoints of a path -/

/-- The enabled breakpoints of a path are those of the list, in its order. -/
theorem WellFormed.enabledFor_eq {bs : Breakpoints} (h : bs.WellFormed) (path : String) :
    bs.enabledFor path = bs.list.filter (isEnabledFor path) := by
  have hfind : ∀ b ∈ bs.list.filter (·.path = path), (bs.find? ∘ (·.index)) b = some b :=
    fun b hb => h.find?_of_mem (List.mem_of_mem_filter hb)
  rw [enabledFor, h.grouped, List.filterMap_map, List.filterMap_congr hfind, List.filterMap_some,
    List.filter_filter]
  exact List.filter_congr fun b _ => Bool.and_comm ..

/-- So are their lines. -/
theorem WellFormed.map_line_enabledFor {bs : Breakpoints} (h : bs.WellFormed) (path : String) :
    (bs.enabledFor path).map (·.line) = bs.enabledLines path := by
  rw [h.enabledFor_eq, enabledLines]

/-- A path without a group has no numbers. -/
theorem group_eq_nil {path : String} {groups : List (String × List Nat)}
    (h : ∀ entry ∈ groups, entry.1 ≠ path) : group path groups = [] := by
  induction groups with
  | nil => rfl
  | cons entry rest ih =>
    rw [group, if_neg (h entry List.mem_cons_self)]
    exact ih fun e he => h e (List.mem_cons_of_mem _ he)

/-- A path with enabled breakpoints is pushed with all others. -/
theorem mem_enabledByPath {bs : Breakpoints} {path : String}
    (hne : bs.enabledFor path ≠ []) : (path, bs.enabledFor path) ∈ bs.enabledByPath := by
  have hgroup : ∃ entry ∈ bs.groups, entry.1 = path := by
    by_contra hnone
    have hempty : group path bs.groups = [] :=
      group_eq_nil fun entry he heq => hnone ⟨entry, he, heq⟩
    exact hne (by rw [enabledFor, hempty]; rfl)
  obtain ⟨entry, hmem, rfl⟩ := hgroup
  rw [enabledByPath, List.mem_filter]
  exact ⟨List.mem_map.2 ⟨entry, hmem, rfl⟩, by simpa using hne⟩

/-- Each path comes with its enabled breakpoints. -/
theorem eq_enabledFor_of_mem_enabledByPath {bs : Breakpoints} {entry : String × List Breakpoint}
    (h : entry ∈ bs.enabledByPath) : entry.2 = bs.enabledFor entry.1 := by
  obtain ⟨_, _, rfl⟩ := List.mem_map.1 (List.mem_filter.1 h).1
  rfl

/-! ### Changes that keep numbers and paths -/

/-- Numbers and paths decide whether the index is right. -/
theorem WellFormed.of_keys {bs bs' : Breakpoints} (h : bs.WellFormed)
    (hkeys : bs'.list.map (fun b => (b.index, b.path)) = bs.list.map fun b => (b.index, b.path))
    (hgroups : bs'.groups = bs.groups) (hlast : bs'.lastIndex = bs.lastIndex) :
    bs'.WellFormed := by
  have hindex : bs'.list.map (·.index) = bs.list.map (·.index) := by
    simpa [Function.comp_def] using congrArg (List.map Prod.fst) hkeys
  refine ⟨?_, fun b hb => ?_, hgroups ▸ h.ordered, fun path => ?_⟩
  · exact List.pairwise_map.1 (hindex ▸ List.pairwise_map.2 h.sorted)
  · have hmem : b.index ∈ bs.list.map (·.index) := hindex ▸ List.mem_map_of_mem hb
    obtain ⟨c, hc, he⟩ := List.mem_map.1 hmem
    rw [hlast, ← he]
    exact h.bounded c hc
  · have hfilter := congrArg (fun keys => (keys.filter (·.2 = path)).map Prod.fst) hkeys
    simp only [List.filter_map, List.map_map, Function.comp_def] at hfilter
    rw [hgroups, h.grouped]
    exact hfilter.symm

/-- A change that keeps a property of breakpoints keeps it in a list. -/
theorem map_changeFirst {γ : Type} {g : Breakpoint → γ} {f : Breakpoint → Breakpoint}
    (hf : ∀ b, g (f b) = g b) (p : Breakpoint → Bool) (list : List Breakpoint) :
    (changeFirst p f list).map g = list.map g := by
  induction list with
  | nil => rfl
  | cons b rest ih =>
    rw [changeFirst]
    split
    · rw [List.map_cons, List.map_cons, hf]
    · rw [List.map_cons, List.map_cons, ih]

/-- At most one breakpoint changes. -/
theorem modify_list (bs : Breakpoints) (index : Nat) (f : Breakpoint → Breakpoint) :
    (bs.modify index f).list = bs.list ∨
      (bs.modify index f).list = changeFirst (·.index = index) f bs.list := by
  unfold modify
  split
  · exact .inr rfl
  · exact .inl rfl

@[simp] theorem modify_groups (bs : Breakpoints) (index : Nat) (f : Breakpoint → Breakpoint) :
    (bs.modify index f).groups = bs.groups := by
  unfold modify
  split <;> rfl

@[simp] theorem modify_lastIndex (bs : Breakpoints) (index : Nat) (f : Breakpoint → Breakpoint) :
    (bs.modify index f).lastIndex = bs.lastIndex := by
  unfold modify
  split <;> rfl

/-- A property that a change keeps is kept in the whole list. -/
theorem map_modify {γ : Type} {g : Breakpoint → γ} {f : Breakpoint → Breakpoint}
    (hf : ∀ b, g (f b) = g b) (bs : Breakpoints) (index : Nat) :
    (bs.modify index f).list.map g = bs.list.map g := by
  rcases bs.modify_list index f with h | h <;> rw [h]
  exact map_changeFirst hf ..

/-- A change that keeps number and path keeps the order. -/
theorem WellFormed.modify {bs : Breakpoints} (h : bs.WellFormed) (index : Nat)
    {f : Breakpoint → Breakpoint} (hf : ∀ b, ((f b).index, (f b).path) = (b.index, b.path)) :
    (bs.modify index f).WellFormed :=
  h.of_keys (map_modify hf bs index) (bs.modify_groups index f) (bs.modify_lastIndex index f)

/-! ### The first breakpoint that is found -/

/-- Where no breakpoint is meant nothing changes. -/
theorem changeFirst_eq_self {p : Breakpoint → Bool} {f : Breakpoint → Breakpoint}
    {list : List Breakpoint} (h : list.find? p = none) : changeFirst p f list = list := by
  induction list with
  | nil => rfl
  | cons b rest ih =>
    rw [List.find?_cons] at h
    rw [changeFirst]
    split_ifs with hp
    · rw [hp] at h
      cases h
    · rw [Bool.not_eq_true] at hp
      rw [hp] at h
      rw [ih h]

/-- The breakpoint that is changed is the one with the number of the first. -/
theorem changeFirst_eq_map {p : Breakpoint → Bool} (f : Breakpoint → Breakpoint)
    {list : List Breakpoint} (h : list.Pairwise (·.index < ·.index)) {found : Breakpoint}
    (hfound : list.find? p = some found) :
    changeFirst p f list = list.map fun b => if b.index = found.index then f b else b := by
  induction list with
  | nil => cases hfound
  | cons b rest ih =>
    obtain ⟨hfirst, hrest⟩ := List.pairwise_cons.1 h
    rw [List.find?_cons] at hfound
    rw [changeFirst, List.map_cons]
    cases hp : p b with
    | true =>
      rw [hp] at hfound
      obtain rfl := Option.some.inj hfound
      have hothers : rest.map (fun c => if c.index = b.index then f c else c) = rest := by
        refine (List.map_congr_left fun c hc => ?_).trans (List.map_id rest)
        exact if_neg (hfirst c hc).ne'
      rw [if_pos rfl, if_pos rfl, hothers]
    | false =>
      rw [hp] at hfound
      have hne : b.index ≠ found.index := (hfirst found (List.mem_of_find?_eq_some hfound)).ne
      rw [if_neg Bool.false_ne_true, if_neg hne, ih hrest hfound]

/-- Nothing that meets the condition stands before what is found. -/
theorem index_le_of_find? {p : Breakpoint → Bool} {list : List Breakpoint}
    (h : list.Pairwise (·.index < ·.index)) {found b : Breakpoint}
    (hfound : list.find? p = some found) (hb : b ∈ list) (hp : p b) : found.index ≤ b.index := by
  induction list with
  | nil => cases hfound
  | cons c rest ih =>
    obtain ⟨hfirst, hrest⟩ := List.pairwise_cons.1 h
    rw [List.find?_cons] at hfound
    cases hc : p c with
    | true =>
      rw [hc] at hfound
      obtain rfl := Option.some.inj hfound
      rcases List.mem_cons.1 hb with rfl | hb
      · exact le_rfl
      · exact (hfirst b hb).le
    | false =>
      rw [hc] at hfound
      rcases List.mem_cons.1 hb with rfl | hb
      · rw [hc] at hp
        cases hp
      · exact ih hrest hfound hb

/-- A change by number concerns the one breakpoint with the number. -/
theorem WellFormed.list_modify {bs : Breakpoints} (h : bs.WellFormed) (index : Nat)
    (f : Breakpoint → Breakpoint) :
    (bs.modify index f).list = bs.list.map fun b => if b.index = index then f b else b := by
  rw [Breakpoints.modify, h.find?_eq]
  cases hfind : bs.list.find? (·.index = index) with
  | none =>
    refine ((List.map_congr_left fun b hb => ?_).trans (List.map_id bs.list)).symm
    exact if_neg (by simpa using List.find?_eq_none.1 hfind b hb)
  | some found =>
    have hindex : found.index = index := by simpa using List.find?_some hfind
    rw [← hindex]
    have hfound : bs.list.find? (·.index = found.index) = some found := hindex ▸ hfind
    exact changeFirst_eq_map f h.sorted hfound

/-- A change of a breakpoint can be undone. -/
theorem WellFormed.modify_modify_eq_self {bs : Breakpoints} (h : bs.WellFormed) {b : Breakpoint}
    {index : Nat} (hb : bs.find? index = some b) {f g : Breakpoint → Breakpoint}
    (hf : ∀ b, ((f b).index, (f b).path) = (b.index, b.path)) (hundone : g (f b) = b) :
    (bs.modify index f).modify index g = bs := by
  have hlist : ((bs.modify index f).modify index g).list = bs.list := by
    rw [(h.modify index hf).list_modify, h.list_modify, List.map_map]
    refine (List.map_congr_left fun c hc => ?_).trans (List.map_id bs.list)
    obtain ⟨hmem, hindex⟩ := h.mem_of_find? hb
    rw [Function.comp_apply]
    by_cases hc' : c.index = index
    · obtain rfl := eq_of_index_eq h.sorted hc hmem (hc'.trans hindex.symm)
      have hkept : (f c).index = index := (Prod.mk.inj (hf c)).1.trans hc'
      rw [if_pos hc', if_pos hkept, hundone, id]
    · rw [if_neg hc', if_neg hc', id]
  have hgroups : ((bs.modify index f).modify index g).groups = bs.groups := by simp
  have hlast : ((bs.modify index f).modify index g).lastIndex = bs.lastIndex := by simp
  generalize (bs.modify index f).modify index g = bs' at hlist hgroups hlast ⊢
  cases bs'
  cases hlist
  cases hgroups
  cases hlast
  rfl

/-! ### What an adapter says leaves the intent alone -/

/-- The same breakpoints as far as the user has decided about them. -/
structure SameIntent (bs bs' : Breakpoints) : Prop where
  intents : bs'.list.map (·.intent) = bs.list.map (·.intent)
  groups : bs'.groups = bs.groups
  lastIndex : bs'.lastIndex = bs.lastIndex

theorem SameIntent.refl (bs : Breakpoints) : SameIntent bs bs := ⟨rfl, rfl, rfl⟩

/-- One change after the other. -/
theorem SameIntent.trans {bs₁ bs₂ bs₃ : Breakpoints} (h₁ : SameIntent bs₁ bs₂)
    (h₂ : SameIntent bs₂ bs₃) : SameIntent bs₁ bs₃ :=
  ⟨h₂.intents.trans h₁.intents, h₂.groups.trans h₁.groups, h₂.lastIndex.trans h₁.lastIndex⟩

/-- What depends on the intent alone stays the same. -/
theorem SameIntent.map_eq {γ : Type} {bs bs' : Breakpoints} (h : SameIntent bs bs')
    (g : Nat × String × UInt32 × Bool → γ) :
    bs'.list.map (fun b => g b.intent) = bs.list.map fun b => g b.intent := by
  simpa [Function.comp_def] using congrArg (List.map g) h.intents

/-- The order depends on what the user has said alone. -/
theorem SameIntent.wellFormed {bs bs' : Breakpoints} (h : SameIntent bs bs')
    (hwf : bs.WellFormed) : bs'.WellFormed :=
  hwf.of_keys (h.map_eq fun i => (i.1, i.2.1)) h.groups h.lastIndex

/-- The enabled breakpoints of a path agree in number, line and all else the user decides. -/
theorem SameIntent.map_intent_enabled {bs bs' : Breakpoints} (h : SameIntent bs bs')
    (path : String) : (bs'.list.filter (isEnabledFor path)).map (·.intent) =
      (bs.list.filter (isEnabledFor path)).map (·.intent) := by
  have hfilter := congrArg (List.filter fun i => i.2.1 = path && i.2.2.2) h.intents
  rwa [List.filter_map, List.filter_map] at hfilter

/-- So do the enabled lines. -/
theorem SameIntent.enabledLines_eq {bs bs' : Breakpoints} (h : SameIntent bs bs')
    (path : String) : bs'.enabledLines path = bs.enabledLines path := by
  simpa [Function.comp_def, Breakpoint.intent, enabledLines] using
    congrArg (List.map fun i => i.2.2.1) (h.map_intent_enabled path)

/-- The enabled breakpoints of a path keep their numbers. -/
theorem SameIntent.map_index_enabledFor {bs bs' : Breakpoints} (h : SameIntent bs bs')
    (hwf : bs.WellFormed) (path : String) :
    (bs'.enabledFor path).map (·.index) = (bs.enabledFor path).map (·.index) := by
  rw [hwf.enabledFor_eq, (h.wellFormed hwf).enabledFor_eq]
  simpa [Function.comp_def, Breakpoint.intent] using
    congrArg (List.map Prod.fst) (h.map_intent_enabled path)

/-- A change that keeps the intent of a breakpoint. -/
theorem SameIntent.modify {f : Breakpoint → Breakpoint} (hf : ∀ b, (f b).intent = b.intent)
    (bs : Breakpoints) (index : Nat) : SameIntent bs (bs.modify index f) :=
  ⟨map_modify hf bs index, bs.modify_groups index f, bs.modify_lastIndex index f⟩

/-- The same where the breakpoint is found by its id. -/
theorem SameIntent.modifyId {f : Breakpoint → Breakpoint} (hf : ∀ b, (f b).intent = b.intent)
    (bs : Breakpoints) (id : Int64) : SameIntent bs (bs.modifyId id f) :=
  ⟨map_changeFirst hf .., rfl, rfl⟩

/-- Descriptors change nothing that the user has said. -/
theorem SameIntent.describeAll (bs : Breakpoints) (pairs : List (Nat × Descriptor)) :
    SameIntent bs (bs.describeAll pairs) := by
  induction pairs generalizing bs with
  | nil => exact .refl bs
  | cons pair rest ih =>
    exact (SameIntent.modify (Breakpoint.intent_describe pair.2) bs pair.1).trans (ih _)

/-! ### Adding and deleting -/

/-- A number that joins a group comes last in it. -/
theorem group_joinGroup_self {groups : List (String × List Nat)}
    (h : groups.Pairwise (·.1 < ·.1)) (path : String) (index : Nat) :
    group path (joinGroup path index groups) = group path groups ++ [index] := by
  induction groups with
  | nil => simp [joinGroup, group]
  | cons entry rest ih =>
    obtain ⟨p, indices⟩ := entry
    rw [List.pairwise_cons] at h
    rcases lt_trichotomy path p with hlt | rfl | hgt
    · have hnone : group path rest = [] :=
        group_eq_nil fun e he => (hlt.trans (h.1 e he)).ne'
      simp [joinGroup, hlt, group, hlt.ne', hnone]
    · simp [joinGroup, group]
    · simp [joinGroup, hgt.not_gt, hgt.ne', group, hgt.ne, ih h.2]

/-- Other groups stay as they are. -/
theorem group_joinGroup_of_ne {path other : String} (hne : other ≠ path) (index : Nat)
    (groups : List (String × List Nat)) :
    group other (joinGroup path index groups) = group other groups := by
  induction groups with
  | nil => simp [joinGroup, group, hne.symm]
  | cons entry rest ih =>
    obtain ⟨p, indices⟩ := entry
    rw [joinGroup]
    split_ifs with hlt heq
    · simp [group, hne.symm]
    · simp [group, ← heq, hne.symm]
    · simp [group, ih]

/-- No group comes in but that of the path. -/
theorem mem_joinGroup {path : String} {index : Nat} {groups : List (String × List Nat)}
    {entry : String × List Nat} (h : entry ∈ joinGroup path index groups) :
    entry.1 = path ∨ ∃ e ∈ groups, e.1 = entry.1 := by
  induction groups with
  | nil => simp_all [joinGroup]
  | cons e rest ih =>
    obtain ⟨p, indices⟩ := e
    rw [joinGroup] at h
    split_ifs at h with hlt heq
    · rcases List.mem_cons.1 h with rfl | h
      · exact .inl rfl
      · exact .inr ⟨entry, h, rfl⟩
    · rcases List.mem_cons.1 h with rfl | h
      · exact .inl heq.symm
      · exact .inr ⟨entry, List.mem_cons_of_mem _ h, rfl⟩
    · rcases List.mem_cons.1 h with rfl | h
      · exact .inr ⟨_, List.mem_cons_self, rfl⟩
      · exact (ih h).imp id fun ⟨e, he, heq⟩ => ⟨e, List.mem_cons_of_mem _ he, heq⟩

/-- Groups stay in the order of their paths. -/
theorem joinGroup_ordered {groups : List (String × List Nat)}
    (h : groups.Pairwise (·.1 < ·.1)) (path : String) (index : Nat) :
    (joinGroup path index groups).Pairwise (·.1 < ·.1) := by
  induction groups with
  | nil => simp [joinGroup]
  | cons entry rest ih =>
    obtain ⟨p, indices⟩ := entry
    obtain ⟨hp, hrest⟩ := List.pairwise_cons.1 h
    rw [joinGroup]
    split_ifs with hlt heq
    · refine List.pairwise_cons.2 ⟨fun e he => ?_, h⟩
      rcases List.mem_cons.1 he with rfl | he
      · exact hlt
      · exact hlt.trans (hp e he)
    · exact List.pairwise_cons.2 ⟨hp, hrest⟩
    · refine List.pairwise_cons.2 ⟨fun e he => ?_, ih hrest⟩
      rcases mem_joinGroup he with he | ⟨c, hc, he⟩
      · exact he ▸ lt_of_le_of_ne (not_lt.1 hlt) (Ne.symm heq)
      · exact he ▸ hp c hc

/-- **A breakpoint may be added.** -/
theorem WellFormed.add {bs : Breakpoints} (h : bs.WellFormed) (path : String) (line : UInt32) :
    (bs.add path line).WellFormed where
  sorted := by
    rw [Breakpoints.add, List.pairwise_append]
    refine ⟨h.sorted, List.pairwise_singleton .., fun b hb c hc => ?_⟩
    rw [List.mem_singleton.1 hc]
    exact Nat.lt_succ_of_le (h.bounded b hb)
  bounded b hb := by
    rcases List.mem_append.1 hb with hb | hb
    · exact Nat.le_succ_of_le (h.bounded b hb)
    · rw [List.mem_singleton.1 hb]
      exact Nat.le_refl _
  ordered := joinGroup_ordered h.ordered ..
  grouped p := by
    rw [Breakpoints.add, List.filter_append, List.map_append, ← h.grouped]
    by_cases hp : p = path
    · subst hp
      rw [group_joinGroup_self h.ordered]
      simp
    · rw [group_joinGroup_of_ne hp]
      simp [Ne.symm hp]

/-- A number that leaves a group is gone from it. -/
theorem group_leaveGroup_self {groups : List (String × List Nat)}
    (h : groups.Pairwise (·.1 < ·.1)) (path : String) (index : Nat) :
    group path (leaveGroup path index groups) = (group path groups).filter (· ≠ index) := by
  induction groups with
  | nil => rfl
  | cons entry rest ih =>
    obtain ⟨p, indices⟩ := entry
    rw [List.pairwise_cons] at h
    by_cases hp : p = path
    · rw [leaveGroup, if_pos hp, group, if_pos hp]
      split
      · rename_i hnil
        rw [hnil]
        exact group_eq_nil fun e he => hp ▸ (h.1 e he).ne'
      · rw [group, if_pos hp]
    · rw [leaveGroup, if_neg hp, group, if_neg hp, group, if_neg hp]
      exact ih h.2

/-- Other groups stay as they are. -/
theorem group_leaveGroup_of_ne {path other : String} (hne : other ≠ path) (index : Nat)
    (groups : List (String × List Nat)) :
    group other (leaveGroup path index groups) = group other groups := by
  induction groups with
  | nil => rfl
  | cons entry rest ih =>
    obtain ⟨p, indices⟩ := entry
    by_cases hp : p = path
    · have hother : p ≠ other := fun he => hne (he.symm.trans hp)
      rw [leaveGroup, if_pos hp]
      split <;> simp [group, hother]
    · rw [leaveGroup, if_neg hp, group, group, ih]

/-- Paths may go away, and stay in their order. -/
theorem map_fst_leaveGroup_sublist (path : String) (index : Nat)
    (groups : List (String × List Nat)) :
    ((leaveGroup path index groups).map Prod.fst).Sublist (groups.map Prod.fst) := by
  induction groups with
  | nil => exact List.Sublist.refl _
  | cons entry rest ih =>
    obtain ⟨p, indices⟩ := entry
    rw [leaveGroup]
    split
    · split
      · exact List.sublist_cons_self ..
      · exact List.Sublist.refl _
    · exact ih.cons_cons p

/-- In a list in order a number is dropped wherever it is. -/
theorem dropIndexed_eq_filter {list : List Breakpoint} (h : list.Pairwise (·.index < ·.index))
    (index : Nat) : dropIndexed index list = list.filter (·.index ≠ index) := by
  induction list with
  | nil => rfl
  | cons b rest ih =>
    rw [List.pairwise_cons] at h
    rw [dropIndexed]
    split_ifs with he
    · have hrest : ∀ c ∈ rest, c.index ≠ index := fun c hc => he ▸ (h.1 c hc).ne'
      simpa [List.filter_cons, he] using
        (List.filter_eq_self.2 fun c hc => decide_eq_true (hrest c hc)).symm
    · rw [ih h.2, List.filter_cons_of_pos (by simpa using he)]

/-- What a deletion takes out: the breakpoint with the number, and nothing else. -/
theorem WellFormed.delete_eq {bs bs' : Breakpoints} (h : bs.WellFormed) {index : Nat}
    {b : Breakpoint} (hd : bs.delete index = .ok (b, bs')) :
    b ∈ bs.list ∧ b.index = index ∧ bs'.list = bs.list.filter (·.index ≠ index) ∧
      bs'.groups = leaveGroup b.path index bs.groups ∧ bs'.lastIndex = bs.lastIndex := by
  unfold Breakpoints.delete at hd
  split at hd
  · rename_i c hf
    obtain ⟨rfl, rfl⟩ := Prod.mk.inj (Except.ok.inj hd)
    obtain ⟨hmem, hindex⟩ := h.mem_of_find? hf
    exact ⟨hmem, hindex, dropIndexed_eq_filter h.sorted index, rfl, rfl⟩
  · exact absurd hd (by simp)

/-- **A breakpoint may be deleted.** -/
theorem WellFormed.delete {bs bs' : Breakpoints} (h : bs.WellFormed) {index : Nat}
    {b : Breakpoint} (hd : bs.delete index = .ok (b, bs')) : bs'.WellFormed := by
  obtain ⟨hb, rfl, hlist, hgroups, hlast⟩ := h.delete_eq hd
  refine ⟨hlist ▸ h.sorted.filter _, fun c hc => ?_, ?_, fun path => ?_⟩
  · rw [hlist] at hc
    exact hlast ▸ h.bounded c (List.mem_of_mem_filter hc)
  · have hkeys := List.pairwise_map.2 h.ordered
    rw [hgroups]
    exact List.pairwise_map.1 (hkeys.sublist (map_fst_leaveGroup_sublist ..))
  · rw [hgroups, hlist]
    by_cases hp : path = b.path
    · subst hp
      rw [group_leaveGroup_self h.ordered, h.grouped, List.filter_map, List.filter_filter,
        List.filter_filter]
      simp only [Function.comp_def, Bool.and_comm]
    · -- no breakpoint of another path has the number
      have hfilter : ∀ c ∈ bs.list, (decide (c.path = path) && decide (c.index ≠ b.index)) =
          decide (c.path = path) := by
        intro c hc
        by_cases hpath : c.path = path
        · have hne : c.index ≠ b.index := fun he =>
            hp (hpath ▸ congrArg Breakpoint.path (eq_of_index_eq h.sorted hc hb he))
          simp [hpath, hne]
        · simp [hpath]
      rw [group_leaveGroup_of_ne hp, h.grouped, List.filter_filter, List.filter_congr hfilter]

/-! ### A change concerns one path -/

/-- Adding a breakpoint changes the lines of its own path alone. -/
theorem enabledLines_add_of_ne {path other : String} (hne : other ≠ path) (bs : Breakpoints)
    (line : UInt32) : (bs.add path line).enabledLines other = bs.enabledLines other := by
  rw [enabledLines, add, List.filter_append, List.map_append]
  simp [isEnabledFor, hne.symm, enabledLines]

/-- There its line comes last. -/
theorem enabledLines_add_self (bs : Breakpoints) (path : String) (line : UInt32) :
    (bs.add path line).enabledLines path = bs.enabledLines path ++ [line] := by
  rw [enabledLines, add, List.filter_append, List.map_append]
  simp [isEnabledFor, enabledLines]

/-- A change outside of what is looked for is not seen. -/
theorem filter_changeFirst {p q : Breakpoint → Bool} {f : Breakpoint → Breakpoint}
    {list : List Breakpoint} (h : ∀ b ∈ list, p b → q b = false ∧ q (f b) = false) :
    (changeFirst p f list).filter q = list.filter q := by
  induction list with
  | nil => rfl
  | cons b rest ih =>
    rw [changeFirst]
    split_ifs with hp
    · obtain ⟨hq, hqf⟩ := h b List.mem_cons_self hp
      rw [List.filter_cons_of_neg (by simp [hqf]), List.filter_cons_of_neg (by simp [hq])]
    · rw [List.filter_cons, List.filter_cons, ih fun c hc => h c (List.mem_cons_of_mem _ hc)]

/-- The paths of the breakpoints with a number. -/
def IsPathOf (bs : Breakpoints) (index : Nat) (path : String) : Prop :=
  ∀ b ∈ bs.list, b.index = index → b.path = path

/-- A breakpoint that is found has the path under its number. -/
theorem WellFormed.isPathOf {bs : Breakpoints} (h : bs.WellFormed) {index : Nat} {b : Breakpoint}
    (hfind : bs.find? index = some b) : bs.IsPathOf index b.path := fun c hc hindex => by
  obtain ⟨hb, heq⟩ := h.mem_of_find? hfind
  rw [eq_of_index_eq h.sorted hc hb (hindex.trans heq.symm)]

/-- Numbers and paths decide which path a number has. -/
theorem IsPathOf.of_keys {bs bs' : Breakpoints} {index : Nat} {path : String}
    (h : bs.IsPathOf index path)
    (hkeys : bs'.list.map (fun b => (b.index, b.path)) = bs.list.map fun b => (b.index, b.path)) :
    bs'.IsPathOf index path := fun b hb hindex => by
  have hmem : (b.index, b.path) ∈ bs.list.map fun b => (b.index, b.path) :=
    hkeys ▸ List.mem_map_of_mem hb
  obtain ⟨c, hc, heq⟩ := List.mem_map.1 hmem
  obtain ⟨hci, hcp⟩ := Prod.mk.inj heq
  rw [← hcp]
  exact h c hc (hci.trans hindex)

/-- Enabling or disabling a breakpoint concerns its path alone. -/
theorem IsPathOf.enabledLines_modify {bs : Breakpoints} {index : Nat} {path : String}
    (h : bs.IsPathOf index path) {other : String} (hne : other ≠ path) (enabled : Bool) :
    (bs.modify index fun b => { b with enabled }).enabledLines other =
      bs.enabledLines other := by
  rcases bs.modify_list index fun b => { b with enabled } with hlist | hlist
  · rw [enabledLines, hlist, enabledLines]
  · rw [enabledLines, hlist, filter_changeFirst, enabledLines]
    intro b hb hchosen
    have hpath : b.path ≠ other := fun heq =>
      hne (heq.symm.trans (h b hb (by simpa using hchosen)))
    simp [isEnabledFor, hpath]

/-- Deleting a breakpoint concerns its path alone. -/
theorem WellFormed.enabledLines_delete_of_ne {bs bs' : Breakpoints} (h : bs.WellFormed)
    {index : Nat} {b : Breakpoint} (hdelete : bs.delete index = .ok (b, bs')) {path : String}
    (hne : path ≠ b.path) : bs'.enabledLines path = bs.enabledLines path := by
  obtain ⟨hb, hindex, hlist, _, _⟩ := h.delete_eq hdelete
  rw [enabledLines, hlist, List.filter_filter, enabledLines]
  congr 1
  refine List.filter_congr fun c hc => ?_
  by_cases hcb : c = b
  · subst hcb
    simp [isEnabledFor, hne.symm]
  · have hother : c.index ≠ index := fun heq =>
      hcb (eq_of_index_eq h.sorted hc hb (heq.trans hindex.symm))
    simp [hother]

end Breakpoints
end DebugConsole
