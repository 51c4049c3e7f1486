/-
# The breakpoints are a plain list

`Breakpoints` keeps an index by path in step with its list, and looks numbers up by
relying on the list's order.  A `Listing` has neither: it is the list of breakpoints
and the number of additions.  Every edit is made on both:

| edit | on the plain list |
| --- | --- |
| `add path line` | appends a breakpoint; its number is the number of additions |
| `delete index` | erases the breakpoint with the number |
| `change index change` | changes the breakpoint with the number |
| `changeId id change` | changes the first breakpoint that carries the adapter's id |

An edit of a breakpoint that does not exist fails and leaves everything as it was.

After any edits of no breakpoints both have given the same answers and hold the same list
(`Breakpoints.replay_refines`).  That rests on `Mirrors`, which one edit keeps
(`Mirrors.edit`): the index is right (`WellFormed`) and has no group without numbers.
-/

import DebugConsole.Proofs.Registry

namespace DebugConsole

/-- What can be said anew of a breakpoint; its number, path and line are given once. -/
inductive Breakpoint.Change where
  | enable (enabled : Bool)
  | verify (verified : Bool)
  | identify (id : Int64)
  | annotate (message : Option String)

/-- A breakpoint after a change. -/
def Breakpoint.Change.apply : Change → Breakpoint → Breakpoint
  | enable enabled, b => { b with enabled }
  | verify verified, b => { b with verified }
  | identify id, b => { b with adapterId := some id }
  | annotate message, b => { b with message }

/-- No change gives a breakpoint another number or another path. -/
theorem Breakpoint.Change.apply_keys (change : Change) (b : Breakpoint) :
    ((change.apply b).index, (change.apply b).path) = (b.index, b.path) := by
  cases change <;> rfl

/-- What is done to the breakpoints. -/
inductive Edit where
  | add (path : String) (line : UInt32)
  | delete (index : Nat)
  | change (index : Nat) (change : Breakpoint.Change)
  | changeId (id : Int64) (change : Breakpoint.Change)

/-- Does an edit add a breakpoint? -/
def Edit.isAdd : Edit → Bool
  | .add _ _ => true
  | _ => false

/-- What a successful edit answers. -/
inductive Edit.Answer where
  | added (index : Nat)
  | deleted (b : Breakpoint)
  | changed

/-- Edits one after the other: their answers, and what comes out. -/
def Edit.replay {α : Type} (edit : Edit → α → Except Error Answer × α) :
    List Edit → α → List (Except Error Answer) × α
  | [], before => ([], before)
  | e :: rest, before =>
    let others := replay edit rest (edit e before).2
    ((edit e before).1 :: others.1, others.2)

/-- The breakpoints without an index: the list, and how many were ever added. -/
structure Listing where
  entries : List Breakpoint := []
  added : Nat := 0

/-- An edit of the plain list. -/
def Listing.edit : Edit → Listing → Except Error Edit.Answer × Listing
  | .add path line, plain =>
    (.ok (.added (plain.added + 1)),
      { entries := plain.entries ++ [{ index := plain.added + 1, path, line }]
        added := plain.added + 1 })
  | .delete index, plain =>
    match plain.entries.find? (·.index = index) with
    | some b => (.ok (.deleted b), { plain with entries := plain.entries.erase b })
    | none => (.error (.breakpointNotFound index), plain)
  | .change index change, plain =>
    match plain.entries.find? (·.index = index) with
    | some b => (.ok .changed, { plain with
        entries := plain.entries.map fun c => if c = b then change.apply b else c })
    | none => (.error (.breakpointNotFound index), plain)
  | .changeId id change, plain =>
    match plain.entries.find? (·.adapterId = some id) with
    | some b => (.ok .changed, { plain with
        entries := plain.entries.map fun c => if c = b then change.apply b else c })
    | none => (.error (.breakpointIdNotFound id), plain)

namespace Breakpoints

/-- An edit of the breakpoints. -/
def edit : Edit → Breakpoints → Except Error Edit.Answer × Breakpoints
  | .add path line, bs => (.ok (.added (bs.add path line).lastIndex), bs.add path line)
  | .delete index, bs =>
    match bs.delete index with
    | .ok (b, after) => (.ok (.deleted b), after)
    | .error e => (.error e, bs)
  | .change index change, bs =>
    match bs.update index change.apply with
    | .ok after => (.ok .changed, after)
    | .error e => (.error e, bs)
  | .changeId id change, bs =>
    match bs.updateId id change.apply with
    | .ok after => (.ok .changed, after)
    | .error e => (.error e, bs)

/-! ### No group is empty -/

/-- A group that is joined has a number in it. -/
theorem joinGroup_occupied {groups : List (String × List Nat)}
    (h : ∀ entry ∈ groups, entry.2 ≠ []) (path : String) (index : Nat) :
    ∀ entry ∈ joinGroup path index groups, entry.2 ≠ [] := by
  induction groups with
  | nil => simp [joinGroup]
  | cons first rest ih =>
    obtain ⟨p, indices⟩ := first
    obtain ⟨hfirst, hrest⟩ := List.forall_mem_cons.1 h
    rw [joinGroup]
    split_ifs with hlt heq
    · exact List.forall_mem_cons.2 ⟨List.cons_ne_nil index [], h⟩
    · exact List.forall_mem_cons.2 ⟨by simp, hrest⟩
    · exact List.forall_mem_cons.2 ⟨hfirst, ih hrest⟩

/-- A group that is left without a number goes away. -/
theorem leaveGroup_occupied {groups : List (String × List Nat)}
    (h : ∀ entry ∈ groups, entry.2 ≠ []) (path : String) (index : Nat) :
    ∀ entry ∈ leaveGroup path index groups, entry.2 ≠ [] := by
  induction groups with
  | nil => exact h
  | cons first rest ih =>
    obtain ⟨p, indices⟩ := first
    obtain ⟨hfirst, hrest⟩ := List.forall_mem_cons.1 h
    rw [leaveGroup]
    split_ifs with heq
    · cases indices.filter (· ≠ index) with
      | nil => exact hrest
      | cons i remaining => exact List.forall_mem_cons.2 ⟨List.cons_ne_nil i remaining, hrest⟩
    · exact List.forall_mem_cons.2 ⟨hfirst, ih hrest⟩

/-- Leaving a group concerns no other. -/
theorem mem_leaveGroup_of_ne {path : String} (index : Nat) {groups : List (String × List Nat)}
    {entry : String × List Nat} (hne : entry.1 ≠ path) :
    entry ∈ leaveGroup path index groups ↔ entry ∈ groups := by
  induction groups with
  | nil => exact Iff.rfl
  | cons first rest ih =>
    obtain ⟨p, indices⟩ := first
    have hskip (numbers : List Nat) (heq : p = path) : entry ≠ (p, numbers) :=
      fun h => hne (congrArg Prod.fst h |>.trans heq)
    rw [leaveGroup]
    split_ifs with heq
    · split <;> simp [hskip _ heq]
    · rw [List.mem_cons, List.mem_cons, ih]

/-- In an ordered list of groups a path has one. -/
theorem group_of_mem {groups : List (String × List Nat)} (h : groups.Pairwise (·.1 < ·.1))
    {entry : String × List Nat} (hmem : entry ∈ groups) : group entry.1 groups = entry.2 := by
  induction groups with
  | nil => cases hmem
  | cons first rest ih =>
    obtain ⟨hfirst, hrest⟩ := List.pairwise_cons.1 h
    rw [group]
    rcases List.mem_cons.1 hmem with rfl | hmem
    · exact if_pos rfl
    · rw [if_neg (hfirst entry hmem).ne, ih hrest hmem]

/-- A group with a number in it is there. -/
theorem mem_of_group_ne_nil {groups : List (String × List Nat)} {path : String}
    (h : group path groups ≠ []) : (path, group path groups) ∈ groups := by
  induction groups with
  | nil => exact absurd rfl h
  | cons first rest ih =>
    rw [group] at h ⊢
    split_ifs at h ⊢ with heq
    · exact heq ▸ List.mem_cons_self
    · exact List.mem_cons_of_mem _ (ih h)

/-! ### What is kept by an edit -/

/-- The breakpoints hold the plain list, indexed without a group that is empty. -/
structure Mirrors (bs : Breakpoints) (plain : Listing) : Prop where
  wellFormed : bs.WellFormed
  occupied : ∀ entry ∈ bs.groups, entry.2 ≠ []
  entries : bs.list = plain.entries
  added : bs.lastIndex = plain.added

/-- At first both lists are empty. -/
theorem mirrors_empty : Mirrors {} {} :=
  ⟨wellFormed_empty, fun _ h => absurd h List.not_mem_nil, rfl, rfl⟩

/-- In a list ordered by number an entry is the one with its number. -/
theorem eq_iff_index_eq {list : List Breakpoint} (h : list.Pairwise (·.index < ·.index))
    {b c : Breakpoint} (hb : b ∈ list) (hc : c ∈ list) : c = b ↔ c.index = b.index :=
  ⟨congrArg Breakpoint.index, eq_of_index_eq h hc hb⟩

/-- Changing the first entry that meets a condition changes no other. -/
theorem changeFirst_eq_map_eq {p : Breakpoint → Bool} (f : Breakpoint → Breakpoint)
    {list : List Breakpoint} (h : list.Pairwise (·.index < ·.index)) {found : Breakpoint}
    (hfound : list.find? p = some found) :
    changeFirst p f list = list.map fun b => if b = found then f found else b := by
  rw [changeFirst_eq_map f h hfound]
  refine List.map_congr_left fun b hb => ?_
  have hiff := eq_iff_index_eq h (List.mem_of_find?_eq_some hfound) hb
  by_cases heq : b = found
  · rw [if_pos (hiff.1 heq), if_pos heq, heq]
  · rw [if_neg (fun hindex => heq (hiff.2 hindex)), if_neg heq]

/-- What is dropped is what was found under the number. -/
theorem dropIndexed_eq_erase {list : List Breakpoint} {index : Nat} {found : Breakpoint}
    (hfound : list.find? (·.index = index) = some found) :
    dropIndexed index list = list.erase found := by
  induction list with
  | nil => cases hfound
  | cons b rest ih =>
    rw [List.find?_cons] at hfound
    rw [dropIndexed]
    split_ifs with heq
    · rw [decide_eq_true heq] at hfound
      obtain rfl := Option.some.inj hfound
      rw [List.erase_cons_head]
    · rw [decide_eq_false heq] at hfound
      have hne : b ≠ found := fun h => heq (by simpa [h] using List.find?_some hfound)
      rw [ih hfound, List.erase_cons_tail (by simpa using hne)]

/-- A change of one entry keeps what the index is about. -/
theorem Mirrors.of_change {bs bs' : Breakpoints} {plain : Listing} (h : Mirrors bs plain)
    {p : Breakpoint → Bool} {found : Breakpoint} (hfound : bs.list.find? p = some found)
    (change : Breakpoint.Change) (hlist : bs'.list = changeFirst p change.apply bs.list)
    (hgroups : bs'.groups = bs.groups) (hlast : bs'.lastIndex = bs.lastIndex) :
    Mirrors bs' { plain with
      entries := plain.entries.map (fun b => if b = found then change.apply found else b) } where
  wellFormed := h.wellFormed.of_keys (hlist ▸ map_changeFirst change.apply_keys ..) hgroups hlast
  occupied := hgroups ▸ h.occupied
  entries := by rw [hlist, changeFirst_eq_map_eq _ h.wellFormed.sorted hfound, h.entries]
  added := hlast.trans h.added

/-- **An edit of the breakpoints is an edit of the plain list.** -/
theorem Mirrors.edit {bs : Breakpoints} {plain : Listing} (h : Mirrors bs plain) (e : Edit) :
    (bs.edit e).1 = (plain.edit e).1 ∧ Mirrors (bs.edit e).2 (plain.edit e).2 := by
  cases e with
  | add path line =>
    refine ⟨by rw [Breakpoints.edit, Listing.edit, add, h.added], h.wellFormed.add path line,
      joinGroup_occupied h.occupied path _, ?_, ?_⟩
    · rw [Breakpoints.edit, Listing.edit, add, h.entries, h.added]
    · rw [Breakpoints.edit, Listing.edit, add, h.added]
  | delete index =>
    rw [Breakpoints.edit, Listing.edit, ← h.entries, ← h.wellFormed.find?_eq]
    rcases hdelete : bs.delete index with e | ⟨b, after⟩
    · cases hfind : bs.find? index <;> rw [Breakpoints.delete, hfind] at hdelete <;> cases hdelete
      exact ⟨rfl, h⟩
    · have hafter := h.wellFormed.delete hdelete
      cases hfind : bs.find? index <;> rw [Breakpoints.delete, hfind] at hdelete <;> cases hdelete
      refine ⟨rfl, hafter, leaveGroup_occupied h.occupied b.path index, ?_, h.added⟩
      exact dropIndexed_eq_erase (h.wellFormed.find?_eq index ▸ hfind)
  | change index change =>
    rw [Breakpoints.edit, Listing.edit, update, ← h.entries, ← h.wellFormed.find?_eq]
    cases hfind : bs.find? index with
    | none => exact ⟨rfl, h⟩
    | some b =>
      have hfound := h.wellFormed.find?_eq index ▸ hfind
      refine ⟨rfl, h.entries ▸ h.of_change hfound change ?_ ?_ ?_⟩ <;> rw [modify, hfind]
  | changeId id change =>
    rw [Breakpoints.edit, Listing.edit, updateId, ← h.entries, findId?]
    cases hfind : bs.list.find? (·.adapterId = some id) with
    | none => exact ⟨rfl, h⟩
    | some b => exact ⟨rfl, h.entries ▸ h.of_change hfind change rfl rfl rfl⟩

/-- **Edits of the breakpoints are edits of the plain list**, with the same answers. -/
theorem Mirrors.replay {bs : Breakpoints} {plain : Listing} (h : Mirrors bs plain)
    (edits : List Edit) :
    (Edit.replay Breakpoints.edit edits bs).1 = (Edit.replay Listing.edit edits plain).1 ∧
      Mirrors (Edit.replay Breakpoints.edit edits bs).2
        (Edit.replay Listing.edit edits plain).2 := by
  induction edits generalizing bs plain with
  | nil => exact ⟨rfl, h⟩
  | cons e rest ih =>
    obtain ⟨hanswer, hnext⟩ := h.edit e
    obtain ⟨hanswers, hafter⟩ := ih hnext
    exact ⟨congrArg₂ List.cons hanswer hanswers, hafter⟩

/-- The plain list counts its additions. -/
theorem added_edit (e : Edit) (plain : Listing) :
    (plain.edit e).2.added = plain.added + if e.isAdd then 1 else 0 := by
  cases e with
  | add path line => rfl
  | _ => rw [Listing.edit]; split <;> rfl

/-- A listing counts what was added. -/
theorem added_replay (edits : List Edit) (plain : Listing) :
    (Edit.replay Listing.edit edits plain).2.added = plain.added + edits.countP (·.isAdd) := by
  induction edits generalizing plain with
  | nil => rfl
  | cons e rest ih =>
    rw [Edit.replay, List.countP_cons]
    exact (ih _).trans (by rw [added_edit, Nat.add_assoc, Nat.add_comm (ite _ _ _)])

/-! ### What a look-up finds -/

/-- The groups are those of the paths that the entries have, each with its numbers in the order of
the entries. -/
structure Groups (groups : List (String × List Nat)) (entries : List Breakpoint) : Prop where
  ordered : groups.Pairwise (·.1 < ·.1)
  mem_iff : ∀ path indices, (path, indices) ∈ groups ↔
    (∃ b ∈ entries, b.path = path) ∧ indices = (entries.filter (·.path = path)).map (·.index)

/-- The groups hold the numbers of the list, path by path. -/
theorem Mirrors.groups {bs : Breakpoints} {plain : Listing} (h : Mirrors bs plain) :
    Groups bs.groups bs.list where
  ordered := h.wellFormed.ordered
  mem_iff path indices := by
    have hgroup := h.wellFormed.grouped path
    constructor
    · intro hmem
      have hindices := (group_of_mem h.wellFormed.ordered hmem).symm.trans hgroup
      obtain ⟨i, hi⟩ := List.exists_mem_of_ne_nil _ (h.occupied _ hmem)
      obtain ⟨b, hb, -⟩ := List.mem_map.1 (hindices ▸ hi)
      obtain ⟨hb, hpath⟩ := List.mem_filter.1 hb
      exact ⟨⟨b, hb, of_decide_eq_true hpath⟩, hindices⟩
    · rintro ⟨⟨b, hb, hpath⟩, rfl⟩
      rw [← hgroup]
      refine mem_of_group_ne_nil fun hnil => ?_
      have hmem : b.index ∈ group path bs.groups :=
        hgroup ▸ List.mem_map_of_mem (List.mem_filter.2 ⟨hb, decide_eq_true hpath⟩)
      rw [hnil] at hmem
      cases hmem

/-- What is looked up is what a search through all entries finds. -/
structure LooksUp (bs : Breakpoints) (entries : List Breakpoint) : Prop where
  get_ok : ∀ index b, bs.get index = .ok b ↔ b ∈ entries ∧ b.index = index
  get_error : ∀ index e, bs.get index = .error e ↔
    e = .breakpointNotFound index ∧ ∀ b ∈ entries, b.index ≠ index
  enabledFor : ∀ path, bs.enabledFor path = entries.filter fun b => b.path = path && b.enabled
  ordered : bs.enabledByPath.Pairwise (·.1 < ·.1)
  mem_enabledByPath : ∀ path enabled, (path, enabled) ∈ bs.enabledByPath ↔
    enabled = entries.filter (fun b => b.path = path && b.enabled) ∧ enabled ≠ []

/-- Paths with enabled breakpoints come in their order. -/
theorem enabledByPath_ordered {bs : Breakpoints} (h : bs.WellFormed) :
    bs.enabledByPath.Pairwise (·.1 < ·.1) :=
  List.Pairwise.filter _ (List.pairwise_map.2 h.ordered)

/-- Each comes with all of its enabled breakpoints, and has some. -/
theorem mem_enabledByPath_iff {bs : Breakpoints} (h : bs.WellFormed) (path : String)
    (enabled : List Breakpoint) : (path, enabled) ∈ bs.enabledByPath ↔
      enabled = bs.list.filter (isEnabledFor path) ∧ enabled ≠ [] := by
  rw [← h.enabledFor_eq]
  constructor
  · intro hmem
    exact ⟨eq_enabledFor_of_mem_enabledByPath hmem, by simpa using (List.mem_filter.1 hmem).2⟩
  · rintro ⟨rfl, hne⟩
    exact mem_enabledByPath hne

/-- Look-ups find what is in the list, and nothing else. -/
theorem WellFormed.looksUp {bs : Breakpoints} (h : bs.WellFormed) : LooksUp bs bs.list where
  get_ok index b := by
    rw [get]
    constructor
    · intro hget
      cases hfind : bs.find? index <;> rw [hfind] at hget <;> cases hget
      exact h.mem_of_find? hfind
    · rintro ⟨hb, rfl⟩
      rw [h.find?_of_mem hb]
  get_error index e := by
    rw [get, h.find?_eq]
    cases hfind : bs.list.find? (·.index = index) with
    | none =>
      have hnone : ∀ b ∈ bs.list, b.index ≠ index := by simpa using List.find?_eq_none.1 hfind
      exact ⟨fun heq => ⟨(Except.error.inj heq).symm, hnone⟩, fun ⟨heq, _⟩ => by rw [heq]⟩
    | some b =>
      refine ⟨nofun, fun ⟨_, hnone⟩ => ?_⟩
      exact absurd (by simpa using List.find?_some hfind)
        (hnone b (List.mem_of_find?_eq_some hfind))
  enabledFor path := h.enabledFor_eq path
  ordered := enabledByPath_ordered h
  mem_enabledByPath := mem_enabledByPath_iff h

/-! ### What a deletion takes out -/

/-- One entry is taken out of the list, its number is taken out of the group of its path, and
nothing else is different. -/
structure TakesOut (b : Breakpoint) (bs bs' : Breakpoints) : Prop where
  list : ∃ before after, bs.list = before ++ b :: after ∧ bs'.list = before ++ after
  group : ∃ before after, group b.path bs.groups = before ++ b.index :: after ∧
    group b.path bs'.groups = before ++ after
  others : ∀ entry, entry.1 ≠ b.path → (entry ∈ bs'.groups ↔ entry ∈ bs.groups)
  lastIndex : bs'.lastIndex = bs.lastIndex

/-- A breakpoint that is deleted is taken out, and all others stay. -/
theorem WellFormed.takesOut {bs bs' : Breakpoints} (h : bs.WellFormed) {index : Nat}
    {b : Breakpoint} (hdelete : bs.delete index = .ok (b, bs')) : TakesOut b bs bs' := by
  obtain ⟨hb, rfl, hlist, hgroups, hlast⟩ := h.delete_eq hdelete
  obtain ⟨before, after, hsplit⟩ := List.append_of_mem hb
  have hsorted := h.sorted
  rw [hsplit, List.pairwise_append, List.pairwise_cons] at hsorted
  obtain ⟨-, ⟨hafter, -⟩, hbefore⟩ := hsorted
  have hleft : bs'.list = before ++ after := by
    have hkeep : ∀ c ∈ before ++ after, (decide (c.index ≠ b.index)) = true := fun c hc =>
      decide_eq_true ((List.mem_append.1 hc).elim
        (fun hc => (hbefore c hc b List.mem_cons_self).ne) fun hc => (hafter c hc).ne')
    rw [hlist, hsplit, List.filter_append, List.filter_cons_of_neg (by simp),
      ← List.filter_append, List.filter_eq_self.2 hkeep]
  refine ⟨⟨before, after, hsplit, hleft⟩, ⟨(before.filter (·.path = b.path)).map (·.index),
    (after.filter (·.path = b.path)).map (·.index), ?_, ?_⟩, fun entry hne => ?_, hlast⟩
  · rw [h.grouped, hsplit]
    simp
  · rw [(h.delete hdelete).grouped, hleft]
    simp
  · rw [hgroups]
    exact mem_leaveGroup_of_ne b.index hne

/-- A deletion takes the breakpoint with the number out, or there is none. -/
theorem WellFormed.delete_spec {bs : Breakpoints} (h : bs.WellFormed) (index : Nat) :
    match bs.delete index with
    | .ok (b, bs') => b.index = index ∧ TakesOut b bs bs'
    | .error e => e = .breakpointNotFound index ∧ ∀ b ∈ bs.list, b.index ≠ index := by
  cases hdelete : bs.delete index with
  | ok deleted =>
    obtain ⟨b, bs'⟩ := deleted
    exact ⟨(h.delete_eq hdelete).2.1, h.takesOut hdelete⟩
  | error e =>
    refine (h.looksUp.get_error index e).1 ?_
    rw [Breakpoints.delete] at hdelete
    rw [get]
    cases hfind : bs.find? index <;> rw [hfind] at hdelete <;> cases hdelete
    rfl

/-- **The breakpoints refine a plain list.**  After any edits of no breakpoints every edit has
answered as that of the plain list, and the list, its index, what look-ups find and what a deletion
takes out are those of the plain list. -/
theorem replay_refines (edits : List Edit) :
    let (answers, bs) := Edit.replay Breakpoints.edit edits {}
    let (plainAnswers, plain) := Edit.replay Listing.edit edits {}
    answers = plainAnswers ∧ bs.list = plain.entries ∧
      bs.list.Pairwise (·.index < ·.index) ∧
      bs.lastIndex = edits.countP (·.isAdd) ∧ (∀ b ∈ bs.list, b.index ≤ bs.lastIndex) ∧
      Groups bs.groups plain.entries ∧ LooksUp bs plain.entries ∧
      ∀ index, match bs.delete index with
        | .ok (b, bs') => b.index = index ∧ TakesOut b bs bs'
        | .error e => e = .breakpointNotFound index ∧ ∀ b ∈ plain.entries, b.index ≠ index := by
  obtain ⟨hanswers, h⟩ := mirrors_empty.replay edits
  have hadded := (h.added.trans (added_replay edits {})).trans (Nat.zero_add _)
  refine ⟨hanswers, h.entries, h.wellFormed.sorted, hadded, h.wellFormed.bounded, ?_, ?_, ?_⟩
  · exact h.entries ▸ h.groups
  · exact h.entries ▸ h.wellFormed.looksUp
  · exact h.entries ▸ h.wellFormed.delete_spec

end Breakpoints
end DebugConsole
