/-
# The ids that breakpoints carry

The answer to a push gives ids to the breakpoints it is about, by place, and a breakpoint
carries the one that was taken over for it last: also while it is disabled, when a later
answer has no id for it, and after the target was started again.

| | |
| --- | --- |
| `assigned history` | the ids given since the last launch, last first |
| `mark? assigned index` | what was taken over last for a breakpoint |
| `Breakpoints.IsMarked` | every breakpoint carries its mark |

`Debugger.Gives pushed d d'` says what pushes add to the marks; every move but a launch
is of this kind (`exists_gives_next`), and a launch forgets all breakpoints.
-/

import DebugConsole.Proofs.Agreement

namespace DebugConsole

open Protocol

variable {σ : Type}

/-- An id that the answer to a push gave a breakpoint. -/
structure Assignment where
  connection : Nat
  index : Nat
  id : Int64
  /-- The answer was taken over. -/
  isTaken : Bool
deriving DecidableEq, Repr

/-- The id in a descriptor for a breakpoint, if there is one. -/
def Assignment.of? (connection : Nat) (isTaken : Bool) (entry : Nat × Descriptor) :
    Option Assignment :=
  entry.2.id.map fun id => ⟨connection, entry.1, id, isTaken⟩

/-- The ids that the answer to a push gives the enabled breakpoints of its path, by place. -/
def Push.assignments (bs : Breakpoints) (isTaken : Bool) (push : Push) : List Assignment :=
  match push.accepted? with
  | some descriptors => (((bs.enabledFor push.path).map (·.index)).zip descriptors).filterMap
      (Assignment.of? push.connection isTaken)
  | none => []

/-- The ids that pushes give which were made together, in their order. -/
def Push.allAssignments (bs : Breakpoints) (pushes : List Push) : List Assignment :=
  (taken pushes).flatMap (assignments bs true) ++
    (pushes.drop (taken pushes).length).flatMap (assignments bs false)

/-- What pushes have assigned was assigned by one of them. -/
theorem Push.mem_allAssignments {bs : Breakpoints} {pushes : List Push} {a : Assignment}
    (h : a ∈ allAssignments bs pushes) :
    ∃ push ∈ pushes, ∃ isTaken, a ∈ push.assignments bs isTaken := by
  rcases List.mem_append.1 h with h | h
  · obtain ⟨push, hpush, hgiven⟩ := List.mem_flatMap.1 h
    exact ⟨push, (mem_taken hpush).1, true, hgiven⟩
  · obtain ⟨push, hpush, hgiven⟩ := List.mem_flatMap.1 h
    exact ⟨push, List.mem_of_mem_drop hpush, false, hgiven⟩

/-- Does a move begin with a target from scratch? -/
def Move.isLaunch : Move σ → Bool
  | .operate (.launch _) => true
  | _ => false

theorem Move.eq_launch {move : Move σ} (h : move.isLaunch) :
    ∃ target, move = .operate (.launch target) := by
  unfold isLaunch at h
  split at h
  · exact ⟨_, rfl⟩
  · cases h

section

variable [Environment σ]

/-- The pushes made in a step, oldest first. -/
def Step.pushed (step : Step σ) : List Push :=
  (step.after.pushes.take (step.after.pushes.length - step.before.pushes.length)).reverse

/-- The ids given since the last launch, last first.  After a step the breakpoints are still
those that its pushes were about (`Run.lines_of_pushed`). -/
def assigned : List (Step σ) → List Assignment
  | [] => []
  | step :: history =>
    if step.move.isLaunch then []
    else (Push.allAssignments step.after.breakpoints step.pushed).reverse ++ assigned history

end

/-- What was taken over last for a breakpoint. -/
def mark? (assigned : List Assignment) (index : Nat) : Option Assignment :=
  assigned.find? fun a => a.isTaken && a.index = index

namespace Breakpoints

/-! ### Marks -/

/-- Every breakpoint carries its mark. -/
structure IsMarked (assigned : List Assignment) (bs : Breakpoints) : Prop where
  bounded : ∀ a ∈ assigned, a.index ≤ bs.lastIndex
  marked : ∀ b ∈ bs.list, b.adapterId = (mark? assigned b.index).map (·.id)

/-- At first there is nothing to carry a mark. -/
theorem isMarked_empty : IsMarked [] {} :=
  ⟨fun _ h => absurd h List.not_mem_nil, fun _ h => absurd h List.not_mem_nil⟩

/-- Numbers and ids decide whether breakpoints carry their marks. -/
theorem IsMarked.of_keys {assigned : List Assignment} {bs bs' : Breakpoints}
    (h : bs.IsMarked assigned)
    (hkeys : bs'.list.map (fun b => (b.index, b.adapterId)) =
      bs.list.map fun b => (b.index, b.adapterId))
    (hlast : bs'.lastIndex = bs.lastIndex) : bs'.IsMarked assigned where
  bounded := hlast ▸ h.bounded
  marked b hb := by
    have hmem : (b.index, b.adapterId) ∈ bs.list.map fun b => (b.index, b.adapterId) :=
      hkeys ▸ List.mem_map_of_mem hb
    obtain ⟨c, hc, heq⟩ := List.mem_map.1 hmem
    obtain ⟨hindex, hid⟩ := Prod.mk.inj heq
    rw [← hindex, ← hid]
    exact h.marked c hc

/-- No mark was made for a number that was not given yet. -/
theorem IsMarked.mark?_eq_none {assigned : List Assignment} {bs : Breakpoints}
    (h : bs.IsMarked assigned) {index : Nat} (hlt : bs.lastIndex < index) :
    mark? assigned index = none := by
  rw [mark?, List.find?_eq_none]
  intro a ha hmark
  have hle := h.bounded a ha
  have hindex : a.index = index := (by simpa using hmark : _ ∧ _).2
  omega

/-- A breakpoint that is added has no mark yet. -/
theorem IsMarked.add {assigned : List Assignment} {bs : Breakpoints} (h : bs.IsMarked assigned)
    (path : String) (line : UInt32) : (bs.add path line).IsMarked assigned where
  bounded a ha := Nat.le_succ_of_le (h.bounded a ha)
  marked b hb := by
    rcases List.mem_append.1 hb with hb | hb
    · exact h.marked b hb
    · rw [List.mem_singleton.1 hb, h.mark?_eq_none (Nat.lt_succ_self _)]
      rfl

/-- A breakpoint that is deleted takes its mark with it. -/
theorem IsMarked.delete {assigned : List Assignment} {bs bs' : Breakpoints}
    (h : bs.IsMarked assigned) (hwf : bs.WellFormed) {index : Nat} {b : Breakpoint}
    (hdelete : bs.delete index = .ok (b, bs')) : bs'.IsMarked assigned := by
  obtain ⟨_, _, hlist, _, hlast⟩ := hwf.delete_eq hdelete
  refine ⟨hlast ▸ h.bounded, fun c hc => ?_⟩
  rw [hlist] at hc
  exact h.marked c (List.mem_of_mem_filter hc)

/-- A change that keeps number and id keeps the mark. -/
theorem IsMarked.modify {assigned : List Assignment} {bs : Breakpoints}
    (h : bs.IsMarked assigned) (index : Nat) {f : Breakpoint → Breakpoint}
    (hf : ∀ b, ((f b).index, (f b).adapterId) = (b.index, b.adapterId)) :
    (bs.modify index f).IsMarked assigned :=
  h.of_keys (map_modify hf bs index) (bs.modify_lastIndex index f)

/-- The same where the breakpoint is found by its id. -/
theorem IsMarked.modifyId {assigned : List Assignment} {bs : Breakpoints}
    (h : bs.IsMarked assigned) (id : Int64) {f : Breakpoint → Breakpoint}
    (hf : ∀ b, ((f b).index, (f b).adapterId) = (b.index, b.adapterId)) :
    (bs.modifyId id f).IsMarked assigned := h.of_keys (map_changeFirst hf ..) rfl

/-- Answers that are not taken over leave the marks alone. -/
theorem IsMarked.of_untaken {assigned more : List Assignment} {bs : Breakpoints}
    (h : bs.IsMarked assigned) (hmore : ∀ a ∈ more, a.index ≤ bs.lastIndex)
    (huntaken : ∀ a ∈ more, a.isTaken = false) : bs.IsMarked (more ++ assigned) where
  bounded a ha := (List.mem_append.1 ha).elim (hmore a) (h.bounded a)
  marked b hb := by
    have hnone : more.find? (fun a => a.isTaken && a.index = b.index) = none := by
      rw [List.find?_eq_none]
      intro a ha hmark
      rw [huntaken a ha] at hmark
      cases hmark
    rw [mark?, List.find?_append, hnone, Option.none_or]
    exact h.marked b hb

/-- A descriptor makes a mark just if it has an id. -/
theorem IsMarked.describe {assigned : List Assignment} {bs : Breakpoints}
    (h : bs.IsMarked assigned) (hwf : bs.WellFormed) (connection : Nat)
    {entry : Nat × Descriptor} (hentry : entry.1 ≤ bs.lastIndex) :
    (bs.modify entry.1 (·.describe entry.2)).IsMarked
      ((Assignment.of? connection true entry).toList ++ assigned) := by
  obtain ⟨index, descriptor⟩ := entry
  have hlast := bs.modify_lastIndex index (·.describe descriptor)
  cases hid : descriptor.id with
  | none =>
    have hnone : Assignment.of? connection true (index, descriptor) = none := by
      rw [Assignment.of?, hid]
      rfl
    rw [hnone]
    refine h.modify index fun b => ?_
    rw [Breakpoint.describe, hid]
  | some id =>
    have hsome : Assignment.of? connection true (index, descriptor) =
        some ⟨connection, index, id, true⟩ := by
      rw [Assignment.of?, hid]
      rfl
    rw [hsome]
    refine ⟨fun a ha => ?_, fun b hb => ?_⟩
    · rw [hlast]
      rcases List.mem_cons.1 ha with rfl | ha
      · exact hentry
      · exact h.bounded a ha
    · rw [hwf.list_modify] at hb
      obtain ⟨c, hc, rfl⟩ := List.mem_map.1 hb
      split_ifs with hindex
      · rw [Breakpoint.describe, hid, mark?]
        simp [hindex]
      · rw [mark?]
        simpa [Ne.symm hindex, mark?] using h.marked c hc

/-- Descriptors with an id mark the breakpoints that they describe. -/
theorem IsMarked.describeAll {assigned : List Assignment} {bs : Breakpoints}
    (h : bs.IsMarked assigned) (hwf : bs.WellFormed) (connection : Nat)
    {entries : List (Nat × Descriptor)} (hentries : ∀ entry ∈ entries, entry.1 ≤ bs.lastIndex) :
    (bs.describeAll entries).IsMarked
      ((entries.filterMap (Assignment.of? connection true)).reverse ++ assigned) := by
  induction entries generalizing bs assigned with
  | nil => exact h
  | cons entry rest ih =>
    have hmodify : Breakpoints.SameIntent bs (bs.modify entry.1 (·.describe entry.2)) :=
      .modify (Breakpoint.intent_describe entry.2) bs entry.1
    have hrest := ih (h.describe hwf connection (hentries entry List.mem_cons_self))
      (hmodify.wellFormed hwf) fun other hother => by
        rw [hmodify.lastIndex]
        exact hentries other (List.mem_cons_of_mem _ hother)
    have hlist : ((entry :: rest).filterMap (Assignment.of? connection true)).reverse ++ assigned =
        (rest.filterMap (Assignment.of? connection true)).reverse ++
          ((Assignment.of? connection true entry).toList ++ assigned) := by
      cases hof : Assignment.of? connection true entry <;> simp [hof]
    rw [hlist]
    exact hrest

/-! ### Marks and pushes -/

/-- Only breakpoints that there are get descriptors. -/
theorem index_le_of_mem_enabledFor {bs : Breakpoints} (hwf : bs.WellFormed) {path : String}
    {entry : Nat × Descriptor} {descriptors : List Descriptor}
    (h : entry ∈ ((bs.enabledFor path).map (·.index)).zip descriptors) :
    entry.1 ≤ bs.lastIndex := by
  obtain ⟨b, hb, heq⟩ := List.mem_map.1 (List.of_mem_zip (a := entry.1) (b := entry.2) h).1
  rw [hwf.enabledFor_eq] at hb
  rw [← heq]
  exact hwf.bounded b (List.mem_of_mem_filter hb)

/-- What an answer gives is about breakpoints there are, on the connection of the push. -/
theorem of_mem_assignments {bs : Breakpoints} (hwf : bs.WellFormed) {isTaken : Bool} {push : Push}
    {a : Assignment} (h : a ∈ push.assignments bs isTaken) :
    a.connection = push.connection ∧ a.isTaken = isTaken ∧ a.index ≤ bs.lastIndex := by
  rw [Push.assignments] at h
  split at h
  · obtain ⟨entry, hentry, hof⟩ := List.mem_filterMap.1 h
    obtain ⟨id, _, rfl⟩ := Option.map_eq_some_iff.1 hof
    exact ⟨rfl, rfl, index_le_of_mem_enabledFor hwf hentry⟩
  · cases h

/-- Which breakpoints an answer is about is decided by the user. -/
theorem SameIntent.assignments_eq {bs bs' : Breakpoints} (h : SameIntent bs bs')
    (hwf : bs.WellFormed) (isTaken : Bool) :
    Push.assignments bs' isTaken = Push.assignments bs isTaken := by
  funext push
  rw [Push.assignments, Push.assignments, h.map_index_enabledFor hwf]

/-- What pushes assign depends on what the user has said, and on the answers. -/
theorem SameIntent.allAssignments_eq {bs bs' : Breakpoints} (h : SameIntent bs bs')
    (hwf : bs.WellFormed) : Push.allAssignments bs' = Push.allAssignments bs := by
  funext pushes
  rw [Push.allAssignments, Push.allAssignments, h.assignments_eq hwf, h.assignments_eq hwf]

/-- The answer to a push marks the breakpoints of its path. -/
theorem IsMarked.learn {assigned : List Assignment} {bs : Breakpoints} (h : bs.IsMarked assigned)
    (hwf : bs.WellFormed) (push : Push) :
    (bs.learn push).IsMarked ((push.assignments bs true).reverse ++ assigned) := by
  rw [Breakpoints.learn, Push.assignments]
  cases push.accepted? with
  | some descriptors =>
    exact h.describeAll hwf push.connection fun entry hentry =>
      index_le_of_mem_enabledFor hwf hentry
  | none => exact h

/-- Answers to several pushes mark one path after the other. -/
theorem IsMarked.foldl_learn {assigned : List Assignment} {bs : Breakpoints}
    (h : bs.IsMarked assigned) (hwf : bs.WellFormed) (pushes : List Push) :
    (pushes.foldl Breakpoints.learn bs).IsMarked
      ((pushes.flatMap (Push.assignments bs true)).reverse ++ assigned) := by
  induction pushes generalizing bs assigned with
  | nil => exact h
  | cons push rest ih =>
    have hsame := SameIntent.learn bs push
    have hrest := ih (h.learn hwf push) (hsame.wellFormed hwf)
    rw [hsame.assignments_eq hwf] at hrest
    rw [List.flatMap_cons, List.reverse_append, List.append_assoc]
    exact hrest

/-- Breakpoints that have learned from pushes carry the marks made by them. -/
theorem IsMarked.allAssignments {assigned : List Assignment} {bs : Breakpoints}
    (h : bs.IsMarked assigned) (hwf : bs.WellFormed) (pushes : List Push) :
    ((Push.taken pushes).foldl Breakpoints.learn bs).IsMarked
      ((Push.allAssignments bs pushes).reverse ++ assigned) := by
  have hlearned := h.foldl_learn hwf (Push.taken pushes)
  have hlast := (SameIntent.foldl_learn bs (Push.taken pushes)).lastIndex
  rw [Push.allAssignments, List.reverse_append, List.append_assoc]
  refine hlearned.of_untaken (fun a ha => ?_) fun a ha => ?_
  all_goals
    obtain ⟨push, _, hgiven⟩ := List.mem_flatMap.1 (List.mem_reverse.1 ha)
    obtain ⟨_, htaken, hindex⟩ := of_mem_assignments hwf hgiven
  · rw [hlast]
    exact hindex
  · exact htaken

/-- A push that is not accepted gives no ids. -/
theorem allAssignments_of_not_accepted (bs : Breakpoints) {push : Push}
    (h : push.accepted? = none) : Push.allAssignments bs [push] = [] := by
  rw [Push.allAssignments, Push.taken_singleton, h]
  simp [Push.assignments, h]

end Breakpoints

/-! ### Each move keeps the marks -/

namespace Debugger

/-- These pushes were made, oldest first, and the breakpoints that carried their marks carry
those that the pushes have made. -/
structure Gives (pushed : List Push) (d d' : Debugger σ) : Prop where
  generation : d.generation ≤ d'.generation
  connected : ∀ push ∈ pushed, push.connection ≤ d'.generation
  pushes : d'.pushes = pushed.reverse ++ d.pushes
  lines : ∀ push ∈ pushed, push.accepted?.isSome →
    push.lines = (d'.breakpoints.enabledFor push.path).map (·.line)
  marks : ∀ assigned, d.breakpoints.IsMarked assigned →
    d'.breakpoints.IsMarked ((Push.allAssignments d'.breakpoints pushed).reverse ++ assigned)

/-- Nothing was pushed, and marks do not go away by a change of the breakpoints. -/
theorem Gives.of_breakpoints {d d' : Debugger σ} (hgeneration : d.generation ≤ d'.generation)
    (hpushes : d'.pushes = d.pushes)
    (hmarks : ∀ assigned, d.breakpoints.IsMarked assigned → d'.breakpoints.IsMarked assigned) :
    Gives [] d d' :=
  ⟨hgeneration, fun _ h => absurd h List.not_mem_nil, hpushes,
    fun _ h => absurd h List.not_mem_nil, hmarks⟩

/-- Nothing was pushed, and no breakpoint has changed. -/
theorem Gives.of_eq {d d' : Debugger σ} (hgeneration : d.generation ≤ d'.generation)
    (hpushes : d'.pushes = d.pushes) (hbreakpoints : d'.breakpoints = d.breakpoints) :
    Gives [] d d' :=
  .of_breakpoints hgeneration hpushes fun _ h => hbreakpoints ▸ h

/-- The breakpoints may change before the pushes. -/
theorem Gives.of_prepared {pushed : List Push} {d d₁ d' : Debugger σ} (hbefore : Gives [] d d₁)
    (h : Gives pushed d₁ d') : Gives pushed d d' where
  generation := hbefore.generation.trans h.generation
  connected := h.connected
  pushes := h.pushes.trans (congrArg (pushed.reverse ++ ·) hbefore.pushes)
  lines := h.lines
  marks assigned hmarked := h.marks assigned (hbefore.marks assigned hmarked)

/-- What changes no breakpoint may follow. -/
theorem Gives.trans_eq {pushed : List Push} {d d₁ d' : Debugger σ} (h : Gives pushed d d₁)
    (hgeneration : d₁.generation ≤ d'.generation) (hpushes : d'.pushes = d₁.pushes)
    (hbreakpoints : d'.breakpoints = d₁.breakpoints) : Gives pushed d d' where
  generation := h.generation.trans hgeneration
  connected push hmem := (h.connected push hmem).trans hgeneration
  pushes := hpushes.trans h.pushes
  lines := hbreakpoints ▸ h.lines
  marks assigned hmarked := hbreakpoints ▸ h.marks assigned hmarked

/-- What lasts pushes nothing. -/
theorem Lasts.gives {d d' : Debugger σ} (h : Lasts d d') : Gives [] d d' :=
  .of_eq h.generation.ge h.pushes_eq h.breakpoints

variable [Environment σ]

/-- Closing a session pushes nothing. -/
theorem Closes.gives {d d' : Debugger σ} (h : Closes d d') : Gives [] d d' :=
  .of_eq h.generation.ge h.inner.pushes_eq h.breakpoints

theorem Drops.gives {d d' : Debugger σ} (h : Drops d d') : Gives [] d d' :=
  .of_eq h.generation.ge h.inner.pushes_eq h.breakpoints

/-- Nor does a restart. -/
theorem Restarts.gives {d d' : Debugger σ} (h : Restarts d d') : Gives [] d d' := by
  refine .of_eq ?_ h.pushes h.breakpoints
  rcases h.outcome with ⟨_, hgeneration, _⟩ | ⟨_, hgeneration, _⟩ <;> omega

/-- Telling an adapter of breakpoints gives them the marks of its answers. -/
theorem Tells.gives {pushed : List Push} {d d' : Debugger σ} (h : Tells pushed d d')
    (hwf : d.breakpoints.WellFormed) : Gives pushed d d' where
  generation := h.generation.ge
  connected push hmem := ((h.faithful push hmem).1.trans h.generation.symm).le
  pushes := h.pushes
  lines push hmem _ := by
    rw [(h.faithful push hmem).2, hwf.map_line_enabledFor,
      (h.sameIntent.wellFormed hwf).map_line_enabledFor, h.sameIntent.enabledLines_eq]
  marks assigned hmarked := by
    rw [h.sameIntent.allAssignments_eq hwf, h.breakpoints]
    exact hmarked.allAssignments hwf pushed

/-- A path that is pushed gets its marks. -/
theorem gives_pushPath (path : String) {d : Debugger σ} (hwf : d.breakpoints.WellFormed) :
    ∃ pushed, Gives pushed d (pushPath path d).2 := by
  obtain ⟨push, _, htells, _⟩ := pushPath_spec path d
  exact ⟨[push], htells.gives hwf⟩

/-- Setting a breakpoint pushes its path. -/
theorem gives_setBreakpoint (path : String) (line : UInt32) {d : Debugger σ}
    (hwf : d.breakpoints.WellFormed) : ∃ pushed, Gives pushed d (setBreakpoint path line d).2 := by
  have hadded : Gives [] d { d with breakpoints := d.breakpoints.add path line } :=
    .of_breakpoints le_rfl rfl fun _ hmarked => hmarked.add path line
  rw [setBreakpoint_state]
  dsimp only
  split_ifs
  · obtain ⟨pushed, hgives⟩ := gives_pushPath path (d := { d with
      breakpoints := d.breakpoints.add path line }) (hwf.add path line)
    exact ⟨pushed, .of_prepared hadded hgives⟩
  · exact ⟨[], hadded⟩
  · exact ⟨[], .of_eq le_rfl rfl rfl⟩

/-- Enabling or disabling one pushes its path. -/
theorem gives_setEnabled (index : Nat) (enabled : Bool) {d : Debugger σ}
    (hwf : d.breakpoints.WellFormed) : ∃ pushed, Gives pushed d (setEnabled index enabled d).2 := by
  rcases setEnabled_cases index enabled d with heq | ⟨b, _, _, _, _, heq⟩
  · rw [heq]
    exact ⟨[], .of_eq le_rfl rfl rfl⟩
  have hchanged : Gives [] d { d with
      breakpoints := d.breakpoints.modify index fun b => { b with enabled } } :=
    .of_breakpoints le_rfl rfl fun _ hmarked => hmarked.modify index fun _ => rfl
  obtain ⟨push, _, htells, hresult⟩ := pushPath_spec b.path { d with
    breakpoints := d.breakpoints.modify index fun b => { b with enabled } }
  have hgives := htells.gives (hwf.modify index fun _ => rfl)
  have hpushed : Gives [push] d _ := .of_prepared hchanged hgives
  rw [heq]
  split
  · rename_i d' hrun
    rw [hrun] at hpushed
    exact ⟨[push], hpushed⟩
  · rename_i e d' hrun
    rw [hrun] at hpushed hresult
    -- no ids are given, so it does not matter which breakpoints are enabled in the end
    have hrefused : push.accepted? = none := by
      rw [← Option.not_isSome_iff_eq_none]
      intro haccepted
      cases hresult.2 haccepted
    refine ⟨[push], hpushed.generation, hpushed.connected, hpushed.pushes, fun other hmem h => ?_,
      fun assigned h => ?_⟩
    · rw [List.mem_singleton.1 hmem, hrefused] at h
      cases h
    have hmarked := hpushed.marks assigned h
    rw [Breakpoints.allAssignments_of_not_accepted _ hrefused] at hmarked ⊢
    exact hmarked.modify index fun _ => rfl

/-- Deleting one pushes its path. -/
theorem gives_deleteBreakpoint (index : Nat) {d : Debugger σ} (hwf : d.breakpoints.WellFormed) :
    ∃ pushed, Gives pushed d (deleteBreakpoint index d).2 := by
  rcases deleteBreakpoint_cases index d with heq | ⟨b, breakpoints, hdelete, _, _, heq⟩
  · rw [heq]
    exact ⟨[], .of_eq le_rfl rfl rfl⟩
  · have hdeleted : Gives [] d { d with breakpoints } :=
      .of_breakpoints le_rfl rfl fun _ hmarked => hmarked.delete hwf hdelete
    obtain ⟨pushed, hgives⟩ := gives_pushPath b.path (d := { d with breakpoints })
      (hwf.delete hdelete)
    rw [heq]
    exact ⟨pushed, .of_prepared hdeleted hgives⟩

/-- A configuration pushes all paths. -/
theorem gives_configure {d : Debugger σ} (hwf : d.breakpoints.WellFormed) :
    ∃ pushed, Gives pushed d (configure d).2 := by
  rcases hsession : d.session.isSome with _ | _
  · rw [configure_of_no_session (by simpa using hsession)]
    exact ⟨[], .of_eq le_rfl rfl rfl⟩
  obtain ⟨pushed, d₁, d₂, htells, hcalm, hresult⟩ := configure_spec hwf hsession
  have hentered : Gives [] d { d with phase := .running } := .of_eq le_rfl rfl rfl
  have hpushed : Gives pushed d d₁ := .of_prepared hentered (htells.gives hwf)
  have hconfigured : Gives pushed d d₂ :=
    hpushed.trans_eq hcalm.generation.ge hcalm.pushes_eq hcalm.breakpoints
  refine ⟨pushed, ?_⟩
  rcases hresult with ⟨e, hrun⟩ | ⟨hrun, _⟩
  · rw [hrun]
    exact hconfigured
  · rw [hrun]
    exact hconfigured.trans_eq le_rfl rfl rfl

/-- So does `run`, where it leads to one. -/
theorem gives_run {d : Debugger σ} (hwf : d.breakpoints.WellFormed) :
    ∃ pushed, Gives pushed d (Debugger.run d).2 := by
  rw [run_apply]
  split_ifs
  · exact gives_configure hwf
  · exact ⟨[], .of_eq le_rfl rfl rfl⟩

/-- A relaunch pushes nothing by itself. -/
theorem gives_relaunch (d : Debugger σ) : Gives [] d (relaunch d).2 := by
  rcases Option.eq_none_or_eq_some d.target with htarget | ⟨target, htarget⟩
  · rw [relaunch_of_no_target htarget]
    exact .of_eq le_rfl rfl rfl
  · exact (relaunch_spec (by rw [htarget]; rfl)).gives

/-- Readiness pushes all paths where it leads to a configuration. -/
theorem gives_onInitialized {d : Debugger σ} (hwf : d.breakpoints.WellFormed) :
    ∃ pushed, Gives pushed d (onInitialized d).2 := by
  rcases Option.eq_none_or_eq_some d.target with htarget | ⟨target, htarget⟩
  · rw [onInitialized_of_no_target htarget]
    exact ⟨[], .of_eq le_rfl rfl rfl⟩
  rw [onInitialized_of_target htarget]
  split
  · exact ⟨[], .of_eq le_rfl rfl rfl⟩
  have hentered : Gives [] d { d with phase := .configuring } := .of_eq le_rfl rfl rfl
  obtain ⟨pushed, hconfigure⟩ := gives_configure (d := { d with phase := .configuring }) hwf
  have hconfigured : Gives pushed d (configure { d with phase := .configuring }).2 :=
    .of_prepared hentered hconfigure
  refine ⟨pushed, ?_⟩
  rcases hrun : configure { d with phase := .configuring } with ⟨e | _, d'⟩ <;>
    rw [hrun] at hconfigured
  · have hcloses := closeSession_spec { d' with console := (d'.console.writeLine
      "Failed to initialize debugging session.").writeLine e.message }
    exact hconfigured.trans_eq hcloses.generation.ge hcloses.inner.pushes_eq hcloses.breakpoints
  · exact hconfigured

/-- The end of a program pushes nothing. -/
theorem gives_onTargetGone (d : Debugger σ) : Gives [] d (onTargetGone d).2 := by
  rcases onTargetGone_cases d with ⟨-, heq⟩ | ⟨-, heq⟩ | ⟨-, -, text, heq⟩ <;> rw [heq]
  · exact .of_eq le_rfl rfl rfl
  · exact .of_eq le_rfl rfl rfl
  · exact (gives_relaunch d).trans_eq le_rfl rfl rfl

/-- A signal gives ids only where it has an effect at all. -/
theorem gives_handle {signal : Signal} {d : Debugger σ}
    (h : ∃ pushed, Gives pushed d (react signal d).2) :
    ∃ pushed, Gives pushed d (handle signal d).2 := by
  rw [handle_apply]
  split_ifs
  · exact h
  · exact ⟨[], .of_eq le_rfl rfl rfl⟩

/-- **Every move but a launch keeps the marks**, and adds those of its pushes. -/
theorem exists_gives_next {move : Move σ} (h : move.isLaunch = false) {d : Debugger σ}
    (hwf : d.breakpoints.WellFormed) : ∃ pushed, Gives pushed d (move.next d) := by
  -- two events lead to the end of the target, with a line of their own
  have hgone (line : String) : Gives [] d (onTargetGone { d with
      phase := .terminated, console := d.console.writeLine line }).2 := by
    have hterminated : Gives [] d { d with
      phase := .terminated, console := d.console.writeLine line } := .of_eq le_rfl rfl rfl
    exact .of_prepared hterminated (gives_onTargetGone _)
  cases move using Move.casesPlain with
  | plain move hplain => exact ⟨[], (move.lasts_next hplain d).gives⟩
  | launch target => cases h
  | relaunch => exact ⟨[], gives_relaunch d⟩
  | close => exact ⟨[], (closeSession_spec d).gives⟩
  | run => exact gives_run hwf
  | setBreakpoint path line => exact gives_setBreakpoint path line hwf
  | setEnabled index enabled => exact gives_setEnabled index enabled hwf
  | deleteBreakpoint index => exact gives_deleteBreakpoint index hwf
  | initialized connection => exact gives_handle (gives_onInitialized hwf)
  | exited connection body => exact gives_handle ⟨[], hgone _⟩
  | terminated connection body =>
    refine gives_handle ⟨[], ?_⟩
    show Gives [] d (onEvent (.terminated body) d).2
    rw [onEvent_terminated]
    split
    · exact hgone _
    · exact .of_eq le_rfl rfl rfl
  | breakpoint connection reason descriptor =>
    refine gives_handle ⟨[], ?_⟩
    show Gives [] d (onEvent (.breakpoint reason descriptor) d).2
    rw [onEvent_breakpoint]
    split
    · rename_i id _
      split
      · exact .of_breakpoints le_rfl rfl fun _ hmarked => hmarked.modifyId id fun _ => rfl
      · exact .of_eq le_rfl rfl rfl
    · exact .of_eq le_rfl rfl rfl
  | closed connection => exact gives_handle ⟨[], (onClosed_spec d).1.gives⟩
  | started connection result =>
    refine gives_handle ⟨[], ?_⟩
    cases result with
    | ok _ => exact .of_eq le_rfl rfl rfl
    | error e => exact (onStarted_error_spec e d).1.gives

/-- In a step the pushes are those that were made. -/
theorem Gives.pushed_eq {pushed : List Push} {step : Step σ}
    (h : Gives pushed step.before step.after) : step.pushed = pushed := by
  rw [Step.pushed, h.pushes, List.length_append, Nat.add_sub_cancel, List.take_left,
    List.reverse_reverse]

omit [Environment σ] in
/-- All marks were made on connections so far. -/
theorem Gives.connection_le {pushed : List Push} {d d' : Debugger σ} (h : Gives pushed d d')
    (hwf : d'.breakpoints.WellFormed) {a : Assignment}
    (ha : a ∈ Push.allAssignments d'.breakpoints pushed) : a.connection ≤ d'.generation := by
  obtain ⟨push, hpush, isTaken, hgiven⟩ := Push.mem_allAssignments ha
  rw [(Breakpoints.of_mem_assignments hwf hgiven).1]
  exact h.connected push hpush

end Debugger

open Debugger

variable [Environment σ]

/-- What was accepted in a step asked for the lines that are enabled after it. -/
theorem Run.lines_of_pushed {history : List (Step σ)} {d : Debugger σ} (h : Run history d)
    {move : Move σ} (hmove : move.isLaunch = false) {push : Push}
    (hpush : push ∈ Step.pushed ⟨d, move⟩) (haccepted : push.accepted?.isSome) :
    push.lines = ((move.next d).breakpoints.enabledFor push.path).map (·.line) := by
  obtain ⟨pushed, hgives⟩ := exists_gives_next hmove h.isTold.wellFormed
  have heq : Step.pushed ⟨d, move⟩ = pushed := hgives.pushed_eq
  exact hgives.lines push (heq ▸ hpush) haccepted

/-- A launch forgets all breakpoints, whether or not the program can be started. -/
theorem breakpoints_next_of_isLaunch {move : Move σ} (h : move.isLaunch) (d : Debugger σ) :
    (move.next d).breakpoints = {} := by
  obtain ⟨target, rfl⟩ := Move.eq_launch h
  show (Debugger.launch target d).2.breakpoints = {}
  rw [launch_apply]
  exact (relaunch_spec rfl).breakpoints

/-- **Breakpoints carry their marks**, and no id is of a later connection. -/
theorem Run.isMarked {history : List (Step σ)} {d : Debugger σ} (h : Run history d) :
    d.breakpoints.IsMarked (assigned history) ∧
      ∀ a ∈ assigned history, a.connection ≤ d.generation := by
  induction h with
  | start => exact ⟨Breakpoints.isMarked_empty, fun _ hmem => absurd hmem List.not_mem_nil⟩
  | @step history d hrun move ih =>
    rw [assigned]
    cases hlaunch : move.isLaunch with
    | true =>
      rw [if_pos rfl]
      rw [breakpoints_next_of_isLaunch hlaunch]
      exact ⟨Breakpoints.isMarked_empty, fun _ hmem => absurd hmem List.not_mem_nil⟩
    | false =>
      obtain ⟨pushed, hgives⟩ := exists_gives_next hlaunch hrun.isTold.wellFormed
      have hpushed : Step.pushed ⟨d, move⟩ = pushed := hgives.pushed_eq
      rw [if_neg Bool.false_ne_true, hpushed]
      refine ⟨hgives.marks _ ih.1, fun a ha => ?_⟩
      rcases List.mem_append.1 ha with ha | ha
      · exact hgives.connection_le (hrun.step move).isTold.wellFormed (List.mem_reverse.1 ha)
      · exact (ih.2 a ha).trans hgives.generation

end DebugConsole
