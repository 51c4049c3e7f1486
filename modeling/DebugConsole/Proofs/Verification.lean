/-
# Which breakpoint an event verifies

An event says of an id whether the breakpoint it belongs to is verified.  An id belongs to
the connection it was given on, but breakpoints carry theirs from one connection to the
next, where the adapter counts from the start again.

| | |
| --- | --- |
| `bearer? assigned connection id` | the breakpoint the id was given to last on a connection |
| `Carries assigned id b` | the id was taken over last for the breakpoint, on any connection |

An event reaches the first breakpoint that carries its id.  That is the bearer just if the
id is unambiguous (`Run.verified_iff`); it need not be after a relaunch
(`Run.verified_other`).
-/

import DebugConsole.Proofs.Marks

namespace DebugConsole

open Protocol

variable {σ : Type}

/-- The breakpoint that was given an id last on a connection. -/
def bearer? (assigned : List Assignment) (connection : Nat) (id : Int64) : Option Nat :=
  (assigned.find? fun a => a.connection = connection && a.id = id).map (·.index)

/-- Does a breakpoint carry an id, as its mark has it? -/
def Carries (assigned : List Assignment) (id : Int64) (b : Breakpoint) : Prop :=
  (mark? assigned b.index).map (·.id) = some id

instance (assigned : List Assignment) (id : Int64) (b : Breakpoint) :
    Decidable (Carries assigned id b) :=
  inferInstanceAs (Decidable ((mark? assigned b.index).map (·.id) = some id))

/-- The breakpoint an id was given to last on a connection, if it was not deleted, carries the id,
and no breakpoint does that is listed before it. -/
structure IsUnambiguous (assigned : List Assignment) (bs : Breakpoints) (connection : Nat)
    (id : Int64) : Prop where
  carried : ∀ b ∈ bs.list, bearer? assigned connection id = some b.index → Carries assigned id b
  first : ∀ b ∈ bs.list, Carries assigned id b → ∃ bearer ∈ bs.list,
    bearer? assigned connection id = some bearer.index ∧ bearer.index ≤ b.index

/-- No id was given to two breakpoints on one connection. -/
def IsUnique (assigned : List Assignment) : Prop :=
  ∀ a ∈ assigned, ∀ b ∈ assigned, a.connection = b.connection → a.id = b.id → a.index = b.index

instance (assigned : List Assignment) : Decidable (IsUnique assigned) :=
  inferInstanceAs (Decidable (∀ a ∈ assigned, ∀ b ∈ assigned, _ → _ → _))

/-- An id that was given to one breakpoint only was given to it last. -/
theorem IsUnique.bearer?_eq {assigned : List Assignment} (h : IsUnique assigned) {a : Assignment}
    (ha : a ∈ assigned) : bearer? assigned a.connection a.id = some a.index := by
  rw [bearer?]
  cases hfind : assigned.find? fun b => b.connection = a.connection && b.id = a.id with
  | none => simpa using List.find?_eq_none.1 hfind a ha
  | some b =>
    have hfound := List.find?_some hfind
    obtain ⟨hconnection, hid⟩ : b.connection = a.connection ∧ b.id = a.id := by simpa using hfound
    exact congrArg some (h b (List.mem_of_find?_eq_some hfind) a ha hconnection hid)

namespace Breakpoints

/-! ### Verifying by number -/

/-- Says of the breakpoint with a number, if there is one, whether it is verified. -/
def verify (bs : Breakpoints) (index? : Option Nat) (verified : Bool) : Breakpoints :=
  { bs with list := bs.list.map fun b =>
    if index? = some b.index then { b with verified } else b }

/-- What is found under an id carries it, and nothing does that is listed before. -/
theorem WellFormed.findId?_eq_iff {bs : Breakpoints} (h : bs.WellFormed) {id : Int64}
    {b : Breakpoint} (hb : b ∈ bs.list) : (bs.findId? id).map (·.index) = some b.index ↔
      b.adapterId = some id ∧ ∀ c ∈ bs.list, c.adapterId = some id → b.index ≤ c.index := by
  rw [findId?]
  cases hfind : bs.list.find? (·.adapterId = some id) with
  | none =>
    refine iff_of_false nofun fun hcarries => ?_
    exact List.find?_eq_none.1 hfind b hb (decide_eq_true hcarries.1)
  | some found =>
    have hmem := List.mem_of_find?_eq_some hfind
    have hid : found.adapterId = some id := by simpa using List.find?_some hfind
    have hfirst (c : Breakpoint) (hc : c ∈ bs.list) (hcarries : c.adapterId = some id) :
        found.index ≤ c.index :=
      index_le_of_find? h.sorted hfind hc (decide_eq_true hcarries)
    rw [Option.map_some, Option.some.injEq]
    constructor
    · intro hindex
      obtain rfl := eq_of_index_eq h.sorted hmem hb hindex
      exact ⟨hid, hfirst⟩
    · rintro ⟨hcarries, hle⟩
      exact le_antisymm (hfirst b hb hcarries) (hle found hmem hid)

/-- An id stands for the number of the first breakpoint that carries it. -/
theorem WellFormed.modifyId_eq_verify {bs : Breakpoints} (h : bs.WellFormed) (id : Int64)
    (verified : Bool) : bs.modifyId id (fun b => { b with verified }) =
      bs.verify ((bs.findId? id).map (·.index)) verified := by
  rw [Breakpoints.modifyId, verify, findId?]
  cases hfind : bs.list.find? (·.adapterId = some id) with
  | none =>
    rw [changeFirst_eq_self hfind]
    simp
  | some found =>
    rw [changeFirst_eq_map _ h.sorted hfind]
    simp [eq_comm]

/-- Two numbers come to the same just if they stand for the same breakpoint of the list. -/
theorem verify_eq_iff {bs : Breakpoints} {i j : Option Nat} :
    (∀ verified, bs.verify i verified = bs.verify j verified) ↔
      ∀ b ∈ bs.list, i = some b.index ↔ j = some b.index := by
  constructor
  · intro h b hb
    have heq := List.map_inj_left.1 (congrArg Breakpoints.list (h (!b.verified))) b hb
    have hne : ({ b with verified := !b.verified } : Breakpoint) ≠ b := fun hsame => by
      have hverified := congrArg Breakpoint.verified hsame
      simp at hverified
    by_cases hi : i = some b.index <;> by_cases hj : j = some b.index
    · exact iff_of_true hi hj
    · rw [if_pos hi, if_neg hj] at heq
      exact absurd heq hne
    · rw [if_neg hi, if_pos hj] at heq
      exact absurd heq.symm hne
    · exact iff_of_false hi hj
  · intro h verified
    rw [verify, verify]
    congr 1
    refine List.map_congr_left fun b hb => ?_
    simp only [h b hb]

/-- An id is unambiguous just if the first breakpoint that carries it is the one it was given
to last. -/
theorem IsMarked.isUnambiguous_iff {assigned : List Assignment} {bs : Breakpoints}
    (h : bs.IsMarked assigned) (hwf : bs.WellFormed) (connection : Nat) (id : Int64) :
    IsUnambiguous assigned bs connection id ↔ ∀ b ∈ bs.list,
      (bs.findId? id).map (·.index) = some b.index ↔
        bearer? assigned connection id = some b.index := by
  -- the marks are what the breakpoints carry, so ids are read off the list
  have hcarries {b : Breakpoint} (hb : b ∈ bs.list) : Carries assigned id b ↔
      b.adapterId = some id := by
    rw [Carries, h.marked b hb]
  constructor
  · intro hid b hb
    rw [hwf.findId?_eq_iff hb]
    constructor
    · rintro ⟨hcarried, hle⟩
      obtain ⟨bearer, hmem, hbearer, hbefore⟩ := hid.first b hb ((hcarries hb).2 hcarried)
      have hafter := hle bearer hmem ((hcarries hmem).1 (hid.carried bearer hmem hbearer))
      rw [hbearer, le_antisymm hbefore hafter]
    · intro hbearer
      refine ⟨(hcarries hb).1 (hid.carried b hb hbearer), fun c hc hcarried => ?_⟩
      obtain ⟨bearer, _, hsame, hbefore⟩ := hid.first c hc ((hcarries hc).2 hcarried)
      rw [Option.some.inj (hbearer.symm.trans hsame)]
      exact hbefore
  · intro hsame
    refine ⟨fun b hb hbearer => ?_, fun b hb hcarried => ?_⟩
    · exact (hcarries hb).2 ((hwf.findId?_eq_iff hb).1 ((hsame b hb).2 hbearer)).1
    · cases hfind : bs.list.find? (·.adapterId = some id) with
      | none =>
        exact absurd (decide_eq_true ((hcarries hb).1 hcarried)) (List.find?_eq_none.1 hfind b hb)
      | some found =>
        have hmem := List.mem_of_find?_eq_some hfind
        have hfound : (bs.findId? id).map (·.index) = some found.index := by
          rw [findId?, hfind]
          rfl
        refine ⟨found, hmem, (hsame found hmem).1 hfound, ?_⟩
        exact ((hwf.findId?_eq_iff hmem).1 hfound).2 b hb ((hcarries hb).1 hcarried)

end Breakpoints

/-- Says of the breakpoint with a number, if there is one, whether it is verified. -/
def Debugger.verify (d : Debugger σ) (index? : Option Nat) (verified : Bool) : Debugger σ :=
  { d with breakpoints := d.breakpoints.verify index? verified }

variable [Environment σ]

/-- An event about an id is about the first breakpoint that carries it. -/
theorem Debugger.handle_breakpoint {d : Debugger σ} (hwf : d.breakpoints.WellFormed)
    (hsession : d.session.isSome) {reason : String} (hreason : reason = "new" ∨ reason = "changed")
    {descriptor : Descriptor} {id : Int64} (hid : descriptor.id = some id) :
    (handle (.event d.generation (.breakpoint reason descriptor)) d).2 =
      d.verify ((d.breakpoints.findId? id).map (·.index)) descriptor.verified := by
  have hopen : d.isOpen (Signal.event d.generation (.breakpoint reason descriptor)).generation := by
    show (decide (d.generation = d.generation) && d.session.isSome) = true
    rw [hsession, decide_eq_true rfl]
    rfl
  rw [handle_apply, if_pos hopen]
  show (onEvent (.breakpoint reason descriptor) d).2 = _
  rw [onEvent_breakpoint, hid]
  dsimp only
  rw [if_pos hreason, hwf.modifyId_eq_verify]
  rfl

open Debugger

/-- **An event verifies the breakpoint its id was given to last on this connection just if the id
is unambiguous.**  Where no id was given to two breakpoints on one connection, any other breakpoint
that carries the id has it from an earlier connection. -/
theorem Run.verified_iff {history : List (Step σ)} {d : Debugger σ} (h : Run history d)
    (hsession : d.session.isSome) {reason : String} (hreason : reason = "new" ∨ reason = "changed")
    (id : Int64) :
    ((∀ descriptor : Descriptor, descriptor.id = some id →
        (Move.handle (.event d.generation (.breakpoint reason descriptor))).next d =
          d.verify (bearer? (assigned history) d.generation id) descriptor.verified) ↔
      IsUnambiguous (assigned history) d.breakpoints d.generation id) ∧
    (IsUnique (assigned history) → ∀ b ∈ d.breakpoints.list,
      bearer? (assigned history) d.generation id ≠ some b.index →
        ∀ a, mark? (assigned history) b.index = some a → a.id = id →
          a.connection < d.generation) := by
  obtain ⟨hmarked, hbounded⟩ := h.isMarked
  have hwf := h.isTold.wellFormed
  refine ⟨?_, fun hunique b hb hother a hmark hid => ?_⟩
  · rw [hmarked.isUnambiguous_iff hwf, ← Breakpoints.verify_eq_iff]
    constructor
    · intro hreached verified
      have hdescriptor : ({ id := some id, verified } : Descriptor).id = some id := rfl
      have heq := (handle_breakpoint hwf hsession hreason hdescriptor).symm.trans
        (hreached _ hdescriptor)
      exact congrArg Debugger.breakpoints heq
    · intro hsame descriptor hid
      refine (handle_breakpoint hwf hsession hreason hid).trans ?_
      rw [Debugger.verify, hsame]
      rfl
  · have hmem := List.mem_of_find?_eq_some hmark
    have hfound := List.find?_some hmark
    have hindex : a.index = b.index := (by simpa using hfound : _ ∧ _).2
    refine lt_of_le_of_ne (hbounded a hmem) fun hconnection => hother ?_
    rw [← hconnection, ← hid, hunique.bearer?_eq hmem, hindex]

/-- Of two breakpoints the first is disabled, then the target is started again. -/
def Script.relaunching : List (Move Script) :=
  [ .operate (.launch launched), .handle (.event 1 .initialized),
    .operate (.setBreakpoint "a.c" 3), .operate (.setBreakpoint "a.c" 5), .operate .run,
    .operate (.setEnabled 1 false), .operate .relaunch, .handle (.event 2 .initialized),
    .operate .run ]

/-- A run it speaks of: the adapter gives an id after the relaunch that it never gave before. -/
theorem Run.verified_iff_scripted :
    let run := Move.steps Script.relaunching [] (Script.rehearse {})
    bearer? (assigned run.1) run.2.generation 4 = some 2 ∧
      ∀ descriptor : Descriptor, descriptor.id = some 4 →
        (Move.handle (.event run.2.generation (.breakpoint "changed" descriptor))).next run.2 =
          run.2.verify (some 2) descriptor.verified := by
  intro run
  have hrun : Run run.1 run.2 := (Run.start _ _ _).steps _
  have hbearer : bearer? (assigned run.1) run.2.generation 4 = some 2 := by decide +kernel
  have hunambiguous : IsUnambiguous (assigned run.1) run.2.breakpoints run.2.generation 4 :=
    ⟨by decide +kernel, by decide +kernel⟩
  have hreached := (hrun.verified_iff (by decide +kernel) (.inr rfl) 4).1.2 hunambiguous
  rw [hbearer] at hreached
  exact ⟨hbearer, hreached⟩

/-- An event can reach another breakpoint: a new adapter gives the second breakpoint the id that
the first one, which is disabled, still carries. -/
theorem Run.verified_other : ¬∀ (history : List (Step Script)) (d : Debugger Script),
    Run history d → IsUnique (assigned history) → d.session.isSome →
      ∀ (reason : String) (descriptor : Descriptor) (id : Int64),
        reason = "new" ∨ reason = "changed" → descriptor.id = some id →
          (Move.handle (.event d.generation (.breakpoint reason descriptor))).next d =
            d.verify (bearer? (assigned history) d.generation id) descriptor.verified := by
  intro h
  let answer := Json.object
    [("breakpoints", .arr [.object [("id", .int 1), ("verified", .bool true)]])]
  let script : Script := { entries := [("setBreakpoints", [{}, {}, { answer := .body answer }])] }
  let run := Move.steps Script.relaunching [] (Script.rehearse script)
  have hrun : Run run.1 run.2 := (Run.start _ _ _).steps _
  have hreached := h run.1 run.2 hrun (by decide +kernel) (by decide +kernel) "changed"
    { id := some 1, verified := false } 1 (.inr rfl) rfl
  have hverified := congrArg (fun d => d.breakpoints.list.map (·.verified)) hreached
  revert hverified
  decide +kernel

end DebugConsole
