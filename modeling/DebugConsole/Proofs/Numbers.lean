/-
# A number means one breakpoint

The user speaks of breakpoints by their numbers, long after they were given and whatever became of
the session they were given in.  Only a launch starts numbers anew; between two launches a step does
one of three things (`Renumbers`):

| step | numbers |
| --- | --- |
| `setBreakpoint` with a session | the next one is given, also where the push fails then |
| `deleteBreakpoint` in a started program | this one means nothing any more |
| any other | all mean what they meant |

`lastIndex` counts the numbers that were given, so the next one is new, and none is given again.
-/

import DebugConsole.Proofs.Intent
import DebugConsole.Proofs.Listing
import DebugConsole.Proofs.Marks
import DebugConsole.Proofs.Rollback

namespace DebugConsole

variable {σ : Type}

/-- A number, and the path and line it was given for. -/
structure Numbering where
  index : Nat
  path : String
  line : UInt32
deriving DecidableEq

/-- What the number of a breakpoint means. -/
def Breakpoint.numbering (b : Breakpoint) : Numbering := ⟨b.index, b.path, b.line⟩

/-- What the numbers of the breakpoints mean. -/
def Breakpoints.numberings (bs : Breakpoints) : List Numbering := bs.list.map (·.numbering)

/-- The number whose breakpoint a step deletes, if there is one with it. -/
def Step.deleted? (step : Step σ) : Option Nat :=
  match step.move with
  | .operate (.deleteBreakpoint index) =>
    if step.before.session.isSome ∧ step.before.phase.isStarted then some index else none
  | _ => none

/-- The steps since the last launch, last first. -/
def sinceLaunch (history : List (Step σ)) : List (Step σ) :=
  history.takeWhile fun step => !step.move.isLaunch

namespace Breakpoints

/-- A breakpoint that is added gets the next number, at the end. -/
theorem numberings_add (bs : Breakpoints) (path : String) (line : UInt32) :
    (bs.add path line).numberings = bs.numberings ++ [⟨bs.lastIndex + 1, path, line⟩] :=
  List.map_append

/-- Numbers, paths and lines are what the user has said. -/
theorem SameIntent.numberings {bs bs' : Breakpoints} (h : SameIntent bs bs') :
    bs'.numberings = bs.numberings := by
  have hmapped := h.map_eq fun (index, path, line, _) => Numbering.mk index path line
  exact hmapped

/-- Enabling or disabling gives no other number. -/
theorem numberings_enable (bs : Breakpoints) (index : Nat) (enabled : Bool) :
    (bs.modify index fun b => { b with enabled }).numberings = bs.numberings := by
  refine map_modify (g := Breakpoint.numbering) ?_ bs index
  exact fun _ => rfl

/-- A deletion concerns one number. -/
theorem WellFormed.numberings_delete {bs bs' : Breakpoints} (h : bs.WellFormed) {index : Nat}
    {b : Breakpoint} (hdelete : bs.delete index = .ok (b, bs')) :
    bs'.numberings = bs.numberings.filter (·.index ≠ index) := by
  obtain ⟨-, -, hlist, -, -⟩ := h.delete_eq hdelete
  rw [numberings, hlist, numberings, List.filter_map]
  rfl

/-- Where nothing is deleted no number goes away. -/
theorem WellFormed.numberings_of_not_deleted {bs : Breakpoints} (h : bs.WellFormed) {index : Nat}
    {e : Error} (hdelete : bs.delete index = .error e) :
    bs.numberings.filter (·.index ≠ index) = bs.numberings := by
  have hspec := h.delete_spec index
  rw [hdelete] at hspec
  refine List.filter_eq_self.2 fun n hn => decide_eq_true ?_
  obtain ⟨b, hb, rfl⟩ := List.mem_map.1 hn
  exact hspec.2 b hb

end Breakpoints

variable [Environment σ]

/-- The number that a step gives.  The user is told it, unless the push fails; then it is the number
given last all the same. -/
def Step.given? (step : Step σ) : Option Numbering :=
  match step.move with
  | .operate (.setBreakpoint path line) =>
    match (Debugger.setBreakpoint path line step.before).1 with
    | .ok (index, _) => some { index, path, line }
    | .error _ =>
      if step.before.session.isSome then
        some { index := step.after.breakpoints.lastIndex, path, line }
      else none
  | _ => none

/-- What a step does to the numbers: the one it deletes goes, the one it gives is the next. -/
structure Renumbers (step : Step σ) : Prop where
  numberings : step.after.breakpoints.numberings =
    step.before.breakpoints.numberings.filter (fun n => step.deleted? ≠ some n.index) ++
      step.given?.toList
  lastIndex : step.after.breakpoints.lastIndex =
    step.before.breakpoints.lastIndex + step.given?.toList.length
  next : ∀ n, step.given? = some n → n.index = step.before.breakpoints.lastIndex + 1

/-! ### Every step -/

/-- A step that neither gives nor takes a number. -/
theorem Renumbers.of_kept {step : Step σ} (hdeleted : step.deleted? = none)
    (hgiven : step.given? = none)
    (hnumberings : step.after.breakpoints.numberings = step.before.breakpoints.numberings)
    (hlast : step.after.breakpoints.lastIndex = step.before.breakpoints.lastIndex) :
    Renumbers step where
  numberings := by
    have hall : ∀ n ∈ step.before.breakpoints.numberings,
        decide (step.deleted? ≠ some n.index) = true := fun n _ => by rw [hdeleted]; rfl
    rw [hnumberings, hgiven, List.filter_eq_self.2 hall]
    exact (List.append_nil _).symm
  lastIndex := by rw [hlast, hgiven]; rfl
  next n h := by rw [hgiven] at h; cases h

/-- A step that decides nothing is one of those. -/
theorem Renumbers.of_sameIntent {step : Step σ} (h : step.move.decides = false)
    (hsame : step.before.breakpoints.SameIntent step.after.breakpoints) : Renumbers step := by
  have hdeleted : step.deleted? = none := by
    unfold Step.deleted?
    split
    · rename_i hmove
      rw [hmove] at h
      cases h
    · rfl
  have hgiven : step.given? = none := by
    unfold Step.given?
    split
    · rename_i hmove
      rw [hmove] at h
      cases h
    · rfl
  exact .of_kept hdeleted hgiven hsame.numberings hsame.lastIndex

namespace Debugger

/-- With a session a breakpoint is added, and a push does not change what numbers mean. -/
theorem sameIntent_setBreakpoint {d : Debugger σ} (hsession : d.session.isSome) (path : String)
    (line : UInt32) :
    (d.breakpoints.add path line).SameIntent (setBreakpoint path line d).2.breakpoints := by
  rw [setBreakpoint_state, if_pos hsession]
  split_ifs
  · obtain ⟨push, -, htells, -⟩ :=
      pushPath_spec path { d with breakpoints := d.breakpoints.add path line }
    exact htells.sameIntent
  · exact .refl _

/-- Setting a breakpoint gives the next number. -/
theorem given?_setBreakpoint {d : Debugger σ} (hsession : d.session.isSome) (path : String)
    (line : UInt32) : Step.given? ⟨d, .operate (.setBreakpoint path line)⟩ =
      some ⟨d.breakpoints.lastIndex + 1, path, line⟩ := by
  have hlast : (setBreakpoint path line d).2.breakpoints.lastIndex = d.breakpoints.lastIndex + 1 :=
    (sameIntent_setBreakpoint hsession path line).lastIndex
  show (match (setBreakpoint path line d).1 with
    | .ok (index, _) => some (Numbering.mk index path line)
    | .error _ =>
      if d.session.isSome then
        some (Numbering.mk (setBreakpoint path line d).2.breakpoints.lastIndex path line)
      else none) = _
  rw [hlast, if_pos hsession, setBreakpoint_apply, if_pos hsession]
  split_ifs
  · rcases pushPath path { d with breakpoints := d.breakpoints.add path line } with
      ⟨_ | _, _⟩ <;> rfl
  · rfl

/-- Setting a breakpoint adds the number that it gives, and no other. -/
theorem renumbers_setBreakpoint (path : String) (line : UInt32) (d : Debugger σ) :
    Renumbers ⟨d, .operate (.setBreakpoint path line)⟩ := by
  by_cases hsession : d.session.isSome
  · have hadded := sameIntent_setBreakpoint hsession path line
    have hgiven := given?_setBreakpoint hsession path line
    refine ⟨?_, ?_, fun n hn => ?_⟩
    · have hkept : d.breakpoints.numberings.filter (fun n =>
          Step.deleted? ⟨d, .operate (.setBreakpoint path line)⟩ ≠ some n.index) =
            d.breakpoints.numberings := List.filter_eq_self.2 fun _ _ => rfl
      rw [hgiven, hkept]
      exact hadded.numberings.trans (d.breakpoints.numberings_add path line)
    · rw [hgiven]
      exact hadded.lastIndex
    · rw [hgiven] at hn
      cases hn
      rfl
  · have hrefused : setBreakpoint path line d = (.error .noSession, d) := by
      rw [setBreakpoint_apply, if_neg hsession]
    have hgiven : Step.given? ⟨d, .operate (.setBreakpoint path line)⟩ = none := by
      simp only [Step.given?, hrefused]
      exact if_neg hsession
    have hsame : Step.after ⟨d, .operate (.setBreakpoint path line)⟩ = d :=
      congrArg Prod.snd hrefused
    exact .of_kept rfl hgiven (by rw [hsame]) (by rw [hsame])

/-- Enabling or disabling adds and drops none. -/
theorem renumbers_setEnabled (index : Nat) (enabled : Bool) (d : Debugger σ) :
    Renumbers ⟨d, .operate (.setEnabled index enabled)⟩ := by
  suffices h : (setEnabled index enabled d).2.breakpoints.numberings = d.breakpoints.numberings ∧
      (setEnabled index enabled d).2.breakpoints.lastIndex = d.breakpoints.lastIndex from
    .of_kept rfl rfl h.1 h.2
  rcases setEnabled_cases index enabled d with heq | ⟨b, -, -, -, -, heq⟩
  · rw [heq]
    exact ⟨rfl, rfl⟩
  obtain ⟨push, -, htells, -⟩ := pushPath_spec b.path { d with
    breakpoints := d.breakpoints.modify index fun b => { b with enabled } }
  have hnumberings := htells.sameIntent.numberings.trans
    (d.breakpoints.numberings_enable index enabled)
  have hlast := htells.sameIntent.lastIndex.trans (d.breakpoints.modify_lastIndex index _)
  rw [heq]
  rcases hpush : pushPath b.path { d with
    breakpoints := d.breakpoints.modify index fun b => { b with enabled } } with ⟨e | _, d'⟩ <;>
    rw [hpush] at hnumberings hlast
  · exact ⟨(d'.breakpoints.numberings_enable index _).trans hnumberings,
      (d'.breakpoints.modify_lastIndex index _).trans hlast⟩
  · exact ⟨hnumberings, hlast⟩

/-- Deleting a breakpoint drops its number, and no other. -/
theorem renumbers_deleteBreakpoint (index : Nat) {d : Debugger σ} (hwf : d.breakpoints.WellFormed) :
    Renumbers ⟨d, .operate (.deleteBreakpoint index)⟩ := by
  have hafter : Step.after ⟨d, .operate (.deleteBreakpoint index)⟩ = _ :=
    deleteBreakpoint_state index d
  by_cases hready : d.session.isSome ∧ d.phase.isStarted
  · rw [if_pos hready] at hafter
    have hdeleted : Step.deleted? ⟨d, .operate (.deleteBreakpoint index)⟩ = some index :=
      if_pos hready
    -- what is deleted is filtered out by its number, which no other has
    have hkept (numberings : List Numbering) :
        numberings.filter (fun n => Step.deleted?
          ⟨d, .operate (.deleteBreakpoint index)⟩ ≠ some n.index) =
          numberings.filter (·.index ≠ index) := by
      rw [hdeleted]
      exact List.filter_congr fun n _ => by simp [eq_comm]
    cases hdelete : d.breakpoints.delete index with
    | error e =>
      rw [hdelete] at hafter
      refine ⟨?_, by rw [hafter]; rfl, nofun⟩
      rw [hafter, hkept, hwf.numberings_of_not_deleted hdelete]
      exact (List.append_nil _).symm
    | ok deleted =>
      obtain ⟨b, breakpoints⟩ := deleted
      rw [hdelete] at hafter
      -- the push that follows gives and takes no number
      obtain ⟨push, -, htells, -⟩ := pushPath_spec b.path { d with breakpoints }
      have hlast : breakpoints.lastIndex = d.breakpoints.lastIndex :=
        (hwf.delete_eq hdelete).2.2.2.2
      refine ⟨?_, ?_, nofun⟩
      · rw [hafter, hkept, ← hwf.numberings_delete hdelete]
        exact htells.sameIntent.numberings.trans (List.append_nil _).symm
      · rw [hafter]
        exact htells.sameIntent.lastIndex.trans hlast
  · rw [if_neg hready] at hafter
    have hdeleted : Step.deleted? ⟨d, .operate (.deleteBreakpoint index)⟩ = none := if_neg hready
    exact .of_kept hdeleted rfl (by rw [hafter]) (by rw [hafter])

/-- **Every move but a launch** gives the next number, deletes one, or leaves all as they are. -/
theorem renumbers_next {d : Debugger σ} (hwf : d.breakpoints.WellFormed) {move : Move σ}
    (h : move.isLaunch = false) : Renumbers ⟨d, move⟩ := by
  cases hdecides : move.decides with
  | false => exact .of_sameIntent hdecides (sameIntent_next hwf move hdecides)
  | true =>
    unfold Move.decides at hdecides
    split at hdecides
    · cases h
    · exact renumbers_setBreakpoint _ _ d
    · exact renumbers_setEnabled _ _ d
    · exact renumbers_deleteBreakpoint _ hwf
    · cases hdecides

end Debugger

/-! ### All steps since a launch -/

/-- The breakpoints after these steps, last first, as far as numbers are concerned. -/
structure Numbered (steps : List (Step σ)) (bs : Breakpoints) : Prop where
  lastIndex : bs.lastIndex = (steps.filterMap Step.given?).length
  given : ∀ n ∈ bs.numberings, n ∈ steps.filterMap Step.given?
  resolved : ∀ later step earlier n, steps = later ++ step :: earlier → step.given? = some n →
    n.index = (earlier.filterMap Step.given?).length + 1 ∧
      (n.index ∉ later.filterMap Step.deleted? → n ∈ bs.numberings) ∧
      (n.index ∈ later.filterMap Step.deleted? → ∀ m ∈ bs.numberings, m.index ≠ n.index)

/-- At first no number was given. -/
theorem numbered_nil : Numbered ([] : List (Step σ)) {} where
  lastIndex := rfl
  given _ h := absurd h List.not_mem_nil
  resolved later _ _ _ h _ := absurd h.symm (by simp)

/-- The number given in a step is above all that were given before. -/
theorem Numbered.index_lt {steps : List (Step σ)} {bs : Breakpoints} (h : Numbered steps bs)
    {later earlier : List (Step σ)} {step : Step σ} (hsteps : steps = later ++ step :: earlier)
    {n m : Numbering} (hn : step.given? = some n) (hm : m ∈ earlier.filterMap Step.given?) :
    m.index < n.index := by
  obtain ⟨other, hother, hgiven⟩ := List.mem_filterMap.1 hm
  obtain ⟨between, before, rfl⟩ := List.append_of_mem hother
  have hsplit : steps = (later ++ step :: between) ++ other :: before := by simp [hsteps]
  rw [(h.resolved _ _ _ m hsplit hgiven).1, (h.resolved _ _ _ n hsteps hn).1, List.filterMap_append,
    List.filterMap_cons_some hgiven, List.length_append, List.length_cons]
  omega

/-- Numbers that were given are counted step by step. -/
theorem length_filterMap_cons (step : Step σ) (steps : List (Step σ)) :
    ((step :: steps).filterMap Step.given?).length =
      (steps.filterMap Step.given?).length + step.given?.toList.length := by
  cases h : step.given? with
  | none => rw [List.filterMap_cons_none h]; rfl
  | some n => rw [List.filterMap_cons_some h]; rfl

/-- One step more keeps the numbers in order. -/
theorem Numbered.step {steps : List (Step σ)} {step : Step σ}
    (h : Numbered steps step.before.breakpoints) (hnext : Renumbers step) :
    Numbered (step :: steps) step.after.breakpoints where
  lastIndex := by rw [hnext.lastIndex, h.lastIndex, length_filterMap_cons]
  given n hn := by
    rw [hnext.numberings, List.mem_append] at hn
    rw [List.mem_filterMap]
    rcases hn with hkept | hnew
    · obtain ⟨other, hother, hgiven⟩ :=
        List.mem_filterMap.1 (h.given n (List.mem_of_mem_filter hkept))
      exact ⟨other, List.mem_cons_of_mem step hother, hgiven⟩
    · exact ⟨step, List.mem_cons_self, Option.mem_toList.1 hnew⟩
  resolved later other earlier n hsteps hgiven := by
    -- the step that gave the number is the last one or an earlier one
    cases later with
    | nil =>
      obtain ⟨rfl, rfl⟩ := List.cons.inj hsteps
      refine ⟨by rw [hnext.next n hgiven, h.lastIndex], fun _ => ?_, fun h => nomatch h⟩
      rw [hnext.numberings]
      exact List.mem_append_right _ (Option.mem_toList.2 hgiven)
    | cons last rest =>
      rw [List.cons_append] at hsteps
      obtain ⟨rfl, rfl⟩ := List.cons.inj hsteps
      obtain ⟨hindex, hkept, hgone⟩ := h.resolved rest other earlier n rfl hgiven
      have hdeleted : n.index ∈ (step :: rest).filterMap Step.deleted? ↔
          step.deleted? = some n.index ∨ n.index ∈ rest.filterMap Step.deleted? := by
        simp only [List.mem_filterMap, List.mem_cons, exists_eq_or_imp]
      rw [hdeleted, hnext.numberings]
      refine ⟨hindex, fun hstays => ?_, fun hgoes m hm heq => ?_⟩
      · rw [not_or] at hstays
        exact List.mem_append_left _
          (List.mem_filter.2 ⟨hkept hstays.2, decide_eq_true hstays.1⟩)
      · rcases List.mem_append.1 hm with hold | hnew
        · obtain ⟨hbefore, hne⟩ := List.mem_filter.1 hold
          rcases hgoes with hnow | hearlier
          · exact of_decide_eq_true hne (heq ▸ hnow)
          · exact hgone hearlier m hbefore heq
        · -- what is given now is above a number that was given before
          have hnow := hnext.next m (Option.mem_toList.1 hnew)
          have hcount := h.lastIndex
          rw [List.filterMap_append, List.filterMap_cons_some hgiven, List.length_append,
            List.length_cons] at hcount
          omega

open Debugger

/-- **In every run the numbers are those given since the launch.** -/
theorem Run.numbered {history : List (Step σ)} {d : Debugger σ} (h : Run history d) :
    Numbered (sinceLaunch history) d.breakpoints := by
  induction h with
  | start => exact numbered_nil
  | @step history d hrun move ih =>
    cases hlaunch : move.isLaunch with
    | true =>
      have hsince : sinceLaunch (⟨d, move⟩ :: history) = [] :=
        List.takeWhile_cons_of_neg (by simp [hlaunch])
      rw [hsince, breakpoints_next_of_isLaunch hlaunch]
      exact numbered_nil
    | false =>
      have hsince : sinceLaunch (⟨d, move⟩ :: history) = ⟨d, move⟩ :: sinceLaunch history :=
        List.takeWhile_cons_of_pos (by simp [hlaunch])
      rw [hsince]
      exact ih.step (renumbers_next hrun.isTold.wellFormed hlaunch)

/-- **A number means one breakpoint for good.**  Since the last launch numbers were given in order
from 1, so that each is above all that were given before.  Whatever has happened since, a number is
that of a breakpoint with the path and line it was given for, until it is deleted; from then on
there is no breakpoint with it.  No breakpoint has any other number. -/
theorem Run.numbers_permanent {history : List (Step σ)} {d : Debugger σ} (h : Run history d) :
    (∀ later step earlier n, sinceLaunch history = later ++ step :: earlier →
      step.given? = some n →
      n.index = (earlier.filterMap Step.given?).length + 1 ∧
      (∀ m ∈ earlier.filterMap Step.given?, m.index < n.index) ∧
      match d.breakpoints.get n.index with
      | .ok b => b.numbering = n ∧ n.index ∉ later.filterMap Step.deleted?
      | .error e => e = .breakpointNotFound n.index ∧ n.index ∈ later.filterMap Step.deleted?) ∧
    ∀ index b, d.breakpoints.get index = .ok b →
      b.index = index ∧ b.numbering ∈ (sinceLaunch history).filterMap Step.given? := by
  have hlooksUp := h.isTold.wellFormed.looksUp
  constructor
  · intro later step earlier n hsteps hgiven
    obtain ⟨hindex, hkept, hgone⟩ := h.numbered.resolved later step earlier n hsteps hgiven
    refine ⟨hindex, fun m hm => h.numbered.index_lt hsteps hgiven hm, ?_⟩
    by_cases hdeleted : n.index ∈ later.filterMap Step.deleted?
    · have hnone : d.breakpoints.get n.index = .error (.breakpointNotFound n.index) :=
        (hlooksUp.get_error n.index _).2
          ⟨rfl, fun b hb => hgone hdeleted _ (List.mem_map_of_mem hb)⟩
      rw [hnone]
      exact ⟨rfl, hdeleted⟩
    · obtain ⟨b, hb, rfl⟩ := List.mem_map.1 (hkept hdeleted)
      have hfound : d.breakpoints.get b.numbering.index = .ok b :=
        (hlooksUp.get_ok b.index b).2 ⟨hb, rfl⟩
      rw [hfound]
      exact ⟨rfl, hdeleted⟩
  · intro index b hget
    obtain ⟨hb, hindex⟩ := (hlooksUp.get_ok index b).1 hget
    exact ⟨hindex, h.numbered.given _ (List.mem_map_of_mem hb)⟩

/-- Two breakpoints of a launched program, the second of which the adapter did not accept; the first
is deleted, the program is started again, and a third is set. -/
def Script.renumbering : List (Move Script) :=
  [ .operate (.launch launched), .handle (.event 1 .initialized),
    .operate (.setBreakpoint "a.c" 3), .operate .run, .operate (.setBreakpoint "a.c" 5),
    .operate (.deleteBreakpoint 1), .operate .relaunch, .operate (.setBreakpoint "b.c" 7) ]

/-- The number 2 was given as the push failed, and means the same breakpoint ever after. -/
theorem Run.numbers_permanent_scripted :
    let run := Move.steps Script.renumbering [] (Script.rehearse .miscounting)
    ∃ later step earlier, sinceLaunch run.1 = later ++ step :: earlier ∧
      (setBreakpoint "a.c" 5 step.before).1.toOption = none ∧
      step.given? = some ⟨2, "a.c", 5⟩ ∧ later.filterMap Step.deleted? = [1] ∧
      ∃ b, run.2.breakpoints.get 2 = .ok b ∧ b.numbering = ⟨2, "a.c", 5⟩ := by
  intro run
  have hrun : Run run.1 run.2 := (Run.start _ _ _).steps _
  refine ⟨[_, _, _], _, _, rfl, by decide +kernel, by decide +kernel, by decide +kernel, ?_⟩
  have hgiven := hrun.numbers_permanent.1 [_, _, _] _ _ ⟨2, "a.c", 5⟩ rfl (by decide +kernel)
  cases hget : run.2.breakpoints.get (Numbering.mk 2 "a.c" 5).index with
  | error e =>
    rw [hget] at hgiven
    exact absurd hgiven.2.2.2 (by decide +kernel)
  | ok b =>
    rw [hget] at hgiven
    exact ⟨b, rfl, hgiven.2.2.1⟩

end DebugConsole
