/-
# Does a program that runs have its configuration?

A debugger counts a program as running from the beginning of its configuration on.  So while a
session is open and its program runs or stands, a configuration was begun on this connection
(`Run.begun`), but not necessarily completed:

| configuration that fails | leaves |
| --- | --- |
| of an attached program | no session |
| of a launched program, by `run` | the session, and a program that counts as running |

After the second there is nothing to run any more.  It is the only way to a running program whose
configuration was never completed (`Run.completed_iff`).
-/

import DebugConsole.Proofs.Phases

namespace DebugConsole

open Protocol Debugger

variable {σ : Type} [Environment σ]

/-- Does a step begin a configuration on a connection, and how does that end? -/
def Step.Begins (connection : Nat) (outcome : Except Error Unit) (step : Step σ) : Prop :=
  step.before.generation = connection ∧ step.configuration? = some outcome

/-- Does a step complete a configuration on a connection: are all its requests made, and all before
the threads accepted? -/
def Step.Completes (connection : Nat) (step : Step σ) : Prop :=
  step.before.generation = connection ∧ step.configuration?.isSome ∧
    ∃ asked, step.after.exchanges = asked.reverse ++ step.before.exchanges ∧
      step.before.Configures asked true

/-- Were all configurations on a connection begun by `run` and failures, and was there any? -/
def OnlyFails (connection : Nat) (history : List (Step σ)) : Prop :=
  (∃ step ∈ history, ∃ outcome, step.Begins connection outcome) ∧
    ∀ step ∈ history, ∀ outcome, step.Begins connection outcome →
      step.move = .operate .run ∧ outcome.isOk = false

/-- What was asked where a configuration fails is not that of one that is completed. -/
theorem Step.completes_iff {step : Step σ} (hwf : step.before.breakpoints.WellFormed)
    {connection : Nat} {outcome : Except Error Unit} (h : step.Begins connection outcome) :
    step.Completes connection ↔ outcome.isOk = true := by
  obtain ⟨hgeneration, hbegun⟩ := h
  obtain ⟨asked, parting, hexchanges, hconfigures, hok, hparting⟩ :=
    (attempts_of_configuration? hwf hbegun).asks
  constructor
  · rintro ⟨-, -, all, hall, hcomplete⟩
    -- the requests of the configuration are among those of the completed one
    have happend : all.reverse = parting ++ asked.reverse :=
      List.append_cancel_right (hall.symm.trans hexchanges)
    refine hok.2 fun e he => hcomplete.iff_isAccepted.1 rfl e ?_
    rw [← List.mem_reverse, happend]
    exact List.mem_append_right _ (List.mem_reverse.2 he)
  · intro hsucceeds
    rw [if_pos (by rw [hsucceeds, Bool.true_or])] at hparting
    rw [hparting] at hexchanges
    exact ⟨hgeneration, by rw [hbegun]; rfl, asked, hexchanges, hsucceeds ▸ hconfigures⟩

/-- The breakpoints were in order before every step. -/
theorem Run.wellFormed_before {history : List (Step σ)} {d : Debugger σ} (h : Run history d)
    {step : Step σ} (hstep : step ∈ history) : step.before.breakpoints.WellFormed := by
  induction h with
  | start => cases hstep
  | step hrun move ih =>
    rcases List.mem_cons.1 hstep with rfl | hstep
    · exact hrun.isTold.wellFormed
    · exact ih hstep

/-- **A program that runs or stands was being configured on this connection.** -/
theorem Run.begun {history : List (Step σ)} {d : Debugger σ} (h : Run history d)
    (hsession : d.session.isSome) (hlive : d.phase.isLive) :
    ∃ step ∈ history, ∃ outcome, step.Begins d.generation outcome := by
  induction h with
  | start => cases hlive
  | @step history d hrun move ih =>
    have hearlier (hgeneration : (move.next d).generation = d.generation)
        (hsession : d.session.isSome) (hlive : d.phase.isLive) :
        ∃ step ∈ ⟨d, move⟩ :: history, ∃ outcome,
          step.Begins (move.next d).generation outcome := by
      obtain ⟨step, hmem, hbegins⟩ := ih hsession hlive
      exact ⟨step, List.mem_cons_of_mem _ hmem, hgeneration ▸ hbegins⟩
    cases hrun.turns_next move with
    | stays kept phase =>
      refine hearlier kept.generation (kept.session ▸ hsession) ?_
      rcases phase with heq | ⟨hbefore, -⟩
      · exact heq ▸ hlive
      · exact hbefore
    | starts begins phase session =>
      rw [phase] at hlive
      cases hlive
    | closes session target generation phase =>
      rw [session] at hsession
      cases hsession
    | readies readiness launches kept phase =>
      rw [phase] at hlive
      cases hlive
    | configures outcome begun attempt =>
      exact ⟨_, List.mem_cons_self, outcome, attempt.generation.symm, begun⟩
    | exits launches kept phase =>
      rw [phase] at hlive
      cases hlive

/-- **A configuration that failed was begun by `run`, or its session is over.** -/
theorem Run.failed {history : List (Step σ)} {d : Debugger σ} (h : Run history d) {step : Step σ}
    (hstep : step ∈ history) {connection : Nat} {e : Error}
    (hfails : step.Begins connection (.error e)) :
    step.move = .operate .run ∨ d.IsOver connection := by
  induction h with
  | start => cases hstep
  | @step history d hrun move ih =>
    have hwf := hrun.isTold.wellFormed
    rcases List.mem_cons.1 hstep with rfl | hstep
    · obtain ⟨rfl, hbegun⟩ := hfails
      have hattempts := attempts_of_configuration? hwf hbegun
      rcases cases_of_configuration? hbegun with ⟨hmove, -⟩ | ⟨_, -, -, hattaches, -⟩
      · exact .inl hmove
      · refine .inr (isOver_of_session_none ?_ hattempts.generation.ge)
        have hclosed : (move.next d).session.isSome = false := by
          rw [hattempts.session, launches_of_attaches hattaches]
          rfl
        simpa using hclosed
    · exact (ih hstep).imp id fun hover => hover.next hwf move

/-- **What a `run` leaves.**  It is refused and changes nothing, or the program that was being
configured counts as running, however that ends, and there is nothing to run any more. -/
theorem Debugger.run_leaves {d : Debugger σ} (hwf : d.breakpoints.WellFormed) :
    if d.phase = .configuring ∧ d.launches ∧ d.session.isSome then
      (Debugger.run d).2.session.isSome ∧ (Debugger.run d).2.phase = .running ∧
        Debugger.run (Debugger.run d).2 = (.error .nothingToRun, (Debugger.run d).2)
    else ∃ e, Debugger.run d = (.error e, d) := by
  split_ifs with hready
  · obtain ⟨hphase, hlaunches, hsession⟩ := hready
    have hattempts := attempts_run hwf hphase hlaunches hsession
    refine ⟨by rw [hattempts.session, hlaunches, Bool.or_true], hattempts.phase, ?_⟩
    rw [run_apply (Debugger.run d).2, if_neg]
    rintro ⟨hconfiguring, -⟩
    rw [hattempts.phase] at hconfiguring
    cases hconfiguring
  · rw [run_apply]
    split_ifs with hpair
    · have hnone : d.session = none := by
        by_contra hsome
        exact hready ⟨hpair.1, hpair.2, Option.isSome_iff_ne_none.2 hsome⟩
      exact ⟨_, configure_of_no_session hnone⟩
    · exact ⟨_, rfl⟩

/-- **When the configuration of a program that runs or stands is complete.**  It is, unless all
configurations on this connection were begun by `run` and failed: a `run` that begins one leaves a
program that counts as running, however that ends, and cannot be tried again. -/
theorem Run.completed_iff {history : List (Step σ)} {d : Debugger σ} (h : Run history d) :
    (d.session.isSome → d.phase = .running ∨ d.phase = .stopped →
      ((∃ step ∈ history, step.Completes d.generation) ↔ ¬OnlyFails d.generation history)) ∧
      if d.phase = .configuring ∧ d.launches ∧ d.session.isSome then
        (Debugger.run d).2.session.isSome ∧ (Debugger.run d).2.phase = .running ∧
          Debugger.run (Debugger.run d).2 = (.error .nothingToRun, (Debugger.run d).2)
      else ∃ e, Debugger.run d = (.error e, d) := by
  refine ⟨fun hsession hphase => ⟨?_, fun honly => ?_⟩, run_leaves h.isTold.wellFormed⟩
  · rintro ⟨step, hstep, hcompletes⟩ ⟨-, hfailures⟩
    obtain ⟨outcome, hbegun⟩ := Option.isSome_iff_exists.1 hcompletes.2.1
    have hbegins : step.Begins d.generation outcome := ⟨hcompletes.1, hbegun⟩
    have hsucceeds := (Step.completes_iff (h.wellFormed_before hstep) hbegins).1 hcompletes
    rw [(hfailures step hstep outcome hbegins).2] at hsucceeds
    cases hsucceeds
  · have hlive : d.phase.isLive := by rcases hphase with heq | heq <;> rw [heq] <;> rfl
    by_contra hnone
    refine honly ⟨h.begun hsession hlive, fun step hstep outcome hbegins => ?_⟩
    have hcompletes := Step.completes_iff (h.wellFormed_before hstep) hbegins
    cases outcome with
    | ok _ => exact absurd ⟨step, hstep, hcompletes.2 rfl⟩ hnone
    | error e =>
      refine ⟨(h.failed hstep hbegins).resolve_right fun hover => ?_, rfl⟩
      have hopen : d.isOpen d.generation := by simp [isOpen, hsession]
      have hclosed : d.isOpen d.generation = false := hover.2
      rw [hopen] at hclosed
      cases hclosed

/-- An adapter that refuses the exceptions to stop at. -/
def Script.refusing : Script :=
  { entries := [("setExceptionBreakpoints", [{ answer := .refusal (.refused "nope") }])] }

/-- A run it speaks of: the program counts as running, and its only configuration has failed. -/
theorem Run.completed_iff_scripted :
    let run := Move.steps Script.running [] (Script.rehearse Script.refusing)
    run.1.map (fun step => step.configuration?.map (·.isOk)) = [some false, none, none] ∧
      run.2.session.isSome ∧ run.2.phase = .running ∧
      ((∃ step ∈ run.1, step.Completes run.2.generation) ↔ ¬OnlyFails run.2.generation run.1) := by
  intro run
  have hrun : Run run.1 run.2 := (Run.start _ _ _).steps _
  have hsession : run.2.session.isSome := by decide +kernel
  have hphase : run.2.phase = .running := by decide +kernel
  exact ⟨by decide +kernel, hsession, hphase, hrun.completed_iff.1 hsession (.inl hphase)⟩

/-- A program that runs is not always configured: its only configuration may have failed. -/
theorem Run.completed_not_always : ¬∀ (history : List (Step Script)) (d : Debugger Script),
    Run history d → d.session.isSome → d.phase = .running ∨ d.phase = .stopped →
      ∃ step ∈ history, step.Completes d.generation := by
  intro h
  let run := Move.steps Script.running [] (Script.rehearse Script.refusing)
  have hrun : Run run.1 run.2 := (Run.start _ _ _).steps _
  have hphase : run.2.phase = .running := by decide +kernel
  obtain ⟨step, hstep, hcompletes⟩ := h run.1 run.2 hrun (by decide +kernel) (.inl hphase)
  obtain ⟨outcome, hbegun⟩ := Option.isSome_iff_exists.1 hcompletes.2.1
  have hsucceeds := (Step.completes_iff (hrun.wellFormed_before hstep) ⟨hcompletes.1, hbegun⟩).1
    hcompletes
  have hfails : ∀ step ∈ run.1, step.configuration?.all (fun outcome => !outcome.isOk) := by
    decide +kernel
  simpa [hbegun, hsucceeds] using hfails step hstep

end DebugConsole
