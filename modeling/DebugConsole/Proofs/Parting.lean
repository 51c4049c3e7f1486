/-
# Whether a program ends with its session

`disconnect` tells the adapter whether the program is to end, which a program that was launched
should and one that was attached to should not.  The debugger does not remember for what a session
was opened: it says what its target is by then.  The target changes only by a launch, and that
closes the session of the old target for the new one.  So a session is closed as it was opened, but
by a launch that goes over from launching to attaching or back (`Run.partings_fair_iff`).
-/

import DebugConsole.Proofs.Connections
import DebugConsole.Proofs.Phases

namespace DebugConsole

open Protocol

variable {σ : Type}

/-- What a request to disconnect says of the program can be read back. -/
theorem Protocol.DisconnectArguments.get?_toJson (terminates : Bool) :
    ((DisconnectArguments.toJson { restart := false, terminateDebuggee := some terminates }).get?
      "terminateDebuggee").bind Json.bool? = some terminates := by
  cases terminates <;> decide

theorem Protocol.Call.disconnect_inj {a b : Bool} {connection other : Nat}
    (h : (Call.disconnect { restart := false, terminateDebuggee := some a }).on connection =
      (Call.disconnect { restart := false, terminateDebuggee := some b }).on other) : a = b := by
  have hread := congrArg (fun asked : Request =>
    (asked.arguments.bind (·.get? "terminateDebuggee")).bind Json.bool?) h
  have hflag : some a = some b :=
    (DisconnectArguments.get?_toJson a).symm.trans (hread.trans (DisconnectArguments.get?_toJson b))
  exact Option.some.inj hflag

/-- The target that a connection was opened for: what the debugger was to do when it opened it. -/
def openedFor? [Environment σ] (connection : Nat) : List (Step σ) → Option Target
  | [] => none
  | step :: history =>
    if step.before.generation ≠ connection ∧ step.after.generation = connection then
      step.after.target
    else openedFor? connection history

/-- Does a request to disconnect ask for the end of the program just if its connection was opened to
launch one?  Anything else is fair. -/
def Exchange.IsFair [Environment σ] (history : List (Step σ)) (e : Exchange) : Prop :=
  ∀ asked, e.asked? = some asked → asked.command = "disconnect" →
    ∃ target, openedFor? asked.connection history = some target ∧
      asked = (Call.disconnect
        { restart := false, terminateDebuggee := some target.mode.isLaunch }).on asked.connection

/-- Does a launch go over from launching to attaching, or back, while a session is open? -/
def Step.Switches (step : Step σ) : Prop :=
  match step.move with
  | .operate (.launch target) =>
    step.before.session.isSome ∧ target.mode.isLaunch ≠ step.before.launches
  | _ => False

namespace Debugger

/-! ### Where a debugger disconnects -/

/-- These requests to disconnect were made, last first, and other questions were asked. -/
def Disconnects (partings : List Exchange) (d d' : Debugger σ) : Prop :=
  ∃ new, d'.exchanges = new ++ d.exchanges ∧ new.filter (·.isCommand "disconnect") = partings

/-- Requests to disconnect, and then more. -/
theorem Disconnects.trans {partings₁ partings₂ : List Exchange} {d₁ d₂ d₃ : Debugger σ}
    (h₁ : Disconnects partings₁ d₁ d₂) (h₂ : Disconnects partings₂ d₂ d₃) :
    Disconnects (partings₂ ++ partings₁) d₁ d₃ := by
  obtain ⟨new₁, heq₁, rfl⟩ := h₁
  obtain ⟨new₂, heq₂, rfl⟩ := h₂
  exact ⟨new₂ ++ new₁, by rw [heq₂, heq₁, List.append_assoc], List.filter_append ..⟩

/-- Talk disconnects from nothing. -/
theorem Converses.disconnects {d d' : Debugger σ} (h : Converses d d') : Disconnects [] d d' := by
  obtain ⟨new, heq, hall⟩ := h.asks
  refine ⟨new, heq, List.filter_eq_nil_iff.2 fun e he => ?_⟩
  rw [(hall e he).isCommand_eq_false rfl]
  exact Bool.false_ne_true

/-- After talk the last request would be the same. -/
theorem Converses.partingRequest_eq {d d' : Debugger σ} (h : Converses d d') :
    d'.partingRequest = d.partingRequest := by
  rw [partingRequest, partingRequest, launches_congr h.target, h.generation]

/-- Parting from an open session makes one request to disconnect. -/
theorem Parts.disconnects {d d' : Debugger σ} (h : Parts d d') :
    d.session = none ∧ Disconnects [] d d' ∨
      d.session.isSome ∧ ∃ answer, Disconnects [.request d.partingRequest answer] d d' :=
  h.asks.imp (.imp_right fun heq => ⟨[], heq, rfl⟩)
    (.imp_right fun ⟨answer, heq⟩ => ⟨answer, [_], heq, rfl⟩)

/-- Connecting makes none. -/
theorem Connects.disconnects {d d' : Debugger σ} (h : Connects d d') : Disconnects [] d d' := by
  rcases h.asks with ⟨executable, e, -, -, heq⟩ | ⟨executable, args, answer, -, -, heq, -⟩
  · exact ⟨[_], heq, rfl⟩
  · exact ⟨[_, _], heq, rfl⟩

/-- **A move disconnects at most once**, from the open session; where it does not, that stays
open. -/
theorem Course.disconnects {d d' : Debugger σ} (h : Course d d') :
    Disconnects [] d d' ∧ (d.session.isSome → d'.openConnection? = d.openConnection?) ∨
      d.session.isSome ∧ ∃ answer, Disconnects [.request d.partingRequest answer] d d' := by
  cases h with
  | talks talk => exact .inl ⟨talk.disconnects, fun _ => talk.openConnection?_eq⟩
  | @starts mode start =>
    refine .inl ⟨⟨[_], start.asks, by cases mode <;> rfl⟩, fun hsession => ?_⟩
    rw [openConnection?_of_session hsession, openConnection?_of_session start.session.2,
      start.generation]
  | parts before parting after =>
    rcases parting.disconnects with ⟨hnone, hsilent⟩ | ⟨hsome, answer, hparts⟩
    · refine .inl ⟨(before.disconnects.trans hsilent).trans after.disconnects, fun hsession => ?_⟩
      rw [← before.session, hnone] at hsession
      cases hsession
    · rw [before.partingRequest_eq] at hparts
      exact .inr ⟨before.session ▸ hsome, answer,
        (before.disconnects.trans hparts).trans after.disconnects⟩
  | restarts before parting connecting after =>
    have hafter := connecting.disconnects.trans after.disconnects
    rcases parting.disconnects with ⟨hnone, hsilent⟩ | ⟨hsome, answer, hparts⟩
    · refine .inl ⟨(before.disconnects.trans hsilent).trans hafter, fun hsession => ?_⟩
      rw [← before.session, hnone] at hsession
      cases hsession
    · rw [before.partingRequest_eq] at hparts
      exact .inr ⟨before.session ▸ hsome, answer, (before.disconnects.trans hparts).trans hafter⟩

/-- A session that was begun has a target. -/
theorem Course.target_of_session {d d' : Debugger σ} (h : Course d d')
    (hd : d.session.isSome → d.target.isSome) (hd' : d'.session.isSome) : d'.target.isSome := by
  cases h with
  | talks talk => exact talk.target ▸ hd (talk.session ▸ hd')
  | starts start => exact start.target ▸ hd start.session.1
  | parts before parting after =>
    rw [after.session, parting.session] at hd'
    cases hd'
  | restarts before parting connecting after => exact after.target ▸ connecting.known

end Debugger

open Debugger

variable [Environment σ]

/-! ### What a connection was opened for -/

/-- Connections are counted upwards. -/
theorem Debugger.generation_le_of_turns {d d' : Debugger σ} {move : Move σ}
    (h : Turns d move d') : d.generation ≤ d'.generation := by
  cases h with
  | stays kept phase => exact kept.generation.ge
  | starts begins phase session => omega
  | closes session target generation phase => exact generation.ge
  | readies readiness launches kept phase => exact kept.generation.ge
  | configures outcome begun attempt => exact attempt.generation.ge
  | exits launches kept phase => exact kept.generation.ge

/-- What a connection was opened for is never forgotten. -/
theorem Run.openedFor?_step {history : List (Step σ)} {d : Debugger σ} (h : Run history d)
    (move : Move σ) {connection : Nat} (hle : connection ≤ d.generation) :
    openedFor? connection (⟨d, move⟩ :: history) = openedFor? connection history := by
  have hmono : d.generation ≤ (Step.after ⟨d, move⟩).generation :=
    generation_le_of_turns (h.turns_next move)
  rw [openedFor?, if_neg]
  rintro ⟨hne, heq⟩
  dsimp only at hne
  omega

/-- There is no session without a target. -/
theorem Run.target_of_session {history : List (Step σ)} {d : Debugger σ} (h : Run history d)
    (hsession : d.session.isSome) : d.target.isSome := by
  induction h with
  | start environment console suppressed => cases hsession
  | step hrun move ih =>
    refine (course_next move _).target_of_session (fun hd => ?_) hsession
    unfold Move.prepared at hd ⊢
    split at hd
    · rfl
    · exact ih hd

/-- **The target of the open session is what its connection was opened for.** -/
theorem Run.openedFor?_eq {history : List (Step σ)} {d : Debugger σ} (h : Run history d)
    (hsession : d.session.isSome) : openedFor? d.generation history = d.target := by
  induction h with
  | start environment console suppressed => cases hsession
  | @step history d hrun move ih =>
    have hkept (hbefore : d.session.isSome) (htarget : (move.next d).target = d.target)
        (hgeneration : (move.next d).generation = d.generation) :
        openedFor? (move.next d).generation (⟨d, move⟩ :: history) = (move.next d).target := by
      rw [hgeneration, hrun.openedFor?_step move le_rfl, htarget]
      exact ih hbefore
    cases hrun.turns_next move with
    | stays kept phase => exact hkept (kept.session ▸ hsession) kept.target kept.generation
    | starts begins phase session =>
      rcases session with ⟨hnone, -⟩ | ⟨-, hnext⟩
      · rw [hnone] at hsession
        cases hsession
      · rw [openedFor?, if_pos ⟨by show d.generation ≠ _; omega, rfl⟩]
        rfl
    | closes session target generation phase =>
      rw [session] at hsession
      cases hsession
    | readies readiness launches kept phase =>
      exact hkept (kept.session ▸ hsession) kept.target kept.generation
    | configures outcome begun attempt =>
      refine hkept ?_ attempt.target attempt.generation
      rcases cases_of_configuration? begun with ⟨-, -, -, hsome, -⟩ | ⟨connection, -, hopen, -⟩
      · exact hsome
      · exact (Bool.and_eq_true_iff.1 hopen).2
    | exits launches kept phase => exact hkept (kept.session ▸ hsession) kept.target kept.generation

/-! ### Whether it is closed as it was opened -/

/-- Only requests to disconnect can be unfair. -/
theorem Exchange.isFair_of_isCommand {history : List (Step σ)} {e : Exchange}
    (h : e.isCommand "disconnect" = false) : e.IsFair history := by
  intro asked hasked hcommand
  rw [isCommand, hasked, Option.any_some, decide_eq_false_iff_not] at h
  exact absurd hcommand h

/-- A request to disconnect is fair just if it says what the connection was opened for. -/
theorem Debugger.isFair_partingRequest {history : List (Step σ)} {d : Debugger σ} {target : Target}
    (h : openedFor? d.generation history = some target) (answer : Except Error Json) :
    (Exchange.request d.partingRequest answer).IsFair history ↔
      d.launches = target.mode.isLaunch := by
  constructor
  · intro hfair
    obtain ⟨other, hopened, hasked⟩ := hfair d.partingRequest rfl rfl
    obtain rfl := Option.some.inj (h.symm.trans hopened)
    exact Call.disconnect_inj hasked
  · rintro hlaunches asked hasked -
    obtain rfl := Option.some.inj hasked
    exact ⟨target, h, by rw [← hlaunches]; rfl⟩

/-- Fairness does not depend on what comes later. -/
theorem Run.isFair_step {history : List (Step σ)} {d : Debugger σ} (h : Run history d)
    (move : Move σ) {e : Exchange} (he : e ∈ d.exchanges) :
    e.IsFair (⟨d, move⟩ :: history) ↔ e.IsFair history := by
  obtain ⟨stage, hfollows⟩ := h.exists_follows
  refine forall_congr' fun asked => forall_congr' fun hasked => ?_
  have hon : e.isOn asked.connection := by simp [Exchange.isOn, hasked]
  rw [h.openedFor?_step move (hfollows.ordered.bounds_of_isOn he hon).2]

omit [Environment σ] in
/-- What a debugger works on has the mode of its session, unless a launch switches it. -/
theorem Step.not_switches_iff {d : Debugger σ} (hsession : d.session.isSome) (move : Move σ) :
    ¬Step.Switches ⟨d, move⟩ ↔ (move.prepared d).launches = d.launches := by
  unfold Step.Switches Move.prepared
  dsimp only
  split
  · simp [hsession, launches]
  · simp

/-- A launch does not leave the connection open that it finds. -/
theorem Debugger.openConnection?_of_switches {d : Debugger σ} {move : Move σ}
    (h : Step.Switches ⟨d, move⟩) :
    d.session.isSome ∧ (move.next d).openConnection? ≠ d.openConnection? := by
  unfold Step.Switches at h
  dsimp only at h
  split at h
  · rename_i target
    refine ⟨h.1, ?_⟩
    show (launch target d).2.openConnection? ≠ _
    rw [launch_apply, openConnection?_of_session h.1]
    have hrestarts := relaunch_spec (d := { d with target := some target, breakpoints := {} }) rfl
    rcases hrestarts.session with ⟨hnone, -⟩ | ⟨hsome, hnext⟩
    · simp [openConnection?, hnone]
    · rw [openConnection?_of_session hsome, hnext]
      simp
  · cases h

/-- **What a move adds is fair**, unless it is a launch that goes over from launching to attaching
or back. -/
theorem Run.isFair_next {history : List (Step σ)} {d : Debugger σ} (h : Run history d)
    (move : Move σ) : ∃ new, (move.next d).exchanges = new ++ d.exchanges ∧
      ((∀ e ∈ new, e.IsFair (⟨d, move⟩ :: history)) ↔ ¬Step.Switches ⟨d, move⟩) := by
  have hprepared : (move.prepared d).exchanges = d.exchanges ∧
      (move.prepared d).session = d.session ∧ (move.prepared d).generation = d.generation := by
    unfold Move.prepared
    split <;> exact ⟨rfl, rfl, rfl⟩
  obtain ⟨hexchanges, hsame, hgeneration⟩ := hprepared
  rcases (course_next move d).disconnects with ⟨⟨new, heq, hnone⟩, hkept⟩ |
    ⟨hsession, answer, new, heq, hparting⟩ <;> rw [hexchanges] at heq <;> refine ⟨new, heq, ?_⟩
  · refine iff_of_true (fun e he => ?_) fun hswitches => ?_
    · exact Exchange.isFair_of_isCommand
        (Bool.eq_false_iff.2 (List.filter_eq_nil_iff.1 hnone e he))
    · obtain ⟨hsession, hne⟩ := openConnection?_of_switches hswitches
      refine hne ((hkept (hsame ▸ hsession)).trans ?_)
      rw [openConnection?, openConnection?, hsame, hgeneration]
  · -- the session was opened for the old target, and what is said of the program is the new one's
    rw [hsame] at hsession
    obtain ⟨target, htarget⟩ := Option.isSome_iff_exists.1 (h.target_of_session hsession)
    have hopened :
        openedFor? (move.prepared d).generation (⟨d, move⟩ :: history) = some target := by
      rw [hgeneration, h.openedFor?_step move le_rfl, h.openedFor?_eq hsession, htarget]
    rw [Step.not_switches_iff hsession, launches_of_target htarget,
      ← isFair_partingRequest hopened answer]
    have hmem (e : Exchange) : e ∈ new ∧ e.isCommand "disconnect" ↔
        e = .request (move.prepared d).partingRequest answer := by
      rw [← List.mem_filter, hparting, List.mem_singleton]
    refine ⟨fun hall => hall _ ((hmem _).2 rfl).1, fun hfair e he => ?_⟩
    cases hcommand : e.isCommand "disconnect" with
    | false => exact Exchange.isFair_of_isCommand hcommand
    | true => exact (hmem e).1 ⟨he, hcommand⟩ ▸ hfair

/-- **When sessions are closed as they were opened.**  In every run all requests to disconnect ask
for the end of the program just if their connection was opened to launch one, if and only if no
launch has gone over from launching to attaching, or back, while a session was open.  Move by move:
what is asked in a move is fair just if it is not such a launch. -/
theorem Run.partings_fair_iff {history : List (Step σ)} {d : Debugger σ} (h : Run history d) :
    ((∀ e ∈ d.exchanges, e.IsFair history) ↔ ∀ step ∈ history, ¬step.Switches) ∧
      ∀ move : Move σ, ∃ new, (move.next d).exchanges = new ++ d.exchanges ∧
        ((∀ e ∈ new, e.IsFair (⟨d, move⟩ :: history)) ↔ ¬Step.Switches ⟨d, move⟩) := by
  refine ⟨?_, h.isFair_next⟩
  induction h with
  | start environment console suppressed =>
    exact iff_of_true (fun _ he => absurd he List.not_mem_nil) fun _ hstep =>
      absurd hstep List.not_mem_nil
  | @step history d hrun move ih =>
    obtain ⟨new, heq, hnew⟩ := hrun.isFair_next move
    rw [heq, List.forall_mem_append, List.forall_mem_cons, hnew, ← ih]
    exact and_congr_right fun _ => forall₂_congr fun e he => hrun.isFair_step move he

/-- A run it speaks of: a program is launched, and then another one is attached to. -/
theorem Run.partings_fair_iff_scripted :
    let run := Move.steps
      [.operate (.launch Script.launched), .operate (.launch Script.attached)] []
      (Script.rehearse {})
    run.2.connections = 2 ∧
      (((∀ e ∈ run.2.exchanges, e.IsFair run.1) ↔ ∀ step ∈ run.1, ¬step.Switches) ∧
        ∀ move : Move Script, ∃ new, (move.next run.2).exchanges = new ++ run.2.exchanges ∧
          ((∀ e ∈ new, e.IsFair (⟨run.2, move⟩ :: run.1)) ↔ ¬Step.Switches ⟨run.2, move⟩)) := by
  intro run
  exact ⟨by decide +kernel, ((Run.start _ _ _).steps _).partings_fair_iff⟩

/-- Not all sessions are closed as they were opened: a program that was launched goes on when its
session is closed for one that is attached to. -/
theorem Run.partings_not_always_fair : ¬∀ (history : List (Step Script)) (d : Debugger Script),
    Run history d → ∀ e ∈ d.exchanges, e.IsFair history := by
  intro h
  let first := Move.steps [.operate (.launch Script.launched)] [] (Script.rehearse {})
  have hrun : Run first.1 first.2 := (Run.start _ _ _).steps _
  obtain ⟨new, heq, hnew⟩ := hrun.isFair_next (.operate (.launch Script.attached))
  have hall := h _ _ (hrun.step (.operate (.launch Script.attached)))
  rw [heq, List.forall_mem_append] at hall
  exact hnew.1 hall.1 ⟨by decide +kernel, by decide +kernel⟩

end DebugConsole
