/-
# What a failed start leaves behind

A session is started by a launch, by a relaunch, and without the user when the launched target of
the open session is gone (`Move.attempt?`).  The old session is closed before, so all that can be
left behind is the connection of the attempt:

| what fails | session | not parted on |
| --- | --- | --- |
| the adapter cannot be reached | none | no connection |
| `initialize` is refused, or its answer cannot be read | open | the new connection |

A failed start leaves nothing behind just if it has opened no connection (`Run.failed_start_iff`).
The session that is left otherwise is of no use: its program will never be started.
-/

import DebugConsole.Proofs.Succession

namespace DebugConsole

open Protocol

variable {σ : Type}

namespace Debugger

/-- The adapter on a connection was told to disconnect. -/
def HasParted (connection : Nat) (d : Debugger σ) : Prop :=
  ∃ e ∈ d.exchanges, e.isOn connection ∧ e.isCommand "disconnect"

/-- There is no session, and on every connection that was opened the adapter was told to
disconnect. -/
def IsParted (d : Debugger σ) : Prop :=
  d.session = none ∧
    ∀ connection, 0 < connection → connection ≤ d.connections → d.HasParted connection

/-- The program is gone, and the console says so. -/
def terminate (line : String) (d : Debugger σ) : Debugger σ :=
  { d with phase := .terminated, console := d.console.writeLine line }

/-- A session could not be started: the connection was refused, or it was opened and the adapter
could not be asked what it can do. -/
inductive Falters (e : Error) (d d' : Debugger σ) : Prop
  | refused {executable : Executable} (session : d'.session = none)
      (generation : d'.generation = d.generation)
      (asks : d'.exchanges = .connect executable (.error e) :: d.exchanges)
  | rejected {executable : Executable} {args : InitializeArguments} {answer : Except Error Json}
      (session : d'.session.isSome) (generation : d'.generation = d.generation + 1)
      (unsent : d'.unsent? = none)
      (asks : d'.exchanges = .request ((Call.introduce args).on (d.generation + 1)) answer ::
        .connect executable (.ok ()) :: d.exchanges)
      (fails : (Call.introduce args).result answer = .error e)

/-- What is written afterwards makes no difference. -/
theorem Falters.with_console {e : Error} {d d' : Debugger σ} (h : Falters e d d')
    (console : Console) : Falters e d { d' with console } := by
  cases h with
  | refused session generation asks => exact .refused session generation asks
  | rejected session generation unsent asks fails =>
    exact .rejected session generation unsent asks fails

end Debugger

open Debugger

variable [Environment σ]

/-- How the attempt to start a session ends that a move makes, if it makes one. -/
def Move.attempt? (d : Debugger σ) (move : Move σ) : Option (Except Error Unit) :=
  match move with
  | .operate (.launch target) => some (launch target d).1
  | .operate .relaunch => if d.target.isSome then some (relaunch d).1 else none
  | .handle (.event _ (.exited body)) =>
    if move.revives d then
      some (relaunch (d.terminate
        ("Target exited with status " ++ toString body.exitCode.toInt))).1
    else none
  | .handle (.event _ (.terminated _)) =>
    if move.revives d then some (relaunch (d.terminate "The target has exited.")).1 else none
  | _ => none

/-- These are all the attempts to connect. -/
theorem Move.isSome_attempt? (d : Debugger σ) (move : Move σ) :
    (move.attempt? d).isSome = move.connects d := by
  unfold attempt?
  split
  · rfl
  · show _ = d.target.isSome
    cases d.target.isSome <;> rfl
  · rename_i connection body
    show _ = (Move.handle (.event connection (.exited body))).revives d
    cases (Move.handle (.event connection (.exited body))).revives d <;> rfl
  · rename_i connection body
    show _ = (Move.handle (.event connection (.terminated body))).revives d
    cases (Move.handle (.event connection (.terminated body))).revives d <;> rfl
  · rename_i hlaunch hrelaunch hexited hterminated
    cases move using Move.casesPlain with
    | plain move hplain => exact (connects_of_isPlain hplain d).1.symm
    | launch target => exact absurd rfl (hlaunch target)
    | relaunch => exact absurd rfl hrelaunch
    | exited connection body => exact absurd rfl (hexited connection body)
    | terminated connection body => exact absurd rfl (hterminated connection body)
    | _ => rfl

namespace Debugger

/-! ### Where it fails -/

/-- A relaunch that fails has closed the session before. -/
theorem falters_relaunch {d : Debugger σ} (htarget : d.target.isSome) {e : Error}
    (hfails : (relaunch d).1 = .error e) :
    Falters e (closeSession { d with phase := .initializing }).2 (relaunch d).2 := by
  obtain ⟨target, htarget⟩ := Option.isSome_iff_exists.1 htarget
  have hclosed := (closeSession_spec { d with phase := .initializing }).session
  rw [relaunch_of_target htarget, openSession_apply] at hfails ⊢
  generalize (closeSession { d with phase := .initializing }).2 = d₁ at hclosed hfails ⊢
  obtain ⟨environment, -, ⟨e', hconnect⟩ | hconnect⟩ := connect_cases target.executable
    { d₁ with console := d₁.console.closeInput, threads := {} } <;>
    rw [hconnect] at hfails ⊢
  · obtain rfl : e' = e := Except.error.inj hfails
    exact .refused hclosed rfl rfl
  · obtain ⟨answer, hresult, hexchanges, -, hgeneration, hsession, hunsent⟩ :=
      Action.send_keeps (Call.introduce (InitializeArguments.ofAdapter target.adapterId)) { d₁ with
        console := d₁.console.closeInput, threads := {}, environment, session := some {}
        generation := d₁.generation + 1
        exchanges := .connect target.executable (.ok ()) :: d₁.exchanges }
    dsimp only at hfails ⊢
    rcases hsend : Action.send (Call.introduce (InitializeArguments.ofAdapter target.adapterId))
      { d₁ with
        console := d₁.console.closeInput, threads := {}, environment, session := some {}
        generation := d₁.generation + 1
        exchanges := .connect target.executable (.ok ()) :: d₁.exchanges } with ⟨e' | _, d₂⟩ <;>
      rw [hsend] at hresult hexchanges hgeneration hsession hunsent hfails
    · obtain rfl : e' = e := Except.error.inj hfails
      exact .rejected hsession hgeneration hunsent hexchanges hresult.symm
    · cases hfails

/-- When a target cannot be started again, the console says why. -/
theorem falters_onTargetGone {d : Debugger σ} (hlaunches : d.launches) {e : Error}
    (hfails : (relaunch d).1 = .error e) :
    Falters e (closeSession { d with phase := .initializing }).2 (onTargetGone d).2 := by
  rcases Option.eq_none_or_eq_some d.target with htarget | ⟨target, htarget⟩
  · rw [launches, htarget] at hlaunches
    cases hlaunches
  have hfalters := falters_relaunch (by rw [htarget]; rfl) hfails
  rw [onTargetGone_of_target htarget, if_pos (launches_of_target htarget ▸ hlaunches)]
  rcases hrun : relaunch d with ⟨e' | _, d'⟩ <;> rw [hrun] at hfails hfalters
  · exact hfalters.with_console _
  · cases hfails

/-- **An attempt that fails** has parted on the connection before it. -/
theorem Follows.falters_next {d : Debugger σ} {stage : Stage} (h : Follows d stage)
    {move : Move σ} {e : Error} (hfails : move.attempt? d = some (.error e)) :
    ∃ d₁, Follows d₁ .apart ∧ d₁.generation = d.generation ∧ Falters e d₁ (move.next d) := by
  -- what is closed first differs from the debugger in what no connection is about
  have hcloses {d₀ : Debugger σ} (h₀ : Follows d₀ stage)
      (hgeneration : d₀.generation = d.generation)
      (hfalters : Falters e (closeSession { d₀ with phase := .initializing }).2 (move.next d)) :
      ∃ d₁, Follows d₁ .apart ∧ d₁.generation = d.generation ∧ Falters e d₁ (move.next d) := by
    have hready : Follows { d₀ with phase := .initializing } stage :=
      ⟨h₀.ordered, h₀.session, h₀.introduced, h₀.unsent⟩
    have hparts := parts_closeSession { d₀ with phase := .initializing }
    exact ⟨_, hready.parts hparts, hparts.generation.trans hgeneration, hfalters⟩
  have hgone (line : String) : Follows (d.terminate line) stage :=
    ⟨h.ordered, h.session, h.introduced, h.unsent⟩
  unfold Move.attempt? at hfails
  split at hfails
  · rename_i target
    refine hcloses (h.prepared (.operate (.launch target))) rfl ?_
    have heq := launch_apply target d
    rw [heq] at hfails
    show Falters e _ (launch target d).2
    rw [heq]
    exact falters_relaunch rfl (Option.some.inj hfails)
  · split at hfails
    · exact hcloses h rfl (falters_relaunch ‹_› (Option.some.inj hfails))
    · cases hfails
  · rename_i connection body
    split at hfails
    · rename_i hrevives
      obtain ⟨hopen, hlaunches⟩ := Bool.and_eq_true_iff.1 hrevives
      refine hcloses (hgone ("Target exited with status " ++ toString body.exitCode.toInt)) rfl ?_
      rw [Move.next_event_of_isOpen hopen, onEvent_exited]
      exact falters_onTargetGone (d := d.terminate _) hlaunches (Option.some.inj hfails)
    · cases hfails
  · rename_i connection body
    split at hfails
    · rename_i hrevives
      obtain ⟨hopen, hgone'⟩ := Bool.and_eq_true_iff.1 hrevives
      obtain ⟨hlaunches, hlive⟩ := Bool.and_eq_true_iff.1 hgone'
      refine hcloses (hgone "The target has exited.") rfl ?_
      rw [Move.next_event_of_isOpen hopen, onEvent_terminated, if_pos hlive]
      exact falters_onTargetGone (d := d.terminate _) hlaunches (Option.some.inj hfails)
    · cases hfails
  · cases hfails

omit [Environment σ] in
/-- Whoever is not on the open connection has parted. -/
theorem IsDisciplined.hasParted {d : Debugger σ} (h : d.IsDisciplined) {connection : Nat}
    (hpos : 0 < connection) (hle : connection ≤ d.connections)
    (hclosed : d.openConnection? ≠ some connection) : d.HasParted connection := by
  by_contra hnone
  refine hclosed ((h.current connection).1 ⟨hpos, hle, fun e he hon => ?_⟩)
  exact Bool.eq_false_iff.2 fun hparts => hnone ⟨e, he, hon, hparts⟩

/-- How things stand after an attempt to start a session that has failed. -/
structure IsLeftBy (e : Error) (d d' : Debugger σ) : Prop where
  /-- On every connection from before the attempt the adapter was told to disconnect. -/
  earlier : ∀ connection, 0 < connection → connection ≤ d.connections → d'.HasParted connection
  /-- Where no connection was opened, it is the connection that failed. -/
  refused : d'.connections = d.connections →
    ∃ executable rest, d'.exchanges = .connect executable (.error e) :: rest
  /-- Where one was opened, the session on it stays; its adapter was asked once what it can do and
  nothing else, that is what failed, and the program will not be started. -/
  rejected : d'.connections ≠ d.connections →
    d'.openConnection? = some (d.connections + 1) ∧ d'.unsent? = none ∧
      ∃ args answer, (Call.introduce args).result answer = .error e ∧
        d'.exchanges.filter (·.isOn (d.connections + 1)) =
          [.request ((Call.introduce args).on (d.connections + 1)) answer]

end Debugger

/-- **What a failed start leaves behind.**  In every run, when an attempt to start a session fails,
the user's or that of a program that is gone, no session is left and every connection is parted on
if and only if the attempt has opened no connection. -/
theorem Run.failed_start_iff {history : List (Step σ)} {d : Debugger σ} (h : Run history d)
    {move : Move σ} {e : Error} (hfails : move.attempt? d = some (.error e)) :
    ((move.next d).IsParted ↔ (move.next d).connections = d.connections) ∧
      IsLeftBy e d (move.next d) := by
  obtain ⟨stage, hfollows⟩ := h.exists_follows
  obtain ⟨d₁, hapart, hgeneration, hfalters⟩ := hfollows.falters_next hfails
  have hbefore := h.generation_eq
  have hafter := (h.step move).generation_eq
  obtain ⟨stage', hfollows'⟩ := (h.step move).exists_follows
  have hdisciplined := hfollows'.discipline
  generalize move.next d = d' at hfalters hafter hdisciplined ⊢
  -- the attempt has failed before there was a connection, or on the new one
  cases hfalters with
  | @refused executable session generation asks =>
    have hsame : d'.connections = d.connections := by omega
    have hparted (connection : Nat) (hpos : 0 < connection) (hle : connection ≤ d'.connections) :
        d'.HasParted connection :=
      hdisciplined.hasParted hpos hle (by simp [openConnection?, session])
    refine ⟨iff_of_true ⟨session, hparted⟩ hsame, fun connection hpos hle => ?_, fun _ => ?_,
      fun hne => absurd hsame hne⟩
    · exact hparted connection hpos (hsame ▸ hle)
    · exact ⟨executable, d₁.exchanges, asks⟩
  | @rejected executable args answer session generation unsent asks fails =>
    have hnext : d'.generation = d.connections + 1 := by omega
    have hopen : d'.openConnection? = some (d.connections + 1) :=
      hnext ▸ openConnection?_of_session session
    have hne : d'.connections ≠ d.connections := by omega
    refine ⟨iff_of_false (fun hparted => ?_) hne, fun connection hpos hle => ?_,
      fun hsame => absurd hsame hne, fun _ => ⟨hopen, unsent, args, answer, fails, ?_⟩⟩
    · rw [hparted.1] at session
      cases session
    · refine hdisciplined.hasParted hpos (by omega) ?_
      rw [hopen]
      intro heq
      have hnumber := Option.some.inj heq
      omega
    · have hnew : d₁.generation + 1 = d.connections + 1 := by omega
      -- on a new connection nothing was asked before
      have hsilent := hapart.ordered.filter_isOn_eq_nil
        (show d₁.generation < d.connections + 1 by omega)
      rw [asks, hnew, List.filter_cons_of_pos (by rw [Exchange.isOn_request]; simp),
        List.filter_cons_of_neg Bool.false_ne_true, hsilent]

/-- An adapter that answers the first introduction and refuses the second. -/
def Script.reluctant : Script where
  entries := [("initialize", [{}, { answer := .refusal (.refused "busy") }])]

/-- A run it speaks of: a launched program exits, and the adapter that is to start it again does not
say what it can do. -/
theorem Run.failed_start_iff_scripted :
    let run := Move.steps
      [.operate (.launch Script.launched), .handle (.event 1 .initialized), .operate .run] []
      (Script.rehearse Script.reluctant)
    let move : Move Script := .handle (.event 1 (.exited ⟨0⟩))
    let e := Error.requestFailed "initialize" "busy"
    move.attempt? run.2 = some (.error e) ∧ (move.next run.2).openConnection? = some 2 ∧
      ((move.next run.2).IsParted ↔ (move.next run.2).connections = run.2.connections) ∧
      IsLeftBy e run.2 (move.next run.2) := by
  intro run move e
  have hfails : move.attempt? run.2 = some (.error e) := by decide +kernel
  exact ⟨hfails, by decide +kernel, ((Run.start _ _ _).steps _).failed_start_iff hfails⟩

/-- A failed start may leave a session: a program is launched, and the adapter is reached but does
not say what it can do. -/
theorem Run.not_always_parted : ¬∀ (history : List (Step Script)) (d : Debugger Script),
    Run history d → ∀ (move : Move Script) (e : Error),
      move.attempt? d = some (.error e) → (move.next d).IsParted := by
  intro h
  let script : Script :=
    { entries := [("initialize", [{ answer := .refusal (.refused "busy") }])] }
  have hparted := h [] script.rehearse (.start _ _ _) (.operate (.launch Script.launched))
    (.requestFailed "initialize" "busy") (by decide +kernel)
  have hopen : ((Move.operate (.launch Script.launched)).next script.rehearse).session.isSome := by
    decide +kernel
  rw [hparted.1] at hopen
  cases hopen

end DebugConsole
