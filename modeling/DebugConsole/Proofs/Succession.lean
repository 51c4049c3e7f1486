/-
# What the end of a target brings about

When the target of the open session is gone, a launched one is started again and a host that
has attached is asked to end.  Several signals say that a target is gone, and an adapter may
send any number of them:

| signal of the open session | launched | attached |
| --- | --- | --- |
| `exited` | one attempt to connect | shutdown |
| `terminated`, running or stopped | one attempt to connect | shutdown |
| `terminated`, in any other phase | nothing | nothing |
| end of the stream, refused start | no attempt | shutdown |

No other move asks for the shutdown, and any other attempt is the user's
(`Debugger.tallies_next`).  An attempt ends the session, so of all that the adapter of a
launched target says only one signal brings about an attempt (`Run.nodup_revivals`).
-/

import DebugConsole.Proofs.Parting

namespace DebugConsole

open Protocol

variable {σ : Type}

/-- Does the user ask for a session by this move? -/
def Move.asksForSession : Move σ → Bool
  | .operate (.launch _) => true
  | .operate .relaunch => true
  | _ => false

/-- Does a move say that the launched target of the open session is gone? -/
def Move.revives (d : Debugger σ) : Move σ → Bool
  | .handle (.event connection (.exited _)) => d.isOpen connection && d.launches
  | .handle (.event connection (.terminated _)) =>
    d.isOpen connection && (d.launches && d.phase.isLive)
  | _ => false

/-- Does a move make an attempt to connect? -/
def Move.connects (d : Debugger σ) : Move σ → Bool
  | .operate (.launch _) => true
  | .operate .relaunch => d.target.isSome
  | move => move.revives d

/-- Does a move ask the host to end? -/
def Move.asksToEnd (d : Debugger σ) : Move σ → Bool
  | .handle (.event connection (.exited _)) => d.isOpen connection && d.attaches
  | .handle (.event connection (.terminated _)) =>
    d.isOpen connection && (d.attaches && d.phase.isLive)
  | .handle (.closed connection) => d.isOpen connection && d.attaches
  | .handle (.started connection (.error _)) => d.isOpen connection && !d.launches
  | _ => false

namespace Debugger

/-- How many attempts to connect were made. -/
def attempts (d : Debugger σ) : Nat := d.exchanges.countP (·.isConnect)

/-- An attempt is refused, or it is successful. -/
theorem attempts_eq (d : Debugger σ) : d.attempts = d.refusals + d.connections := by
  rw [attempts, refusals, connections]
  induction d.exchanges with
  | nil => rfl
  | cons e rest ih =>
    have hone : (if e.isConnect then 1 else 0) =
        (if e.isRefusal then 1 else 0) + (if e.isConnection then 1 else 0) := by
      rcases e with ⟨executable, _ | _⟩ | _ | _ | _ | _ <;> rfl
    rw [List.countP_cons, List.countP_cons, List.countP_cons, ih]
    omega

/-- Requests other than a connect are no attempts. -/
theorem Asks.attempts_eq {d d' : Debugger σ} (h : Asks (·.isConnect = false) d d') :
    d'.attempts = d.attempts := h.countP_eq fun _ he => he

/-! ### What each move adds to the account -/

/-- Whether an attempt to connect was made, and whether the host was asked to end. -/
structure Tallies (connecting ending : Bool) (d d' : Debugger σ) : Prop where
  attempts : d'.attempts = d.attempts + connecting.toNat
  shutdownRequested : d'.shutdownRequested = (d.shutdownRequested || ending)

/-- What only asks attempts nothing and ends nothing. -/
theorem Tallies.of_asks {d d' : Debugger σ} (h : Asks (·.isConnect = false) d d')
    (hshutdown : d'.shutdownRequested = d.shutdownRequested) : Tallies false false d d' where
  attempts := h.attempts_eq
  shutdownRequested := by rw [hshutdown, Bool.or_false]

/-- Neither does what asks for nothing. -/
theorem Tallies.of_eq {d d' : Debugger σ} (hexchanges : d'.exchanges = d.exchanges)
    (hshutdown : d'.shutdownRequested = d.shutdownRequested) : Tallies false false d d' :=
  .of_asks (.of_eq hexchanges) hshutdown

/-- Doing nothing tallies with no attempt and no shutdown. -/
theorem Tallies.refl (d : Debugger σ) : Tallies false false d d := .of_eq rfl rfl

/-- Nothing of the kind has happened before. -/
theorem Tallies.of_prepared {connecting ending : Bool} {d d₁ d₂ : Debugger σ}
    (h₁ : Tallies false false d d₁) (h₂ : Tallies connecting ending d₁ d₂) :
    Tallies connecting ending d d₂ where
  attempts := by
    rw [h₂.attempts, h₁.attempts]
    rfl
  shutdownRequested := by rw [h₂.shutdownRequested, h₁.shutdownRequested, Bool.or_false]

/-- Nothing of the kind happens afterwards. -/
theorem Tallies.trans {connecting ending : Bool} {d d₁ d₂ : Debugger σ}
    (h₁ : Tallies connecting ending d d₁) (h₂ : Tallies false false d₁ d₂) :
    Tallies connecting ending d d₂ where
  attempts := h₂.attempts.trans h₁.attempts
  shutdownRequested := by rw [h₂.shutdownRequested, h₁.shutdownRequested, Bool.or_false]

/-- What lasts attempts nothing. -/
theorem Lasts.tallies {d d' : Debugger σ} (h : Lasts d d') : Tallies false false d d' :=
  .of_asks h.inner.unconnected h.shutdownRequested

variable [Environment σ]

/-- Neither does what is steady. -/
theorem Steady.tallies {d d' : Debugger σ} (h : Steady d d') : Tallies false false d d' :=
  .of_asks h.unconnected h.shutdownRequested

/-- Nor does closing a session. -/
theorem Closes.tallies {d d' : Debugger σ} (h : Closes d d') : Tallies false false d d' :=
  .of_asks h.inner.unconnected h.shutdownRequested

/-- A session dropped is an end only where a shutdown is asked for. -/
theorem Drops.tallies {d d' : Debugger σ} (h : Drops d d') {ending : Bool}
    (hshutdown : d'.shutdownRequested = (d.shutdownRequested || ending)) :
    Tallies false ending d d' := ⟨h.inner.unconnected.attempts_eq, hshutdown⟩

/-- A restart is one attempt to connect, also where that is refused. -/
theorem Restarts.tallies {d d' : Debugger σ} (h : Restarts d d') : Tallies true false d d' where
  attempts := by
    have hnumbered := h.numbered
    rw [attempts_eq, attempts_eq, Bool.toNat_true]
    rcases h.outcome with ⟨_, hgeneration, hrefusals⟩ | ⟨_, hgeneration, hrefusals⟩ <;> omega
  shutdownRequested := by rw [h.shutdownRequested, Bool.or_false]

/-- Configuring attempts no connection. -/
theorem tallies_configure {d : Debugger σ} (hwf : d.breakpoints.WellFormed) :
    Tallies false false d (configure d).2 := by
  rcases hsession : d.session.isSome with _ | _
  · rw [configure_of_no_session (by simpa using hsession)]
    exact .refl d
  obtain ⟨pushed, d₁, d₂, htells, hcalm, hresult⟩ := configure_spec hwf hsession
  have hentered : Tallies false false d { d with phase := .running } := .of_eq rfl rfl
  have hconfigured : Tallies false false d d₂ :=
    (hentered.trans htells.tallies).trans hcalm.tallies
  rcases hresult with ⟨e, hrun⟩ | ⟨hrun, -⟩ <;> rw [hrun]
  · exact hconfigured
  · exact hconfigured.trans (.of_eq rfl rfl)

/-- Neither does running. -/
theorem tallies_run {d : Debugger σ} (hwf : d.breakpoints.WellFormed) :
    Tallies false false d (Debugger.run d).2 := by
  rw [run_apply]
  split_ifs
  · exact tallies_configure hwf
  · exact .refl d

/-- A relaunch is one attempt where there is a target. -/
theorem tallies_relaunch (d : Debugger σ) : Tallies d.target.isSome false d (relaunch d).2 := by
  cases hsome : d.target.isSome with
  | false =>
    rw [relaunch_of_no_target (by simpa using hsome)]
    exact .refl d
  | true => exact (relaunch_spec hsome).tallies

/-- The event that a session is initialized leads to no attempt. -/
theorem tallies_onInitialized {d : Debugger σ} (hwf : d.breakpoints.WellFormed) :
    Tallies false false d (onInitialized d).2 := by
  rcases Option.eq_none_or_eq_some d.target with htarget | ⟨target, htarget⟩
  · rw [onInitialized_of_no_target htarget]
    exact .refl d
  rw [onInitialized_of_target htarget]
  split
  · exact .of_eq rfl rfl
  have hentered : Tallies false false d { d with phase := .configuring } := .of_eq rfl rfl
  have hconfigured : Tallies false false d (configure { d with phase := .configuring }).2 :=
    hentered.trans (tallies_configure (d := { d with phase := .configuring }) hwf)
  rcases hrun : configure { d with phase := .configuring } with ⟨e | _, d'⟩ <;>
    rw [hrun] at hconfigured
  · have hsaid : Tallies false false d { d' with console := (d'.console.writeLine
        "Failed to initialize debugging session.").writeLine e.message } :=
      hconfigured.trans (.of_eq rfl rfl)
    exact hsaid.trans (closeSession_spec _).tallies
  · exact hconfigured

/-- A launched target that is gone is started again, an attached one ends the host. -/
theorem tallies_onTargetGone (d : Debugger σ) :
    Tallies d.launches d.attaches d (onTargetGone d).2 := by
  rcases onTargetGone_cases d with
    ⟨htarget, heq⟩ | ⟨hattaches, heq⟩ | ⟨htarget, hlaunches, text, heq⟩ <;> rw [heq]
  · rw [launches, attaches, htarget]
    exact .refl d
  · rw [hattaches, launches_of_attaches hattaches]
    exact ⟨rfl, (Bool.or_true _).symm⟩
  · have hrelaunch : Tallies true false d (relaunch d).2 := (relaunch_spec htarget).tallies
    rw [attaches_of_target htarget, hlaunches]
    exact hrelaunch.trans (.of_eq rfl rfl)

/-- The same once the target has been reported gone. -/
theorem tallies_gone (line : String) (d : Debugger σ) :
    Tallies d.launches d.attaches d
      (onTargetGone { d with phase := .terminated, console := d.console.writeLine line }).2 := by
  have hsaid : Tallies false false d { d with
    phase := .terminated, console := d.console.writeLine line } := .of_eq rfl rfl
  exact hsaid.of_prepared (tallies_onTargetGone
    { d with phase := .terminated, console := d.console.writeLine line })

/-- **A termination in a live phase** relaunches a launched target and ends an attached one. -/
theorem tallies_onEvent_terminated (body : Option TerminatedBody) (d : Debugger σ) :
    Tallies (d.launches && d.phase.isLive) (d.attaches && d.phase.isLive) d
      (onEvent (.terminated body) d).2 := by
  rw [onEvent_terminated]
  cases d.phase.isLive with
  | true =>
    rw [Bool.and_true, Bool.and_true]
    exact tallies_gone _ d
  | false =>
    rw [Bool.and_false, Bool.and_false]
    exact .refl d

/-- A signal counts only where it has an effect at all. -/
theorem tallies_handle (signal : Signal) {d : Debugger σ} {connecting ending : Bool}
    (h : Tallies connecting ending d (react signal d).2) :
    Tallies (d.isOpen signal.generation && connecting) (d.isOpen signal.generation && ending) d
      (handle signal d).2 := by
  rw [handle_apply]
  cases d.isOpen signal.generation with
  | true => exact h
  | false => exact .refl d

/-- A signal whose reaction attempts and ends nothing does so as handled, too. -/
theorem tallies_handle_of_none {signal : Signal} {d : Debugger σ}
    (h : Tallies false false d (react signal d).2) :
    Tallies false false d (handle signal d).2 := by
  have hhandled := tallies_handle signal h
  rwa [Bool.and_false] at hhandled

omit [Environment σ] in
/-- A plain move makes no attempt and asks nobody to end. -/
theorem connects_of_isPlain {move : Move σ} (h : move.isPlain) (d : Debugger σ) :
    move.connects d = false ∧ move.asksToEnd d = false := by
  rcases move with operation | _ | _ | _ | signal | _ | _
  · cases operation <;> first | exact ⟨rfl, rfl⟩ | cases h
  · exact ⟨rfl, rfl⟩
  · exact ⟨rfl, rfl⟩
  · exact ⟨rfl, rfl⟩
  · rcases signal with ⟨connection, event⟩ | _ | _
    · cases event <;> first | exact ⟨rfl, rfl⟩ | cases h
    · cases h
    · cases h
  · exact ⟨rfl, rfl⟩
  · exact ⟨rfl, rfl⟩

/-- **What each move adds to the account.** -/
theorem tallies_next {d : Debugger σ} (hwf : d.breakpoints.WellFormed) (move : Move σ) :
    Tallies (move.connects d) (move.asksToEnd d) d (move.next d) := by
  cases move using Move.casesPlain with
  | plain move hplain =>
    obtain ⟨hconnects, hends⟩ := connects_of_isPlain hplain d
    rw [hconnects, hends]
    exact (move.lasts_next hplain d).tallies
  | launch target =>
    -- a launch takes its target over before it makes the one attempt
    have htarget : Tallies false false d { d with target := some target, breakpoints := {} } :=
      .of_eq rfl rfl
    show Tallies true false d (launch target d).2
    rw [launch_apply]
    exact htarget.of_prepared (relaunch_spec rfl).tallies
  | relaunch => exact tallies_relaunch d
  | close => exact (closeSession_spec d).tallies
  | run => exact tallies_run hwf
  | setBreakpoint path line => exact (edits_setBreakpoint path line d).toSteady.tallies
  | setEnabled index enabled => exact (edits_setEnabled index enabled d).toSteady.tallies
  | deleteBreakpoint index => exact (edits_deleteBreakpoint index d).toSteady.tallies
  | initialized connection => exact tallies_handle_of_none (tallies_onInitialized hwf)
  | exited connection body =>
    exact tallies_handle (.event connection (.exited body)) (tallies_gone _ d)
  | terminated connection body =>
    exact tallies_handle (.event connection (.terminated body))
      (tallies_onEvent_terminated body d)
  | breakpoint connection reason descriptor =>
    refine tallies_handle_of_none ?_
    show Tallies false false d (onEvent (.breakpoint reason descriptor) d).2
    obtain ⟨breakpoints, heq⟩ := exists_onEvent_breakpoint reason descriptor d
    rw [heq]
    exact .of_eq rfl rfl
  | closed connection =>
    obtain ⟨hdrops, -, hshutdown⟩ := onClosed_spec d
    have hclosed := tallies_handle (.closed connection) (hdrops.tallies hshutdown)
    rwa [Bool.and_false] at hclosed
  | started connection result =>
    cases result with
    | ok _ => exact tallies_handle_of_none (.refl d)
    | error e =>
      obtain ⟨hdrops, -, hshutdown⟩ := onStarted_error_spec e d
      have hstarted := tallies_handle (.started connection (.error e))
        (hdrops.tallies hshutdown)
      rwa [Bool.and_false] at hstarted

omit [Environment σ] in
/-- Only the user makes an attempt for any other reason. -/
theorem connects_eq_revives {move : Move σ} (h : move.asksForSession = false) (d : Debugger σ) :
    move.connects d = move.revives d := by
  unfold Move.connects
  split
  · cases h
  · cases h
  · rfl

omit [Environment σ] in
/-- What starts the target again ends the session. -/
theorem ends_of_revives {move : Move σ} {d : Debugger σ} (h : move.revives d) :
    move.ends d := by
  unfold Move.revives at h
  split at h
  · exact h
  · exact h
  · cases h

omit [Environment σ] in
/-- Only a signal of the open session starts the target again. -/
theorem exists_signal_of_revives {move : Move σ} {d : Debugger σ} (h : move.revives d) :
    ∃ signal, move = .handle signal ∧ d.isOpen signal.generation ∧ d.launches := by
  unfold Move.revives at h
  split at h
  · obtain ⟨hopen, hlaunches⟩ := Bool.and_eq_true_iff.1 h
    exact ⟨_, rfl, hopen, hlaunches⟩
  · obtain ⟨hopen, hgone⟩ := Bool.and_eq_true_iff.1 h
    exact ⟨_, rfl, hopen, (Bool.and_eq_true_iff.1 hgone).1⟩
  · cases h

omit [Environment σ] in
/-- Only a signal of the open session asks the host to end, and not if it was launched. -/
theorem exists_signal_of_asksToEnd {move : Move σ} {d : Debugger σ} (h : move.asksToEnd d) :
    ∃ signal, move = .handle signal ∧ d.isOpen signal.generation ∧ d.launches = false := by
  have hattaches (hd : d.attaches) : d.launches = false := launches_of_attaches hd
  unfold Move.asksToEnd at h
  split at h
  · obtain ⟨hopen, hd⟩ := Bool.and_eq_true_iff.1 h
    exact ⟨_, rfl, hopen, hattaches hd⟩
  · obtain ⟨hopen, hgone⟩ := Bool.and_eq_true_iff.1 h
    exact ⟨_, rfl, hopen, hattaches (Bool.and_eq_true_iff.1 hgone).1⟩
  · obtain ⟨hopen, hd⟩ := Bool.and_eq_true_iff.1 h
    exact ⟨_, rfl, hopen, hattaches hd⟩
  · obtain ⟨hopen, hd⟩ := Bool.and_eq_true_iff.1 h
    exact ⟨_, rfl, hopen, by simpa using hd⟩
  · cases h

/-- A target that is gone already is not gone once more. -/
theorem next_terminated {d : Debugger σ} (h : d.phase.isLive = false) (connection : Nat)
    (body : Option TerminatedBody) :
    (Move.handle (.event connection (.terminated body)) : Move σ).next d = d := by
  show (handle (.event connection (.terminated body)) d).2 = d
  rw [handle_apply]
  split_ifs
  · show (onEvent (.terminated body) d).2 = d
    rw [onEvent_terminated, h]
    rfl
  · rfl

end Debugger

/-! ### Runs -/

/-- A debugger works on the same target, but for a launch. -/
theorem Debugger.Course.target_eq {d d' : Debugger σ} (h : Course d d') :
    d'.target = d.target := by
  cases h with
  | talks talk => exact talk.target
  | starts start => exact start.target
  | parts before parting after => exact after.target.trans (parting.target.trans before.target)
  | restarts before parting connecting after =>
    exact after.target.trans (connecting.target.trans (parting.target.trans before.target))

section

variable [Environment σ]

/-- The connection whose adapter has brought about an attempt to connect in a step. -/
def Step.revival? (step : Step σ) : Option Nat :=
  match step.move with
  | .handle signal =>
    if step.before.attempts < step.after.attempts then some signal.generation else none
  | _ => none

/-- The connections whose adapters have brought about attempts to connect, last first. -/
def revivals (history : List (Step σ)) : List Nat := history.filterMap Step.revival?

/-- What the end of a target brings about in a run. -/
structure Succession (history : List (Step σ)) (d : Debugger σ) : Prop where
  /-- The open session launches if its connection was opened to launch, else it attaches. -/
  purpose : ∀ connection, d.isOpen connection → ∃ target,
    openedFor? connection history = some target ∧ d.launches = target.mode.isLaunch
  /-- No signal of a connection that was opened to attach brings about an attempt to connect. -/
  attached : ∀ signal target, openedFor? signal.generation history = some target →
    target.mode.isLaunch = false → ((Move.handle signal).next d).attempts = d.attempts
  /-- The host is asked to end only by a signal of the open session, if it attaches. -/
  shutdown : ∀ move : Move σ, (move.next d).shutdownRequested → d.shutdownRequested ∨
    ∃ signal target, move = .handle signal ∧ d.isOpen signal.generation ∧
      openedFor? signal.generation history = some target ∧ target.mode.isLaunch = false
  /-- The host of a user who only launches is never asked to end. -/
  launching : (∀ step ∈ history, ∀ target, step.move = .operate (.launch target) →
    target.mode.isLaunch) → d.shutdownRequested = false
  /-- Attempts that the user did not ask for are made when the launched target of the open session
  is gone, one each time. -/
  revived : ∀ move : Move σ, move.asksForSession = false →
    (move.next d).attempts = d.attempts + (move.revives d).toNat
  /-- Each session brings about one attempt at most, whatever its adapter sends. -/
  once : (revivals history).Nodup
  /-- A target that is gone is not gone once more. -/
  settled : d.phase = .terminated → ∀ connection body,
    (Move.handle (.event connection (.terminated body)) : Move σ).next d = d

end

open Debugger

variable [Environment σ]

/-- An open connection was opened for a target of its own mode. -/
theorem Run.exists_openedFor? {history : List (Step σ)} {d : Debugger σ} (h : Run history d)
    {connection : Nat} (hopen : d.isOpen connection) : ∃ target,
      openedFor? connection history = some target ∧ d.launches = target.mode.isLaunch := by
  obtain ⟨hgeneration, hsession⟩ := Bool.and_eq_true_iff.1 hopen
  obtain rfl : d.generation = connection := of_decide_eq_true hgeneration
  obtain ⟨target, htarget⟩ := Option.isSome_iff_exists.1 (h.target_of_session hsession)
  exact ⟨target, (h.openedFor?_eq hsession).trans htarget, launches_of_target htarget⟩

/-- **No attempt for an attached program.** -/
theorem Run.attempts_of_attached {history : List (Step σ)} {d : Debugger σ} (h : Run history d)
    {signal : Signal} {target : Target}
    (hopened : openedFor? signal.generation history = some target)
    (hattach : target.mode.isLaunch = false) :
    ((Move.handle signal).next d).attempts = d.attempts := by
  have htallies := (tallies_next h.isTold.wellFormed (.handle signal)).attempts
  rw [connects_eq_revives rfl] at htallies
  cases hrevives : (Move.handle signal).revives d with
  | false =>
    rw [hrevives] at htallies
    exact htallies
  | true =>
    obtain ⟨other, heq, hopen, hlaunches⟩ := exists_signal_of_revives hrevives
    cases heq
    obtain ⟨target', hopened', hlaunch⟩ := h.exists_openedFor? hopen
    obtain rfl := Option.some.inj (hopened.symm.trans hopened')
    rw [hlaunches, hattach] at hlaunch
    cases hlaunch

/-- **Who asks the host to end.** -/
theorem Run.exists_signal_of_shutdown {history : List (Step σ)} {d : Debugger σ}
    (h : Run history d) {move : Move σ} (hafter : (move.next d).shutdownRequested) :
    d.shutdownRequested ∨ ∃ signal target, move = .handle signal ∧ d.isOpen signal.generation ∧
      openedFor? signal.generation history = some target ∧ target.mode.isLaunch = false := by
  rw [(tallies_next h.isTold.wellFormed move).shutdownRequested, Bool.or_eq_true] at hafter
  refine hafter.imp_right fun hends => ?_
  obtain ⟨signal, rfl, hopen, hlaunches⟩ := exists_signal_of_asksToEnd hends
  obtain ⟨target, hopened, hlaunch⟩ := h.exists_openedFor? hopen
  exact ⟨signal, target, rfl, hopen, hopened, hlaunch.symm.trans hlaunches⟩

/-- A debugger works on what was launched. -/
theorem Run.exists_launch_of_target {history : List (Step σ)} {d : Debugger σ}
    (h : Run history d) {target : Target} (htarget : d.target = some target) :
    ∃ step ∈ history, step.move = .operate (.launch target) := by
  induction h with
  | start environment console suppressed => cases htarget
  | @step history d hrun move ih =>
    rw [(course_next move d).target_eq] at htarget
    unfold Move.prepared at htarget
    split at htarget
    · obtain rfl := Option.some.inj htarget
      exact ⟨_, List.mem_cons_self, rfl⟩
    · obtain ⟨step, hmem, hmove⟩ := ih htarget
      exact ⟨step, List.mem_cons_of_mem _ hmem, hmove⟩

/-- What a connection was opened for was launched. -/
theorem Run.exists_launch_of_openedFor? {history : List (Step σ)} {d : Debugger σ}
    (h : Run history d) {connection : Nat} {target : Target}
    (hopened : openedFor? connection history = some target) :
    ∃ step ∈ history, step.move = .operate (.launch target) := by
  induction h with
  | start environment console suppressed => cases hopened
  | @step history d hrun move ih =>
    rw [openedFor?] at hopened
    split at hopened
    · exact (hrun.step move).exists_launch_of_target hopened
    · obtain ⟨step, hmem, hmove⟩ := ih hopened
      exact ⟨step, List.mem_cons_of_mem _ hmem, hmove⟩

/-- **A host that only launches is never asked to end.** -/
theorem Run.shutdown_of_launching {history : List (Step σ)} {d : Debugger σ} (h : Run history d)
    (hlaunching : ∀ step ∈ history, ∀ target, step.move = .operate (.launch target) →
      target.mode.isLaunch) : d.shutdownRequested = false := by
  induction h with
  | start environment console suppressed => rfl
  | @step history d hrun move ih =>
    have hbefore : d.shutdownRequested = false :=
      ih fun step hmem => hlaunching step (List.mem_cons_of_mem _ hmem)
    refine Bool.eq_false_iff.2 fun hafter => ?_
    rcases hrun.exists_signal_of_shutdown hafter with hd | ⟨signal, target, -, -, hopened, hattach⟩
    · rw [hbefore] at hd
      cases hd
    · obtain ⟨step, hmem, hmove⟩ := hrun.exists_launch_of_openedFor? hopened
      have hlaunch := hlaunching step (List.mem_cons_of_mem _ hmem) target hmove
      rw [hattach] at hlaunch
      cases hlaunch

/-- An attempt that an adapter brings about is on the open session, and ends it. -/
theorem Run.isOpen_of_revival {history : List (Step σ)} {d : Debugger σ} (h : Run history d)
    {move : Move σ} {connection : Nat} (hrevival : Step.revival? ⟨d, move⟩ = some connection) :
    d.isOpen connection ∧ (move.next d).IsOver connection := by
  cases move with
  | handle signal =>
    simp only [Step.revival?] at hrevival
    split at hrevival
    · rename_i hlt
      obtain rfl := Option.some.inj hrevival
      have htallies := (tallies_next h.isTold.wellFormed (.handle signal)).attempts
      rw [connects_eq_revives rfl] at htallies
      have hrevives : (Move.handle signal).revives d := by
        rw [← Bool.not_eq_false]
        intro hnone
        rw [hnone] at htallies
        exact absurd htallies hlt.ne'
      obtain ⟨other, heq, hopen, -⟩ := exists_signal_of_revives hrevives
      cases heq
      obtain ⟨hgeneration, -⟩ := Bool.and_eq_true_iff.1 hopen
      have hle : signal.generation ≤ d.generation := (of_decide_eq_true hgeneration).ge
      exact ⟨hopen, isOver_of_ends (ends_of_revives hrevives) hle⟩
    · cases hrevival
  | _ => cases hrevival

/-- **One attempt for each session at most.**  What brings it about ends the session, and nothing
that is still said on its connection has an effect. -/
theorem Run.nodup_revivals {history : List (Step σ)} {d : Debugger σ} (h : Run history d) :
    (revivals history).Nodup ∧ ∀ connection ∈ revivals history, d.IsOver connection := by
  induction h with
  | start environment console suppressed =>
    exact ⟨List.nodup_nil, fun _ hmem => absurd hmem List.not_mem_nil⟩
  | @step history d hrun move ih =>
    obtain ⟨hnodup, hover⟩ := ih
    have hkept : ∀ connection ∈ revivals history, (move.next d).IsOver connection :=
      fun connection hmem => (hover connection hmem).next hrun.isTold.wellFormed move
    cases hrevival : Step.revival? ⟨d, move⟩ with
    | none =>
      rw [revivals, List.filterMap_cons_none hrevival]
      exact ⟨hnodup, hkept⟩
    | some connection =>
      obtain ⟨hopen, hended⟩ := hrun.isOpen_of_revival hrevival
      rw [revivals, List.filterMap_cons_some hrevival, List.nodup_cons, List.forall_mem_cons]
      refine ⟨⟨fun hmem => ?_, hnodup⟩, hended, hkept⟩
      exact Bool.false_ne_true ((hover connection hmem).2.symm.trans hopen)

/-- **What the end of a target brings about**, whatever the adapters answer and however often they
say that a target is gone. -/
theorem Run.succession {history : List (Step σ)} {d : Debugger σ} (h : Run history d) :
    Succession history d where
  purpose _ hopen := h.exists_openedFor? hopen
  attached _ _ hopened hattach := h.attempts_of_attached hopened hattach
  shutdown _ hafter := h.exists_signal_of_shutdown hafter
  launching hlaunching := h.shutdown_of_launching hlaunching
  revived move hmove := by
    rw [← connects_eq_revives hmove]
    exact (tallies_next h.isTold.wellFormed move).attempts
  once := h.nodup_revivals.1
  settled hphase := next_terminated (by rw [hphase]; rfl)

/-- A launched program whose adapter says twice that it is gone, then one that is attached to, whose
adapter does the same. -/
def Script.departing : List (Move Script) :=
  [ .operate (.launch launched), .handle (.event 1 .initialized), .operate .run,
    .handle (.event 1 (.terminated none)), .handle (.event 1 (.exited ⟨0⟩)),
    .operate (.launch attached), .handle (.event 3 .initialized),
    .handle (.event 3 (.exited ⟨0⟩)), .handle (.event 3 (.terminated none)) ]

/-- A run it speaks of: one attempt was brought about by an adapter, two were the user's. -/
theorem Run.succession_scripted :
    let run := Move.steps Script.departing [] (Script.rehearse {})
    run.2.attempts = 3 ∧ revivals run.1 = [1] ∧ run.2.shutdownRequested ∧
      run.2.phase = .terminated ∧ Succession run.1 run.2 := by
  intro run
  have hrun : Run run.1 run.2 := (Run.start _ _ _).steps _
  exact ⟨by decide +kernel, by decide +kernel, by decide +kernel, by decide +kernel,
    hrun.succession⟩

end DebugConsole
