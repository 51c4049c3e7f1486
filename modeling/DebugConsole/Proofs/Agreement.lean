/-
# The adapter knows the enabled breakpoints

While a configured program runs or stands at some line, what was pushed last for a
path is what is enabled now.  Breakpoints are added, toggled and deleted in between,
and adapters refuse pushes or answer them with wrong counts, so the statement is
about pushes that were accepted; and about paths that were never pushed.

The invariant has two halves (`Debugger.IsTold`).  Before the program is configured
only this is true: no lines are left with the adapter for a path without enabled
breakpoints (`IsCleared`), since before the start breakpoints are only added.  The
configuration pushes every other path, and from then on each change is pushed.
-/

import DebugConsole.Proofs.Run

namespace DebugConsole

open Protocol

variable {σ : Type}

namespace Debugger

/-- What was pushed last for a path, if it was accepted, is what is enabled; nothing is enabled
where nothing was pushed. -/
def AgreesOn (path : String) (d : Debugger σ) : Prop :=
  (d.lastPush? path = none → d.breakpoints.enabledLines path = []) ∧
    ∀ push, d.lastPush? path = some push → push.accepted?.isSome →
      push.lines = d.breakpoints.enabledLines path

/-- No line is left with the adapter for a path without enabled breakpoints. -/
def IsCleared (path : String) (d : Debugger σ) : Prop :=
  d.breakpoints.enabledLines path = [] →
    ∀ push, d.lastPush? path = some push → push.accepted?.isSome → push.lines = []

/-- Where the adapter knows the enabled lines of a path, it knows none beyond them. -/
theorem AgreesOn.isCleared {path : String} {d : Debugger σ} (h : d.AgreesOn path) :
    d.IsCleared path := fun hempty push hpush haccepted =>
  (h.2 push hpush haccepted).trans hempty

/-- Where no line of a path is enabled, there is nothing more to know. -/
theorem IsCleared.agreesOn {path : String} {d : Debugger σ} (h : d.IsCleared path)
    (hempty : d.breakpoints.enabledLines path = []) : d.AgreesOn path :=
  ⟨fun _ => hempty, fun push hpush haccepted =>
    (h hempty push hpush haccepted).trans hempty.symm⟩

/-- What was pushed last depends on the pushes and the connection alone. -/
theorem lastPush?_congr {d d' : Debugger σ} (hpushes : d'.pushes = d.pushes)
    (hgeneration : d'.generation = d.generation) (path : String) :
    d'.lastPush? path = d.lastPush? path := by
  rw [lastPush?, lastPush?, hpushes, hgeneration]

/-- Agreement depends on pushes, connection and enabled lines alone. -/
theorem AgreesOn.congr {d d' : Debugger σ} {path : String} (h : d.AgreesOn path)
    (hpushes : d'.pushes = d.pushes) (hgeneration : d'.generation = d.generation)
    (hlines : d'.breakpoints.enabledLines path = d.breakpoints.enabledLines path) :
    d'.AgreesOn path := by
  rw [AgreesOn, lastPush?_congr hpushes hgeneration, hlines]
  exact h

/-- So does having been cleared. -/
theorem IsCleared.congr {d d' : Debugger σ} {path : String} (h : d.IsCleared path)
    (hpushes : d'.pushes = d.pushes) (hgeneration : d'.generation = d.generation)
    (hlines : d'.breakpoints.enabledLines path = d.breakpoints.enabledLines path) :
    d'.IsCleared path := by
  rw [IsCleared, lastPush?_congr hpushes hgeneration, hlines]
  exact h

/-! ### What pushes do -/

section Pushing

variable [Environment σ]

/-- After new pushes the last one of a path is among them, or the same as before. -/
theorem Tells.lastPush? {pushed : List Push} {d d' : Debugger σ} (h : Tells pushed d d')
    (path : String) :
    (∃ push ∈ pushed, push.path = path ∧ d'.lastPush? path = some push) ∨
      (∀ push ∈ pushed, push.path ≠ path) ∧ d'.lastPush? path = d.lastPush? path := by
  rw [Debugger.lastPush?, h.pushes, List.find?_append, h.generation]
  cases hfind : pushed.reverse.find? fun push =>
      push.connection = d.generation && push.path = path with
  | some push =>
    have hmem := List.mem_of_find?_eq_some hfind
    have hpath := List.find?_some hfind
    exact .inl ⟨push, List.mem_reverse.1 hmem, by simp_all, rfl⟩
  | none =>
    refine .inr ⟨fun push hmem hpath => ?_, rfl⟩
    have hno := List.find?_eq_none.1 hfind push (List.mem_reverse.2 hmem)
    simp [(h.faithful push hmem).1, hpath] at hno

/-- Telling an adapter of breakpoints does not change which lines are enabled. -/
theorem Tells.enabledLines_eq {pushed : List Push} {d d' : Debugger σ} (h : Tells pushed d d')
    (path : String) : d'.breakpoints.enabledLines path = d.breakpoints.enabledLines path :=
  h.sameIntent.enabledLines_eq path

/-- A path that was pushed agrees. -/
theorem Tells.agreesOn_of_mem {pushed : List Push} {d d' : Debugger σ} (h : Tells pushed d d')
    (hwf : d.breakpoints.WellFormed) {path : String} (hmem : ∃ push ∈ pushed, push.path = path) :
    d'.AgreesOn path := by
  rcases h.lastPush? path with ⟨push, hpush, rfl, hlast⟩ | ⟨hother, _⟩
  · rw [AgreesOn, hlast]
    refine ⟨nofun, fun found hfound _ => ?_⟩
    obtain rfl := Option.some.inj hfound
    rw [(h.faithful push hpush).2, hwf.map_line_enabledFor, h.enabledLines_eq]
  · obtain ⟨push, hpush, hpath⟩ := hmem
    exact absurd hpath (hother push hpush)

/-- Telling an adapter of breakpoints leaves cleared what was. -/
theorem Tells.isCleared {pushed : List Push} {d d' : Debugger σ} (h : Tells pushed d d')
    (hwf : d.breakpoints.WellFormed) {path : String} (hd : d.IsCleared path) :
    d'.IsCleared path := by
  rcases h.lastPush? path with ⟨push, hpush, hpath, _⟩ | ⟨_, hlast⟩
  · exact (h.agreesOn_of_mem hwf ⟨push, hpush, hpath⟩).isCleared
  · rw [IsCleared, hlast, h.enabledLines_eq]
    exact hd

end Pushing

/-! ### The invariant -/

/-- How the last configuration of the open session ended, as far as steps tell: `none` where
there was none yet. -/
structure IsTold (outcome : Option (Except Error Unit)) (d : Debugger σ) : Prop where
  wellFormed : d.breakpoints.WellFormed
  bounded : ∀ push ∈ d.pushes, push.connection ≤ d.generation
  cleared : d.session.isSome → ∀ path, d.IsCleared path
  agrees : d.session.isSome → d.phase.isLive → outcome = some (.ok ()) → ∀ path, d.AgreesOn path

/-- What leaves breakpoints and pushes alone leaves an adapter as well informed as it was. -/
theorem IsTold.lasts {outcome : Option (Except Error Unit)} {d d' : Debugger σ}
    (h : d.IsTold outcome) (hlasts : Lasts d d') : d'.IsTold outcome where
  wellFormed := hlasts.breakpoints ▸ h.wellFormed
  bounded := by
    rw [hlasts.pushes_eq, hlasts.generation]
    exact h.bounded
  cleared hsession path := by
    refine (h.cleared (hlasts.session ▸ hsession) path).congr hlasts.pushes_eq
      hlasts.generation ?_
    rw [hlasts.breakpoints]
  agrees hsession hlive houtcome path := by
    have hlive' : d.phase.isLive := hlasts.live.elim (fun heq => heq ▸ hlive) And.left
    refine (h.agrees (hlasts.session ▸ hsession) hlive' houtcome path).congr hlasts.pushes_eq
      hlasts.generation ?_
    rw [hlasts.breakpoints]

/-- Nothing is claimed of a debugger without a session. -/
theorem IsTold.of_session_none {outcome : Option (Except Error Unit)} {d : Debugger σ}
    (hwf : d.breakpoints.WellFormed) (hbounded : ∀ push ∈ d.pushes, push.connection ≤ d.generation)
    (hsession : d.session = none) : d.IsTold outcome where
  wellFormed := hwf
  bounded := hbounded
  cleared h := by simp [hsession] at h
  agrees h := by simp [hsession] at h

/-- A phase in which the program does not run may be entered at any time. -/
theorem IsTold.of_not_live {outcome outcome' : Option (Except Error Unit)} {d d' : Debugger σ}
    (h : d.IsTold outcome) (hbreakpoints : d'.breakpoints = d.breakpoints)
    (hpushes : d'.pushes = d.pushes) (hgeneration : d'.generation = d.generation)
    (hsession : d'.session.isSome = d.session.isSome) (hphase : d'.phase.isLive = false) :
    d'.IsTold outcome' where
  wellFormed := hbreakpoints ▸ h.wellFormed
  bounded := by
    rw [hpushes, hgeneration]
    exact h.bounded
  cleared hsome path := by
    refine (h.cleared (hsession ▸ hsome) path).congr hpushes hgeneration ?_
    rw [hbreakpoints]
  agrees _ hlive := absurd hlive (by simp [hphase])

/-- So does the end of the program. -/
theorem IsTold.terminate {outcome : Option (Except Error Unit)} {d : Debugger σ}
    (h : d.IsTold outcome) (console : Console) :
    { d with phase := .terminated, console }.IsTold outcome := h.of_not_live rfl rfl rfl rfl rfl

/-- A change of one path together with its push keeps the agreement, also where the change is
undone after a refusal. -/
theorem IsTold.pushed {outcome : Option (Except Error Unit)} {d d' : Debugger σ}
    (h : d.IsTold outcome) {push : Push} (hsession : d'.session.isSome = d.session.isSome)
    (hgeneration : d'.generation = d.generation) (hphase : d'.phase = d.phase)
    (hconnection : push.connection = d.generation) (hpushes : d'.pushes = push :: d.pushes)
    (hwf : d'.breakpoints.WellFormed)
    (hother : ∀ path, path ≠ push.path →
      d'.breakpoints.enabledLines path = d.breakpoints.enabledLines path)
    (hself : push.accepted?.isSome → push.lines = d'.breakpoints.enabledLines push.path) :
    d'.IsTold outcome := by
  -- the new push is the last of its own path and hides none of another path
  have hlast (path : String) : d'.lastPush? path =
      if push.path = path then some push else d.lastPush? path := by
    rw [Debugger.lastPush?, hpushes, List.find?_cons, hgeneration]
    split_ifs with hpath
    · simp [hconnection, hpath]
    · simp [hpath, Debugger.lastPush?]
  have hagrees : d'.AgreesOn push.path := by
    rw [AgreesOn, hlast, if_pos rfl]
    refine ⟨nofun, fun found hfound haccepted => ?_⟩
    obtain rfl := Option.some.inj hfound
    exact hself haccepted
  refine ⟨hwf, fun other hmem => ?_, fun hsome path => ?_, fun hsome hlive houtcome path => ?_⟩
  · rw [hpushes] at hmem
    rw [hgeneration]
    rcases List.mem_cons.1 hmem with rfl | hmem
    · exact hconnection.le
    · exact h.bounded other hmem
  · by_cases hpath : path = push.path
    · exact hpath ▸ hagrees.isCleared
    · rw [IsCleared, hlast, if_neg (Ne.symm hpath), hother path hpath]
      exact h.cleared (hsession ▸ hsome) path
  · by_cases hpath : path = push.path
    · exact hpath ▸ hagrees
    · rw [AgreesOn, hlast, if_neg (Ne.symm hpath), hother path hpath]
      exact h.agrees (hsession ▸ hsome) (hphase ▸ hlive) houtcome path

/-! ### Each move keeps it -/

variable [Environment σ]

/-- Nothing was pushed on a new connection. -/
theorem IsTold.restarts {outcome : Option (Except Error Unit)} {d d' : Debugger σ}
    (hwf : d.breakpoints.WellFormed) (hbounded : ∀ push ∈ d.pushes, push.connection ≤ d.generation)
    (h : Restarts d d') : d'.IsTold outcome := by
  have hwf' : d'.breakpoints.WellFormed := h.breakpoints ▸ hwf
  rcases h.outcome with ⟨hnone, hgeneration, _⟩ | ⟨_, hgeneration, _⟩
  · refine .of_session_none hwf' (fun push hpush => ?_) hnone
    exact hgeneration ▸ hbounded push (h.pushes ▸ hpush)
  · have hold : ∀ push ∈ d'.pushes, push.connection < d'.generation := fun push hpush => by
      have := hbounded push (h.pushes ▸ hpush)
      omega
    refine ⟨hwf', fun push hpush => (hold push hpush).le, fun _ path _ push hpush => ?_, ?_⟩
    · obtain ⟨hmem, hconnection, _⟩ := lastPush?_eq_some hpush
      exact absurd hconnection (hold push hmem).ne
    · rw [h.phase]
      exact fun _ hlive => absurd hlive Bool.false_ne_true

/-- A path may be changed and pushed, if the others stay as they are. -/
theorem IsTold.pushPath {outcome : Option (Except Error Unit)} {d : Debugger σ}
    (h : d.IsTold outcome) {breakpoints : Breakpoints} (hwf : breakpoints.WellFormed)
    {path : String} (hother : ∀ other, other ≠ path →
      breakpoints.enabledLines other = d.breakpoints.enabledLines other) :
    (pushPath path { d with breakpoints }).2.IsTold outcome := by
  obtain ⟨push, rfl, htells, _⟩ := pushPath_spec path { d with breakpoints }
  have hfaithful := htells.faithful push (List.mem_singleton_self push)
  refine h.pushed htells.session htells.generation htells.phase hfaithful.1 htells.pushes
    (htells.sameIntent.wellFormed hwf) (fun other hne => ?_) fun _ => ?_
  · rw [htells.enabledLines_eq]
    exact hother other hne
  · rw [htells.enabledLines_eq, hfaithful.2]
    exact hwf.map_line_enabledFor push.path

/-- Setting a breakpoint keeps an adapter informed. -/
theorem IsTold.setBreakpoint {outcome : Option (Except Error Unit)} {d : Debugger σ}
    (h : d.IsTold outcome) (path : String) (line : UInt32) :
    (setBreakpoint path line d).2.IsTold outcome := by
  have hwf := h.wellFormed.add path line
  rw [setBreakpoint_state]
  dsimp only
  split_ifs with hsession hstarted
  · exact h.pushPath hwf fun other hne => Breakpoints.enabledLines_add_of_ne hne ..
  · refine ⟨hwf, h.bounded, fun hsome other hempty => ?_, fun _ hlive => ?_⟩
    · refine h.cleared hsome other ?_
      by_cases hother : other = path
      · subst hother
        exact absurd hempty (by simp [Breakpoints.enabledLines_add_self])
      · rwa [Breakpoints.enabledLines_add_of_ne hother] at hempty
    · -- a breakpoint is only added without a push before the program is started
      have hphase : d.phase.isLive = false := by
        cases hphase : d.phase <;> simp_all [Phase.isStarted, Phase.isLive]
      exact absurd hlive (by simp [hphase])
  · exact h

/-- Enabling or disabling a breakpoint keeps an adapter informed. -/
theorem IsTold.setEnabled {outcome : Option (Except Error Unit)} {d : Debugger σ}
    (h : d.IsTold outcome) (index : Nat) (enabled : Bool) :
    (setEnabled index enabled d).2.IsTold outcome := by
  rcases setEnabled_cases index enabled d with heq | ⟨b, hfind, henabled, _, _, heq⟩
  · rw [heq]
    exact h
  have hkeys (b : Breakpoint) : (({ b with enabled } : Breakpoint).index,
      ({ b with enabled } : Breakpoint).path) = (b.index, b.path) := rfl
  have hpathOf := h.wellFormed.isPathOf hfind
  have hwf := h.wellFormed.modify index hkeys
  rw [heq]
  cases hpush : Debugger.pushPath b.path { d with
      breakpoints := d.breakpoints.modify index fun b => { b with enabled } } with
  | mk result d' =>
    obtain ⟨push, hpath, htells, hresult⟩ := pushPath_spec b.path { d with
      breakpoints := d.breakpoints.modify index fun b => { b with enabled } }
    rw [hpush] at htells hresult
    cases result with
    | ok _ =>
      have hpushed := h.pushPath hwf fun other hne => hpathOf.enabledLines_modify hne enabled
      rw [hpush] at hpushed
      exact hpushed
    | error e =>
      -- the push was refused, so nothing is claimed of its path
      have hrefused : ¬push.accepted?.isSome := fun haccepted => by cases hresult.2 haccepted
      have hpathOf' : d'.breakpoints.IsPathOf index b.path :=
        hpathOf.of_keys ((htells.sameIntent.map_eq fun i => (i.1, i.2.1)).trans
          (Breakpoints.map_modify hkeys d.breakpoints index))
      have hfaithful := htells.faithful push (List.mem_singleton_self push)
      refine h.pushed htells.session htells.generation htells.phase hfaithful.1 htells.pushes
        ((htells.sameIntent.wellFormed hwf).modify index fun _ => rfl) (fun other hne => ?_)
        fun haccepted => absurd haccepted hrefused
      rw [hpath] at hne
      rw [hpathOf'.enabledLines_modify hne, htells.enabledLines_eq,
        hpathOf.enabledLines_modify hne]

/-- Deleting a breakpoint keeps an adapter informed. -/
theorem IsTold.deleteBreakpoint {outcome : Option (Except Error Unit)} {d : Debugger σ}
    (h : d.IsTold outcome) (index : Nat) : (deleteBreakpoint index d).2.IsTold outcome := by
  rcases deleteBreakpoint_cases index d with heq | ⟨b, breakpoints, hdelete, _, _, heq⟩
  · rw [heq]
    exact h
  · rw [heq]
    exact h.pushPath (h.wellFormed.delete hdelete) fun other hne =>
      h.wellFormed.enabledLines_delete_of_ne hdelete hne

/-- A configuration that succeeds has pushed every path with enabled breakpoints. -/
theorem IsTold.configure {outcome : Option (Except Error Unit)} {d : Debugger σ}
    (h : d.IsTold outcome) (hsession : d.session.isSome) :
    (configure d).2.IsTold (some (configure d).1) := by
  obtain ⟨pushed, d₁, d₂, htells, hcalm, hresult⟩ := configure_spec h.wellFormed hsession
  -- bounds and cleared paths do not depend on how the configuration ends
  have hbounded : ∀ push ∈ d₁.pushes, push.connection ≤ d₁.generation := fun push hmem => by
    rw [htells.generation]
    rw [htells.pushes] at hmem
    rcases List.mem_append.1 hmem with hmem | hmem
    · exact (htells.faithful push (List.mem_reverse.1 hmem)).1.le
    · exact h.bounded push hmem
  have hwf₁ : d₁.breakpoints.WellFormed := htells.sameIntent.wellFormed h.wellFormed
  have hcleared (path : String) : d₁.IsCleared path :=
    htells.isCleared h.wellFormed ((h.cleared hsession path).congr rfl rfl rfl)
  rcases hresult with ⟨e, hrun⟩ | ⟨hrun, hcomplete, _⟩
  · rw [hrun]
    have htold : d₁.IsTold (some (.error e)) := ⟨hwf₁, hbounded, fun _ => hcleared, nofun⟩
    exact htold.lasts hcalm.toLasts
  · rw [hrun]
    have htold : d₁.IsTold (some (.ok ())) := by
      refine ⟨hwf₁, hbounded, fun _ => hcleared, fun _ _ _ path => ?_⟩
      -- a path with enabled breakpoints was pushed by this very batch
      by_cases hempty : d₁.breakpoints.enabledLines path = []
      · exact (hcleared path).agreesOn hempty
      · rw [htells.enabledLines_eq, ← h.wellFormed.map_line_enabledFor] at hempty
        have hne : d.breakpoints.enabledFor path ≠ [] := fun hnil => hempty (by
          show (d.breakpoints.enabledFor path).map _ = []
          rw [hnil]
          rfl)
        have hpath : path ∈ pushed.map (·.path) := by
          rw [hcomplete]
          exact List.mem_map_of_mem (Breakpoints.mem_enabledByPath hne)
        exact htells.agreesOn_of_mem h.wellFormed (List.mem_map.1 hpath)
    exact htold.lasts (trans_of Stays hcalm.toStays (.of_console d₂ _)).toLasts

omit [Environment σ] in
/-- What an adapter says of breakpoints is nothing that it must be told. -/
theorem IsTold.sameIntent {outcome : Option (Except Error Unit)} {d : Debugger σ}
    (h : d.IsTold outcome) {breakpoints : Breakpoints}
    (hsame : d.breakpoints.SameIntent breakpoints) :
    { d with breakpoints }.IsTold outcome where
  wellFormed := hsame.wellFormed h.wellFormed
  bounded := h.bounded
  cleared hsession path :=
    (h.cleared hsession path).congr rfl rfl (hsame.enabledLines_eq path)
  agrees hsession hlive houtcome path :=
    (h.agrees hsession hlive houtcome path).congr rfl rfl (hsame.enabledLines_eq path)

/-- A closed session takes all claims with it. -/
theorem IsTold.closes {outcome outcome' : Option (Except Error Unit)} {d d' : Debugger σ}
    (h : d.IsTold outcome) (hcloses : Closes d d') : d'.IsTold outcome' := by
  refine .of_session_none (hcloses.breakpoints ▸ h.wellFormed) ?_ hcloses.session
  rw [hcloses.inner.pushes_eq, hcloses.generation]
  exact h.bounded

/-- Without a session no adapter has to be told anything, whatever was configured. -/
theorem IsTold.drops {outcome outcome' : Option (Except Error Unit)} {d d' : Debugger σ}
    (h : d.IsTold outcome) (hdrops : Drops d d') : d'.IsTold outcome' := by
  refine .of_session_none (hdrops.breakpoints ▸ h.wellFormed) ?_ hdrops.session
  rw [hdrops.inner.pushes_eq, hdrops.generation]
  exact h.bounded

/-- A new connection starts without a configuration. -/
theorem IsTold.relaunch {outcome outcome' : Option (Except Error Unit)} {d : Debugger σ}
    (h : d.IsTold outcome) (htarget : d.target.isSome) : (relaunch d).2.IsTold outcome' :=
  .restarts h.wellFormed h.bounded (relaunch_spec htarget)

/-- A target that is gone is started again, or stays gone. -/
theorem IsTold.onTargetGone {outcome outcome' : Option (Except Error Unit)} {d : Debugger σ}
    (h : d.IsTold outcome) (hphase : d.phase.isLive = false) :
    (onTargetGone d).2.IsTold outcome' := by
  rcases onTargetGone_cases d with ⟨-, heq⟩ | ⟨-, heq⟩ | ⟨htarget, -, text, heq⟩ <;> rw [heq]
  · exact h.of_not_live rfl rfl rfl rfl hphase
  · exact h.of_not_live rfl rfl rfl rfl hphase
  · exact (h.relaunch htarget).lasts (Stays.of_console _ _).toLasts

/-- The readiness of the adapter begins the configuration of an attached target. -/
theorem IsTold.onInitialized {outcome : Option (Except Error Unit)} {d : Debugger σ}
    (h : d.IsTold outcome) (hsession : d.session.isSome) :
    (onInitialized d).2.IsTold
      (if d.attaches then some (Debugger.configure { d with phase := .configuring }).1
        else outcome) := by
  have hconfiguring : { d with phase := .configuring }.IsTold outcome :=
    h.of_not_live rfl rfl rfl rfl rfl
  rcases Option.eq_none_or_eq_some d.target with htarget | ⟨target, htarget⟩
  · have hattaches : d.attaches = false := by rw [attaches, htarget]; rfl
    rw [onInitialized_of_no_target htarget, hattaches]
    exact h
  have hattaches : d.attaches = !target.mode.isLaunch := by rw [attaches, htarget]; rfl
  rw [onInitialized_of_target htarget, hattaches]
  cases target.mode.isLaunch with
  | true => exact h.of_not_live rfl rfl rfl rfl rfl
  | false =>
    have hconfigured := hconfiguring.configure hsession
    rw [if_neg Bool.false_ne_true]
    simp only [Bool.not_false, if_true]
    rcases hrun : Debugger.configure { d with phase := .configuring } with ⟨e | _, d'⟩ <;>
      rw [hrun] at hconfigured
    · exact (hconfigured.lasts (Stays.of_console d' _).toLasts).closes (closeSession_spec _)
    · exact hconfigured

omit [Environment σ] in
/-- The outcome is forgotten. -/
theorem IsTold.forget {outcome : Option (Except Error Unit)} {d : Debugger σ}
    (h : d.IsTold outcome) : d.IsTold none := ⟨h.wellFormed, h.bounded, h.cleared, nofun⟩

/-- A step that begins no configuration keeps the outcome, or loses it with the connection. -/
theorem IsTold.configured? {history : List (Step σ)} {step : Step σ}
    (hnone : step.configuration? = none) {d : Debugger σ}
    (h : d.IsTold (configured? history)) : d.IsTold (configured? (step :: history)) := by
  rw [DebugConsole.configured?, hnone]
  dsimp only
  split
  · exact h
  · exact h.forget

/-- `run` begins a configuration, or does nothing. -/
theorem IsTold.run {history : List (Step σ)} {d : Debugger σ}
    (h : d.IsTold (DebugConsole.configured? history)) :
    (Debugger.run d).2.IsTold (DebugConsole.configured? (⟨d, .operate .run⟩ :: history)) := by
  by_cases hbegins : d.phase = .configuring ∧ d.launches ∧ d.session.isSome
  · have hconfiguration : Step.configuration? ⟨d, .operate .run⟩ = some (Debugger.run d).1 :=
      if_pos hbegins
    rw [DebugConsole.configured?, hconfiguration, run_apply, if_pos ⟨hbegins.1, hbegins.2.1⟩]
    exact h.configure hbegins.2.2
  · have hconfiguration : Step.configuration? ⟨d, .operate .run⟩ = none := if_neg hbegins
    refine .configured? hconfiguration ?_
    rw [run_apply]
    split_ifs with hready
    · have hnone : d.session = none := by
        by_contra hsome
        exact hbegins ⟨hready.1, hready.2, Option.isSome_iff_ne_none.2 hsome⟩
      rw [configure_of_no_session hnone]
      exact h
    · exact h

/-- A signal keeps the invariant where it has an effect at all. -/
theorem IsTold.handle {history : List (Step σ)} {d : Debugger σ}
    (h : d.IsTold (DebugConsole.configured? history)) {signal : Signal}
    (hreact : d.isOpen signal.generation → (react signal d).2.IsTold
      (DebugConsole.configured? (⟨d, .handle signal⟩ :: history)))
    (hnone : d.isOpen signal.generation = false →
      Step.configuration? ⟨d, .handle signal⟩ = none) :
    (Debugger.handle signal d).2.IsTold
      (DebugConsole.configured? (⟨d, .handle signal⟩ :: history)) := by
  rw [handle_apply]
  split_ifs with hopen
  · exact hreact hopen
  · exact .configured? (hnone (by simpa using hopen)) h

/-- **Every move keeps the invariant**; a configuration gives it a new outcome. -/
theorem IsTold.next {history : List (Step σ)} {d : Debugger σ}
    (h : d.IsTold (DebugConsole.configured? history)) (move : Move σ) :
    (move.next d).IsTold (DebugConsole.configured? (⟨d, move⟩ :: history)) := by
  cases move using Move.casesPlain with
  | plain move hplain =>
    -- no plain move configures, so the last outcome stands
    exact .configured? (Step.configuration?_of_isPlain hplain) (h.lasts (move.lasts_next hplain d))
  | launch target =>
    refine .configured? rfl ?_
    show (Debugger.launch target d).2.IsTold _
    rw [launch_apply]
    exact .restarts (d := { d with target := some target, breakpoints := {} })
      Breakpoints.wellFormed_empty h.bounded (relaunch_spec rfl)
  | relaunch =>
    refine .configured? rfl ?_
    show (Debugger.relaunch d).2.IsTold _
    rcases Option.eq_none_or_eq_some d.target with htarget | ⟨target, htarget⟩
    · rw [relaunch_of_no_target htarget]
      exact h
    · exact h.relaunch (by rw [htarget]; rfl)
  | close => exact .configured? rfl (h.closes (closeSession_spec d))
  | run => exact h.run
  | setBreakpoint path line => exact .configured? rfl (h.setBreakpoint path line)
  | setEnabled index enabled => exact .configured? rfl (h.setEnabled index enabled)
  | deleteBreakpoint index => exact .configured? rfl (h.deleteBreakpoint index)
  | initialized connection =>
    -- readiness configures an attached target and is a mere report otherwise
    have hconfiguration : Step.configuration? ⟨d, .handle (.event connection .initialized)⟩ =
        if d.isOpen connection ∧ d.attaches then
          some (Debugger.configure { d with phase := .configuring }).1
        else none := rfl
    refine h.handle (fun hopen => ?_) fun hclosed => ?_
    · have hsession : d.session.isSome := (Bool.and_eq_true_iff.1 hopen).2
      have htold := h.onInitialized hsession
      have hopen' : d.isOpen connection := hopen
      show (Debugger.onInitialized d).2.IsTold _
      cases hattaches : d.attaches with
      | true =>
        rw [hattaches, if_pos rfl] at htold
        rw [DebugConsole.configured?, hconfiguration, if_pos ⟨hopen', hattaches⟩]
        exact htold
      | false =>
        rw [hattaches, if_neg Bool.false_ne_true] at htold
        exact .configured? (by rw [hconfiguration, hattaches]; simp) htold
    · have hclosed' : d.isOpen connection = false := hclosed
      rw [hconfiguration, hclosed']
      simp
  | exited connection body =>
    refine h.handle (fun _ => .configured? rfl ?_) fun _ => rfl
    exact (h.terminate _).onTargetGone rfl
  | terminated connection body =>
    refine h.handle (fun _ => .configured? rfl ?_) fun _ => rfl
    show (onEvent (.terminated body) d).2.IsTold _
    rw [onEvent_terminated]
    split
    · exact (h.terminate _).onTargetGone rfl
    · exact h
  | breakpoint connection reason descriptor =>
    refine h.handle (fun _ => .configured? rfl ?_) fun _ => rfl
    show (onEvent (.breakpoint reason descriptor) d).2.IsTold _
    rw [onEvent_breakpoint]
    split
    · split
      · refine h.sameIntent (.modifyId (f := fun b => { b with verified := descriptor.verified })
          (fun _ => rfl) ..)
      · exact h
    · exact h
  | closed connection =>
    refine h.handle (fun _ => .configured? rfl ?_) fun _ => rfl
    show (onClosed d).2.IsTold _
    exact h.drops (onClosed_spec d).1
  | started connection result =>
    refine h.handle (fun _ => .configured? rfl ?_) fun _ => rfl
    cases result with
    | ok _ => exact h
    | error e =>
      show (onStarted (.error e) d).2.IsTold _
      exact h.drops (onStarted_error_spec e d).1

end Debugger

open Debugger

variable [Environment σ]

/-- **In every run the adapter is told** what it must know, as far as it was configured. -/
theorem Run.isTold {history : List (Step σ)} {d : Debugger σ} (h : Run history d) :
    d.IsTold (configured? history) := by
  induction h with
  | start environment console suppressed =>
    exact .of_session_none Breakpoints.wellFormed_empty
      (fun _ hmem => absurd hmem List.not_mem_nil) rfl
  | step _ move ih => exact ih.next move

/-- **The adapter knows the enabled breakpoints.**  While a configured program runs or stands,
no breakpoint of a path is enabled that was never pushed on this connection, and if the last push
of a path was accepted, it was of the lines that are enabled now, in the order of numbers. -/
theorem Run.breakpoints_agree {history : List (Step σ)} {d : Debugger σ} (h : Run history d)
    (hlive : d.phase = .running ∨ d.phase = .stopped) (hsession : d.session.isSome)
    (hconfigured : configured? history = some (.ok ())) (path : String) :
    d.breakpoints.list.Pairwise (·.index < ·.index) ∧
      (d.lastPush? path = none → ∀ b ∈ d.breakpoints.list, b.path = path → b.enabled = false) ∧
      ∀ push descriptors, d.lastPush? path = some push → push.answer = .ok descriptors →
        descriptors.length = push.lines.length →
        push.lines =
          (d.breakpoints.list.filter fun b => b.path = path && b.enabled).map (·.line) := by
  have htold := h.isTold
  have hphase : d.phase.isLive := by rcases hlive with hphase | hphase <;> rw [hphase] <;> rfl
  obtain ⟨hnever, hlast⟩ := htold.agrees hsession hphase hconfigured path
  refine ⟨htold.wellFormed.sorted, fun hnone b hb hpath => ?_, ?_⟩
  · have hempty := List.map_eq_nil_iff.1 (hnever hnone)
    have hdisabled := List.filter_eq_nil_iff.1 hempty b hb
    simpa [Breakpoints.isEnabledFor, hpath] using hdisabled
  · intro push descriptors hpush hanswer hlength
    refine hlast push hpush ?_
    rw [Push.accepted?_eq_some.2 ⟨hanswer, hlength⟩]
    rfl

/-- A run it speaks of: of two breakpoints at one file, the first is disabled while the program
runs. -/
theorem Run.breakpoints_agree_scripted :
    let run := Move.steps
      [ .operate (.launch Script.launched), .handle (.event 1 .initialized),
        .operate (.setBreakpoint "a.c" 3), .operate (.setBreakpoint "a.c" 5), .operate .run,
        .operate (.setEnabled 1 false) ] [] (Script.rehearse {})
    (run.2.lastPush? "a.c").map (·.lines) = some [5] ∧
      run.2.breakpoints.list.Pairwise (·.index < ·.index) ∧
      (run.2.lastPush? "a.c" = none →
        ∀ b ∈ run.2.breakpoints.list, b.path = "a.c" → b.enabled = false) ∧
      ∀ push descriptors, run.2.lastPush? "a.c" = some push → push.answer = .ok descriptors →
        descriptors.length = push.lines.length →
        push.lines =
          (run.2.breakpoints.list.filter fun b => b.path = "a.c" && b.enabled).map (·.line) :=
  ⟨by decide +kernel, Run.breakpoints_agree ((Run.start _ _ _).steps _) (.inl (by decide +kernel))
    (by decide +kernel) rfl "a.c"⟩

end DebugConsole
