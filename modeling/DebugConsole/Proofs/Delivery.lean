/-
# Signals are handed out in order

An environment may keep a record of what arrives on each connection (`IsLog`); any environment can
be given one (`Recorder`).  With it, what has arrived on a connection in a run (`arrivedOn`) can be
held against what the run has handed out of it (`deliveredOn`), whatever comes between:

| work | to the session on the connection |
| --- | --- |
| requests, the start request | takes in what arrives with the answers |
| the session is closed | takes in and hands out nothing more |
| another session is opened | begins with an empty inbox |
| all else | nothing |

So every move carries on with what was taken in and handed out before (`Debugger.Carries`), and a
session stays in step with its adapter until it is closed (`Run.hands_out`).
-/

import DebugConsole.Proofs.Configuration
import DebugConsole.Proofs.Isolation
import DebugConsole.Proofs.Passage
import DebugConsole.Proofs.Stream

namespace DebugConsole

open Protocol

variable {σ : Type}

/-- A record of what has arrived on each connection, oldest first. -/
structure IsLog [Environment σ] (log : Nat → σ → List Arrivals) : Prop where
  connect : ∀ connection executable environment,
    log connection (Environment.connect executable environment).2 = log connection environment
  asked : ∀ connection {other environment environment' arrivals},
    Environment.Yields other environment environment' arrivals →
      log connection environment' = log connection environment ++
        if other = connection then [arrivals] else []
  start : ∀ connection asked environment,
    log connection (Environment.start asked environment).2 = log connection environment ++
      if asked.connection = connection then [(Environment.start asked environment).1] else []

/-! ### A recording environment -/

/-- An environment that records what arrives. -/
structure Recorder (σ : Type) where
  environment : σ
  /-- The connection and what has arrived on it, oldest first. -/
  entries : List (Nat × Arrivals) := []

namespace Recorder

instance [Environment σ] : Environment (Recorder σ) where
  connect executable recorder :=
    let (outcome, environment) := Environment.connect executable recorder.environment
    (outcome, { recorder with environment })
  request asked recorder :=
    let (reply, environment) := Environment.request asked recorder.environment
    (reply, { environment, entries := recorder.entries ++ [(asked.connection, reply.arrivals)] })
  post asked recorder :=
    let ((answer, arrivals), environment) := Environment.post asked recorder.environment
    ((answer, arrivals),
      { environment, entries := recorder.entries ++ [(asked.connection, arrivals)] })
  await first others recorder :=
    let ((place, reply), environment) := Environment.await first others recorder.environment
    ((place, reply),
      { environment, entries := recorder.entries ++ [(first.connection, reply.arrivals)] })
  start asked recorder :=
    let (arrivals, environment) := Environment.start asked recorder.environment
    (arrivals, { environment, entries := recorder.entries ++ [(asked.connection, arrivals)] })
  readFile path recorder := Environment.readFile path recorder.environment
  canonical? path recorder := Environment.canonical? path recorder.environment

/-- What was recorded for a connection. -/
def log (connection : Nat) (recorder : Recorder σ) : List Arrivals :=
  (recorder.entries.filter (·.1 = connection)).map (·.2)

/-- An entry more is read off for its own connection alone. -/
theorem log_concat (connection : Nat) (environment : σ) (entries : List (Nat × Arrivals))
    (entry : Nat × Arrivals) :
    log connection { environment, entries := entries ++ [entry] } =
      (entries.filter (·.1 = connection)).map (·.2) ++
        if entry.1 = connection then [entry.2] else [] := by
  rw [log, List.filter_append, List.map_append]
  by_cases heq : entry.1 = connection <;> simp [heq]

/-- What a recorder keeps is a record. -/
theorem isLog [Environment σ] : IsLog (log : Nat → Recorder σ → List Arrivals) where
  connect _ _ _ := rfl
  asked connection _ recorder _ _ hyields := by
    -- whatever is asked, one entry is added
    cases hyields with
    | request asked h => exact h ▸ log_concat connection _ recorder.entries (asked.connection, _)
    | post asked h => exact h ▸ log_concat connection _ recorder.entries (asked.connection, _)
    | await first others h =>
      exact h first List.mem_cons_self ▸
        log_concat connection _ recorder.entries (first.connection, _)
  start _ _ _ := log_concat ..

end Recorder

namespace Debugger

/-! ### One connection -/

/-- This has arrived on a connection and was handed out of it, and the session is in step with
that. -/
structure IsTracked (connection : Nat) (arrived : List Arrivals) (delivered : List Signal)
    (d : Debugger σ) : Prop where
  delivery : IsDelivery arrived delivered
  unopened : d.generation < connection → arrived = [] ∧ delivered = []
  opened : d.generation = connection → ∀ session, d.session = some session →
    session.IsInStep arrived delivered

section Tracked

variable {connection : Nat} {arrived : List Arrivals} {delivered : List Signal} {d d' : Debugger σ}

/-- Keeping track depends on the session and its connection alone. -/
theorem IsTracked.of_eq (h : d.IsTracked connection arrived delivered)
    (hsession : d'.session = d.session) (hgeneration : d'.generation = d.generation) :
    d'.IsTracked connection arrived delivered :=
  ⟨h.delivery, hgeneration ▸ h.unopened, hsession ▸ hgeneration ▸ h.opened⟩

/-- The open session takes in what arrives. -/
theorem IsTracked.receive (h : d.IsTracked connection arrived delivered) (arrivals : Arrivals) :
    (d.receive arrivals).IsTracked connection
      (arrived ++ if d.generation = connection then [arrivals] else []) delivered where
  delivery := h.delivery.append _
  unopened hlt := by
    obtain ⟨rfl, hnone⟩ := h.unopened hlt
    have hne : d.generation ≠ connection := Nat.ne_of_lt hlt
    exact ⟨if_neg hne, hnone⟩
  opened heq session hsession := by
    obtain ⟨before, hbefore, rfl⟩ := Option.map_eq_some_iff.1 hsession
    have hopen : d.generation = connection := heq
    rw [if_pos hopen]
    exact (h.opened hopen before hbefore).receive arrivals

/-- A session that is closed hands out nothing more. -/
theorem IsTracked.close (h : d.IsTracked connection arrived delivered) :
    { d with session := none }.IsTracked connection arrived delivered :=
  ⟨h.delivery, h.unopened, fun _ _ hsession => nomatch hsession⟩

/-- A session that is opened has taken in nothing yet. -/
theorem IsTracked.open (h : d.IsTracked connection arrived delivered) :
    { d with session := some {}, generation := d.generation + 1 }.IsTracked connection arrived
      delivered where
  delivery := h.delivery
  unopened hlt := h.unopened (Nat.lt_of_succ_lt hlt)
  opened heq session hsession := by
    obtain ⟨rfl, rfl⟩ := h.unopened (show d.generation < connection from heq ▸ Nat.lt_succ_self _)
    obtain rfl := Option.some.inj hsession
    exact Session.isInStep_new

/-- What arrives on a connection that was closed comes too late. -/
theorem IsTracked.of_lt (h : d.IsTracked connection arrived delivered)
    (hlt : connection < d.generation) (later : List Arrivals) :
    d.IsTracked connection (arrived ++ later) delivered :=
  ⟨h.delivery.append later, fun hgt => absurd hgt (Nat.lt_asymm hlt),
    fun heq => absurd heq (Nat.ne_of_gt hlt)⟩

/-- What is taken was taken in before. -/
theorem IsTracked.take (h : d.IsTracked connection arrived delivered) :
    (takeSignal d).2.IsTracked connection arrived
      (delivered ++ ((takeSignal d).1.filter (·.generation = connection)).toList) := by
  rcases takeSignal_cases d with heq | ⟨session, signal, left, hsession, hnext, heq⟩ <;> rw [heq]
  · rw [Option.filter_none, Option.toList_none, List.append_nil]
    exact h
  have hown := Session.generation_of_next? hnext
  by_cases hopen : d.generation = connection
  · have hstep := (h.opened hopen session hsession).next hnext
    rw [Option.filter_some, if_pos (decide_eq_true (hown.trans hopen)), Option.toList_some]
    refine ⟨hstep.toIsDelivery, fun hlt => absurd hopen (Nat.ne_of_lt hlt),
      fun _ other hother => ?_⟩
    obtain rfl := Option.some.inj hother
    exact hstep
  · have hother : ¬signal.generation = connection := fun hsame => hopen (hown.symm.trans hsame)
    rw [Option.filter_some, if_neg (by simpa using hother), Option.toList_none, List.append_nil]
    exact ⟨h.delivery, h.unopened, fun hsame => absurd hsame hopen⟩

/-- What is handed out next comes from the session on its connection, which is in step. -/
theorem IsTracked.next?_of_takeSignal (h : d.IsTracked connection arrived delivered)
    {signal : Signal} (htaken : (takeSignal d).1 = some signal)
    (hown : signal.generation = connection) : ∃ session left, d.session = some session ∧
      session.IsInStep arrived delivered ∧ session.next? d.generation = some (signal, left) := by
  rcases takeSignal_cases d with heq | ⟨session, taken, left, hsession, hnext, heq⟩ <;>
    rw [heq] at htaken
  · cases htaken
  obtain rfl := Option.some.inj htaken
  have hopen : d.generation = connection := (Session.generation_of_next? hnext).symm.trans hown
  exact ⟨session, left, hsession, h.opened hopen session hsession, hnext⟩

/-- When no signal is handed out, the session has none. -/
theorem next?_eq_none_of_takeSignal {session : Session} (hsession : d.session = some session)
    (hnone : (takeSignal d).1 = none) : session.next? d.generation = none := by
  unfold takeSignal at hnone
  rw [hsession, Option.bind_some] at hnone
  cases hnext : session.next? d.generation with
  | none => rfl
  | some next =>
    rw [hnext] at hnone
    cases hnone

end Tracked

variable [Environment σ]

/-- Whatever has arrived on a connection and was handed out of it, the session stays in step, and
the record is of what it has taken in. -/
def Carries (connection : Nat) (d d' : Debugger σ) : Prop := ∀ log, IsLog log →
  ∃ new, log connection d'.environment = log connection d.environment ++ new ∧
    ∀ arrived delivered, d.IsTracked connection arrived delivered →
      d'.IsTracked connection (arrived ++ new) delivered

/-- The record stays as it is. -/
theorem Carries.of_log {connection : Nat} {d d' : Debugger σ}
    (hlog : ∀ log, IsLog log → log connection d'.environment = log connection d.environment)
    (htracked : ∀ arrived delivered, d.IsTracked connection arrived delivered →
      d'.IsTracked connection arrived delivered) : Carries connection d d' := fun log h => by
  refine ⟨[], by rw [hlog log h, List.append_nil], fun arrived delivered hd => ?_⟩
  rw [List.append_nil]
  exact htracked arrived delivered hd

/-- A change of what neither the environment nor the session depends on. -/
theorem Carries.of_eq {connection : Nat} {d d' : Debugger σ}
    (henvironment : d'.environment = d.environment) (hsession : d'.session = d.session)
    (hgeneration : d'.generation = d.generation) : Carries connection d d' :=
  .of_log (fun _ _ => by rw [henvironment]) fun _ _ hd => hd.of_eq hsession hgeneration

instance (connection : Nat) : IsPreorder (Debugger σ) (Carries connection) where
  refl _ := .of_eq rfl rfl rfl
  trans _ _ _ h₁ h₂ := fun log hlog => by
    obtain ⟨new₁, hnew₁, htracked₁⟩ := h₁ log hlog
    obtain ⟨new₂, hnew₂, htracked₂⟩ := h₂ log hlog
    refine ⟨new₁ ++ new₂, by rw [hnew₂, hnew₁, List.append_assoc], fun arrived delivered hd => ?_⟩
    rw [← List.append_assoc]
    exact htracked₂ _ _ (htracked₁ _ _ hd)

/-! ### Requests -/

/-- What arrives on the newest connection is taken in and recorded. -/
theorem carries_asked {d : Debugger σ} {environment : σ} {arrivals : Arrivals}
    (h : Environment.Yields d.generation d.environment environment arrivals) (connection : Nat) :
    Carries connection d { d.receive arrivals with environment } := fun _ hlog =>
  ⟨_, hlog.asked connection h, fun _ _ hd => (hd.receive arrivals).of_eq rfl rfl⟩

/-- What arrives with an answer is taken in and recorded. -/
theorem carries_send {α : Type} (call : Call α) (connection : Nat) (d : Debugger σ) :
    Carries connection d (Action.send call d).2 := by
  have hasked := carries_asked (d := d) (.request (call.on d.generation) rfl) connection
  refine trans_of (Carries connection) hasked ?_
  exact .of_eq rfl rfl rfl

/-- The session goes on, and every connection is carried on with. -/
structure Hears (d d' : Debugger σ) : Prop where
  session : d'.session.isSome = d.session.isSome
  carries : ∀ connection, Carries connection d d'

/-- The same, with a session that goes on. -/
theorem Hears.of_eq {d d' : Debugger σ} (henvironment : d'.environment = d.environment)
    (hsession : d'.session = d.session) (hgeneration : d'.generation = d.generation) :
    Hears d d' := ⟨by rw [hsession], fun _ => .of_eq henvironment hsession hgeneration⟩

instance : IsPreorder (Debugger σ) Hears where
  refl _ := .of_eq rfl rfl rfl
  trans _ _ _ h₁ h₂ := ⟨h₂.session.trans h₁.session, fun connection =>
    trans_of (Carries connection) (h₁.carries connection) (h₂.carries connection)⟩

instance : AdmitsReports (Hears (σ := σ)) where
  session h := h.session
  asks h := ⟨Option.isSome_map, carries_asked h⟩
  notes _ _ _ _ _ := .of_eq rfl rfl rfl
  canonical _ _ := .of_eq rfl rfl rfl
  view _ := .of_eq rfl rfl rfl
  threads _ _ := .of_eq rfl rfl rfl
  console _ _ := .of_eq rfl rfl rfl
  live _ _ := .of_eq rfl rfl rfl

instance : AdmitsLookUps (Hears (σ := σ)) :=
  admitsLookUps_of_keep (fun _ _ => .of_eq rfl rfl rfl)
    (fun _ => Action.Notes.send fun _ _ _ _ => .of_eq rfl rfl rfl) fun _ _ => .of_eq rfl rfl rfl

instance : AdmitsWork (Hears (σ := σ)) where
  configuring _ _ _ _ _ := .of_eq rfl rfl rfl
  breakpoints _ _ := .of_eq rfl rfl rfl
  phase _ _ := .of_eq rfl rfl rfl
  shutdown _ _ := .of_eq rfl rfl rfl

/-! ### Sessions -/

variable (connection : Nat)

/-- The start request is made once. -/
theorem carries_sendStart (d : Debugger σ) :
    Carries connection d (Reaction.sendStart d).2 := by
  rcases sendStart_cases d with heq | ⟨session, mode, hsession, hstart, heq⟩ <;> rw [heq]
  · exact refl_of (Carries connection) d
  intro log hlog
  refine ⟨_, hlog.start connection (mode.call.on d.generation) d.environment,
    fun arrived delivered hd => ?_⟩
  have hawaiting : { d with session := some { session with start := some .awaiting } }.IsTracked
      connection arrived delivered := by
    refine ⟨hd.delivery, hd.unopened, fun heq other hother => ?_⟩
    obtain rfl := Option.some.inj hother
    have hstep := hd.opened heq session hsession
    exact hstep.restart (hstep.start (by rw [hstart]; rfl)) nofun
  exact (hawaiting.receive _).of_eq rfl rfl

/-- A session that is closed has taken in what came while it was parted from. -/
theorem carries_closeSession (d : Debugger σ) : Carries connection d (closeSession d).2 := by
  rw [closeSession_apply]
  split_ifs
  · exact refl_of (Carries connection) d
  have hclosed : Carries connection d { d with session := none } :=
    .of_log (fun _ _ => rfl) fun _ _ hd => hd.close
  have hparted := carries_send
    (Call.disconnect { restart := false, terminateDebuggee := some d.launches }) connection
    { d with session := none }
  refine trans_of (Carries connection) (trans_of (Carries connection) hclosed hparted) ?_
  exact .of_eq rfl rfl rfl

/-- A connection that is made starts a session in step with it. -/
theorem carries_connect (executable : Executable) :
    Action.Within (Carries connection) (Action.connect executable : Action σ Unit) := fun d => by
  have hlog (log : Nat → σ → List Arrivals) (h : IsLog log) :=
    h.connect connection executable d.environment
  rcases hconnect : Environment.connect executable d.environment with ⟨e | _, environment⟩ <;>
    rw [hconnect] at hlog <;> rw [Action.connect, hconnect]
  · exact .of_log hlog fun _ _ hd => hd.of_eq rfl rfl
  · exact .of_log hlog fun _ _ hd => hd.open.of_eq rfl rfl

/-- Opening a session carries on with every connection. -/
theorem carries_openSession (target : Target) :
    Action.Within (Carries connection) (openSession target : Action σ Unit) :=
  Action.within_bind (Action.within_react fun _ => .of_eq rfl rfl rfl) fun _ =>
    Action.within_bind (Action.within_react fun _ => .of_eq rfl rfl rfl) fun _ =>
      Action.within_bind (carries_connect connection target.executable) fun _ =>
        Action.within_bind (carries_send _ connection) fun _ =>
          Action.within_modify fun _ => .of_eq rfl rfl rfl

/-- When the program of a session is to be started that a relaunch opens, the session has handed out
nothing. -/
theorem carries_relaunch (d : Debugger σ) : Carries connection d (relaunch d).2 := by
  rcases Option.eq_none_or_eq_some d.target with htarget | ⟨target, htarget⟩
  · rw [relaunch_of_no_target htarget]
    exact refl_of (Carries connection) d
  have hphase : Carries connection d { d with phase := .initializing } := .of_eq rfl rfl rfl
  have hcloses := closeSession_spec { d with phase := .initializing }
  have hclosed := trans_of (Carries connection) hphase
    (carries_closeSession connection { d with phase := .initializing })
  have hopens := openSession_spec target (closeSession { d with phase := .initializing }).2
  have hopened := trans_of (Carries connection) hclosed (carries_openSession connection target _)
  rw [relaunch_of_target htarget]
  rcases hrun : openSession target (closeSession { d with phase := .initializing }).2 with
    ⟨e | _, d₁⟩ <;> rw [hrun] at hopens hopened
  · exact hopened
  have hnext : d₁.generation = d.generation + 1 := by
    rcases hopens.outcome with ⟨hsame, -, -⟩ | ⟨-, hgeneration, -⟩
    · have hsome := session_of_openSession hrun
      rw [hsame, hcloses.session] at hsome
      cases hsome
    · exact hgeneration.trans (congrArg (· + 1) hcloses.generation)
  intro log hlog
  obtain ⟨new, hnew, htracked⟩ := hopened log hlog
  refine ⟨new, hnew, fun arrived delivered hd => ?_⟩
  have hd₁ := htracked arrived delivered hd
  refine ⟨hd₁.delivery, hd₁.unopened, fun heq session hsession => ?_⟩
  obtain ⟨before, hbefore, rfl⟩ := Option.map_eq_some_iff.1 hsession
  have hlt : d.generation < connection := by
    have hgeneration : d₁.generation = connection := heq
    omega
  obtain ⟨-, rfl⟩ := hd.unopened hlt
  exact (hd₁.opened heq before hbefore).restart rfl nofun

/-- Whatever comes on the way, every connection is carried on with. -/
theorem Passage.carries {d d' : Debugger σ} (h : Passage Hears d d') : Carries connection d d' := by
  cases h with
  | stays h => exact h.carries connection
  | starts heq => exact heq ▸ carries_sendStart connection d
  | closes before after =>
    exact trans_of (Carries connection) (trans_of (Carries connection) (before.carries connection)
      (carries_closeSession connection _)) (after.carries connection)
  | relaunches before known after =>
    exact trans_of (Carries connection) (trans_of (Carries connection) (before.carries connection)
      (carries_relaunch connection _)) (after.carries connection)

/-- **All work carries on** with every connection. -/
theorem carries_work {move : Move σ} (hwork : move.isWork) (d : Debugger σ) :
    Carries connection d (move.next d) := by
  have hprepared : Carries connection d (move.prepared d) := by
    unfold Move.prepared
    split
    · exact .of_eq rfl rfl rfl
    · exact refl_of (Carries connection) d
  exact trans_of (Carries connection) hprepared ((passage_work hwork d).carries connection)

end Debugger

open Debugger

/-! ### Runs -/

section Histories

variable [Environment σ]

/-- The signal that is handed out in a step. -/
def Step.taken? (step : Step σ) : Option Signal :=
  match step.move with
  | .take => (takeSignal step.before).1
  | _ => none

/-- What was handed out of a connection, oldest first. -/
def deliveredOn (connection : Nat) : List (Step σ) → List Signal
  | [] => []
  | step :: history =>
    deliveredOn connection history ++
      (step.taken?.filter (·.generation = connection)).toList

/-- What arrives on a connection in a step; nothing does before it is opened. -/
def Step.arrived (log : Nat → σ → List Arrivals) (connection : Nat) (step : Step σ) :
    List Arrivals :=
  match step.move with
  | .hear other arrivals =>
    if other = connection ∧ connection ≤ step.before.generation then [arrivals] else []
  | _ =>
    (log connection step.after.environment).drop (log connection step.before.environment).length

/-- What has arrived on a connection, oldest first. -/
def arrivedOn (log : Nat → σ → List Arrivals) (connection : Nat) : List (Step σ) → List Arrivals
  | [] => []
  | step :: history => arrivedOn log connection history ++ step.arrived log connection

/-- What happens elsewhere leaves the record as it is. -/
def Step.KeepsLog (log : Nat → σ → List Arrivals) (step : Step σ) : Prop :=
  match step.move with
  | .elsewhere change =>
    ∀ connection, log connection (change step.before.environment) =
      log connection step.before.environment
  | _ => True

/-- What the record has gained is what has arrived. -/
theorem Step.arrived_of_log {log : Nat → σ → List Arrivals} {connection : Nat} {step : Step σ}
    (hhear : ∀ other arrivals, step.move ≠ .hear other arrivals) {new : List Arrivals}
    (hlog : log connection step.after.environment =
      log connection step.before.environment ++ new) : step.arrived log connection = new := by
  unfold Step.arrived
  split
  · exact absurd ‹_› (hhear _ _)
  · rw [hlog, List.drop_left]

omit [Environment σ] in
/-- Only the connection of the open session has anything handed out. -/
theorem deliveredOn_step {connection : Nat} {history : List (Step σ)} {d : Debugger σ}
    {move : Move σ} (h : d.isOpen connection = false ∨ move ≠ .take) :
    deliveredOn connection (⟨d, move⟩ :: history) = deliveredOn connection history := by
  have hnone : (Step.taken? ⟨d, move⟩).filter (·.generation = connection) = none := by
    rw [Option.filter_eq_none_iff]
    intro signal hsignal hgeneration
    obtain rfl := of_decide_eq_true hgeneration
    cases move with
    | take =>
      have hopen := (isOpen_of_takeSignal (Prod.ext hsignal rfl)).1
      exact h.elim (fun hclosed => Bool.false_ne_true (hclosed.symm.trans hopen)) fun hne => hne rfl
    | _ => cases hsignal
  rw [deliveredOn, hnone]
  exact List.append_nil _

/-- What is heard is taken in, unless the connection is closed or not yet opened. -/
theorem Debugger.IsTracked.hear {connection : Nat} {arrived : List Arrivals}
    {delivered : List Signal} {d : Debugger σ} (h : d.IsTracked connection arrived delivered)
    (other : Nat) (arrivals : Arrivals) :
    ((Move.hear other arrivals).next d).IsTracked connection
      (arrived ++ if other = connection ∧ connection ≤ d.generation then [arrivals] else [])
      delivered := by
  rw [Move.next]
  by_cases hopen : d.generation = other
  · subst hopen
    have hcond : (d.generation = connection ∧ connection ≤ d.generation) ↔
        d.generation = connection := and_iff_left_of_imp fun heq => heq.ge
    rw [if_pos rfl, if_congr hcond rfl rfl]
    exact h.receive arrivals
  rw [if_neg hopen]
  split_ifs with hpast
  · obtain ⟨rfl, hle⟩ := hpast
    exact h.of_lt (Nat.lt_of_le_of_ne hle (Ne.symm hopen)) [arrivals]
  · rw [List.append_nil]
    exact h

/-- **Every run keeps track** of what arrives on a connection and what is handed out of it. -/
theorem Run.isTracked {history : List (Step σ)} {d : Debugger σ} (h : Run history d)
    {log : Nat → σ → List Arrivals} (hlog : IsLog log)
    (hkeeps : ∀ step ∈ history, step.KeepsLog log) (connection : Nat) :
    d.IsTracked connection (arrivedOn log connection history)
      (deliveredOn connection history) := by
  induction h with
  | start environment console suppressed =>
    exact ⟨isDelivery_nil, fun _ => ⟨rfl, rfl⟩, fun _ _ hsession => nomatch hsession⟩
  | @step history d hrun move ih =>
    have hd := ih fun step hmem => hkeeps step (List.mem_cons_of_mem _ hmem)
    have hmove := hkeeps ⟨d, move⟩ List.mem_cons_self
    rw [arrivedOn]
    cases hwork : move.isWork with
    | true =>
      obtain ⟨new, hnew, htracked⟩ := carries_work connection hwork d log hlog
      rw [Step.arrived_of_log (by rintro _ _ rfl; cases hwork) hnew,
        deliveredOn_step (.inr (by rintro rfl; cases hwork))]
      exact htracked _ _ hd
    | false =>
      rcases move with _ | _ | _ | _ | _ | ⟨other, arrivals⟩ | change <;> cases hwork
      · have hkept : log connection (takeSignal d).2.environment =
            log connection d.environment ++ [] := by
          rcases takeSignal_cases d with heq | ⟨_, _, _, _, _, heq⟩ <;> rw [heq, List.append_nil]
        rw [Step.arrived_of_log (by rintro _ _ ⟨⟩) hkept, List.append_nil]
        exact hd.take
      · rw [deliveredOn_step (.inr (by rintro ⟨⟩))]
        exact hd.hear other arrivals
      · have hkept := (hmove connection).trans (List.append_nil _).symm
        rw [Step.arrived_of_log (by rintro _ _ ⟨⟩) hkept, deliveredOn_step (.inr (by rintro ⟨⟩)),
          List.append_nil]
        exact hd.of_eq rfl rfl

/-- Nothing is handed out of a connection once its session is closed. -/
theorem Run.deliveredOn_of_isOver {history : List (Step σ)} {d : Debugger σ} (h : Run history d)
    {connection : Nat} (hover : d.IsOver connection) (moves : List (Move σ)) :
    deliveredOn connection (Move.steps moves history d).1 = deliveredOn connection history := by
  induction moves generalizing history d with
  | nil => rfl
  | cons move rest ih =>
    exact (ih (.step h move) (hover.next h.isTold.wellFormed move)).trans
      (deliveredOn_step (.inl hover.2))

/-- What a session hands out, in the order of its arrival, until it is closed. -/
structure HandsOut (log : Nat → σ → List Arrivals) (history : List (Step σ)) (d : Debugger σ)
    (connection : Nat) : Prop where
  /-- All that was handed out had arrived, in this order. -/
  delivery : IsDelivery (arrivedOn log connection history) (deliveredOn connection history)
  /-- No event is lost: those that were not handed out are queued. -/
  queued : d.generation = connection → ∀ session, d.session = some session →
    Arrivals.stream (arrivedOn log connection history) =
      Signal.events (deliveredOn connection history) ++ session.inbox
  /-- Where nothing is handed out next, all events were, and the end of the stream if there is
  one. -/
  idle : d.isOpen connection → (takeSignal d).1 = none →
    Signal.events (deliveredOn connection history) =
        Arrivals.stream (arrivedOn log connection history) ∧
      (Arrivals.isOver (arrivedOn log connection history) →
        (deliveredOn connection history).countP (·.isClosed) = 1)
  /-- The end of the stream comes once, after all events. -/
  closes : (takeSignal d).1 = some (.closed connection) →
    (deliveredOn connection history).countP (·.isClosed) = 0 ∧
      Arrivals.isOver (arrivedOn log connection history) ∧
      Signal.events (deliveredOn connection history) =
        Arrivals.stream (arrivedOn log connection history)
  /-- The answer to the start request comes once, when no event is queued and the end of the stream
  was handed out, if there is one. -/
  starts : ∀ result, (takeSignal d).1 = some (.started connection result) →
    d.session.all (·.inbox.isEmpty) ∧
      Signal.events (deliveredOn connection history) =
        Arrivals.stream (arrivedOn log connection history) ∧
      (Arrivals.isOver (arrivedOn log connection history) →
        (deliveredOn connection history).countP (·.isClosed) = 1) ∧
      (deliveredOn connection history).countP (·.isStarted) = 0 ∧
      ∃ arrivals ∈ arrivedOn log connection history, arrivals.started = some result
  /-- A closed session hands out nothing more, whatever comes, and what is handed in of it has no
  effect. -/
  closed : d.IsOver connection → ∀ moves : List (Move σ),
    deliveredOn connection (Move.steps moves history d).1 = deliveredOn connection history ∧
      ∀ signal : Signal, signal.generation = connection →
        (Move.handle signal).next (d.leadTo moves) = d.leadTo moves

/-- **Signals are handed out in order.**  In every run, and on every connection. -/
theorem Run.hands_out {history : List (Step σ)} {d : Debugger σ} (h : Run history d)
    {log : Nat → σ → List Arrivals} (hlog : IsLog log)
    (hkeeps : ∀ step ∈ history, step.KeepsLog log) (connection : Nat) :
    HandsOut log history d connection := by
  have hd := h.isTracked hlog hkeeps connection
  exact {
    delivery := hd.delivery
    queued := fun hopen session hsession => (hd.opened hopen session hsession).inbox
    idle := fun hopen hnone => by
      obtain ⟨heq, hsome⟩ := Bool.and_eq_true_iff.1 hopen
      obtain ⟨session, hsession⟩ := Option.isSome_iff_exists.1 hsome
      have hstep := hd.opened (of_decide_eq_true heq) session hsession
      have hnext := next?_eq_none_of_takeSignal hsession hnone
      exact (hstep.of_left (Session.left_of_next?_none hnext)).2
    closes := fun htaken => by
      obtain ⟨session, left, -, hstep, hnext⟩ := hd.next?_of_takeSignal htaken rfl
      exact hstep.of_next?_closed hnext
    starts := fun result htaken => by
      obtain ⟨session, left, hsession, hstep, hnext⟩ := hd.next?_of_takeSignal htaken rfl
      obtain ⟨hinbox, hrest⟩ := hstep.of_next?_started hnext
      exact ⟨by rw [hsession, Option.all_some, hinbox]; rfl, hrest⟩
    closed := fun hover moves => by
      refine ⟨h.deliveredOn_of_isOver hover moves, fun signal hown => ?_⟩
      have hconcerns : (Move.handle (σ := σ) signal).concerns connection := decide_eq_true hown
      exact next_of_concerns hconcerns (h.leadTo_filter hover moves).2.2 }

/-- A run it speaks of: the adapter has answered the start request before it sends an event and
goes, and the answer is what is handed out next when the event and the end of the stream were. -/
theorem Run.hands_out_scripted :
    let run := Move.steps
      [ .operate (.launch Script.launched), .sendStart,
        .hear 1 { events := [.initialized], ended := true }, .take, .take ] []
      ({ environment := { environment := {} } } : Debugger (Recorder Script))
    HandsOut Recorder.log run.1 run.2 1 ∧
      (takeSignal run.2).1 = some (.started 1 (.ok ())) ∧
      deliveredOn 1 run.1 = [.event 1 .initialized, .closed 1] ∧
      Signal.events (deliveredOn 1 run.1) = Arrivals.stream (arrivedOn Recorder.log 1 run.1) := by
  intro run
  have h : HandsOut Recorder.log run.1 run.2 1 := by
    refine Run.hands_out ((Run.start _ _ _).steps _) Recorder.isLog (fun step hmem => ?_) 1
    have hmove : step.move ∈ run.1.map (·.move) := List.mem_map_of_mem hmem
    have hmoves : run.1.map (·.move) =
        [ .take, .take, .hear 1 { events := [.initialized], ended := true }, .sendStart,
          .operate (.launch Script.launched) ] := rfl
    rw [hmoves] at hmove
    simp only [List.mem_cons, List.not_mem_nil, or_false] at hmove
    unfold Step.KeepsLog
    rcases hmove with hmove | hmove | hmove | hmove | hmove <;> rw [hmove] <;> trivial
  have hstarts : (takeSignal run.2).1 = some (.started 1 (.ok ())) := rfl
  exact ⟨h, hstarts, rfl, (h.starts _ hstarts).2.1⟩

end Histories
end DebugConsole
