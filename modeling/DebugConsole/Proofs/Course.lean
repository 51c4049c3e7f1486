/-
# What a move says to an adapter

A connection begins with `initialize`, then the program is launched or attached to, and it ends
with `disconnect`; all other requests are talk.  Of every move it is said once what it adds to the
questions that were asked (`Debugger.Course`):

| course | adds |
| --- | --- |
| `talks` | talk on the open connection, questions about files |
| `starts` | the request that starts the program |
| `parts` | talk, then `disconnect` if a session is open |
| `restarts` | the same, then an attempt to connect, and `initialize` where that succeeds |

That is what the passages of moves (`Debugger.Passage`) come to where only the questions matter.
-/

import DebugConsole.Proofs.Configuration
import DebugConsole.Proofs.Passage

namespace DebugConsole

open Protocol

variable {σ α : Type}

/-- The commands that a connection begins and ends with. -/
def framingCommands : List String := ["initialize", "launch", "attach", "disconnect"]

/-- A request of any other command on the open connection, or a question about files. -/
def Exchange.IsTalk (connection? : Option Nat) : Exchange → Prop
  | .request asked _ =>
    connection? = some asked.connection ∧ framingCommands.contains asked.command = false
  | .abandoned asked _ =>
    connection? = some asked.connection ∧ framingCommands.contains asked.command = false
  | .read _ _ => True
  | .resolve _ _ => True
  | .connect _ _ => False
  | .start _ => False

/-- How the program is to be started, if that was not asked for yet. -/
def Session.unsent? (s : Session) : Option StartMode :=
  match s.start with
  | some (.unsent mode) => some mode
  | _ => none

/-- What arrives does not start the program. -/
theorem Session.unsent?_receive (s : Session) (arrivals : Arrivals) :
    (s.receive arrivals).unsent? = s.unsent? := by
  unfold unsent? receive
  rcases s.start with _ | _ | _ | _ <;> cases arrivals.started <;> rfl

/-- Nothing that is handed out was unsent. -/
theorem Session.unsent?_of_next? {connection : Nat} {s s' : Session} {signal : Signal}
    (h : s.next? connection = some (signal, s')) : s'.unsent? = s.unsent? := by
  unfold next? at h
  split at h
  · rcases hstart : s.start with _ | _ | _ | result <;> rw [hstart] at h <;> cases h
    rw [unsent?, unsent?, hstart]
  · rcases hinbox : s.inbox with _ | ⟨event, rest⟩ <;> rw [hinbox] at h <;> cases h <;> rfl

namespace Debugger

/-- The connection of the open session. -/
def openConnection? (d : Debugger σ) : Option Nat := d.session.map fun _ => d.generation

/-- How the program of the open session is to be started, if that was not asked for yet. -/
def unsent? (d : Debugger σ) : Option StartMode := d.session.bind (·.unsent?)

/-- The session goes on, and only talk was added. -/
structure Converses (d d' : Debugger σ) : Prop where
  target : d'.target = d.target
  session : d'.session.isSome = d.session.isSome
  generation : d'.generation = d.generation
  unsent : d'.unsent? = d.unsent?
  asks : Asks (Exchange.IsTalk d.openConnection?) d d'

/-- An open session is the one on the newest connection. -/
theorem openConnection?_of_session {d : Debugger σ} (h : d.session.isSome) :
    d.openConnection? = some d.generation := by
  obtain ⟨session, hsession⟩ := Option.isSome_iff_exists.1 h
  rw [openConnection?, hsession, Option.map_some]

/-- Talk leaves the connection of the open session as it is. -/
theorem Converses.openConnection?_eq {d d' : Debugger σ} (h : Converses d d') :
    d'.openConnection? = d.openConnection? := by
  have hsession := h.session
  rw [openConnection?, openConnection?, h.generation]
  cases hd : d.session <;> cases hd' : d'.session <;> rw [hd, hd'] at hsession <;>
    first | rfl | cases hsession

instance : IsPreorder (Debugger σ) Converses where
  refl _ := ⟨rfl, rfl, rfl, rfl, .of_eq rfl⟩
  trans _ _ _ h₁ h₂ := {
    target := h₂.target.trans h₁.target
    session := h₂.session.trans h₁.session
    generation := h₂.generation.trans h₁.generation
    unsent := h₂.unsent.trans h₁.unsent
    asks := h₁.asks.trans (h₁.openConnection?_eq ▸ h₂.asks) }

/-- A change of what no connection is about. -/
theorem Converses.of_eq {d d' : Debugger σ} (htarget : d'.target = d.target)
    (hsession : d'.session = d.session) (hgeneration : d'.generation = d.generation)
    (hexchanges : d'.exchanges = d.exchanges) : Converses d d' :=
  ⟨htarget, by rw [hsession], hgeneration, by rw [unsent?, unsent?, hsession], .of_eq hexchanges⟩

/-- What arrives does not start the program of the open session. -/
theorem unsent?_receive (d : Debugger σ) (arrivals : Arrivals) :
    (d.receive arrivals).unsent? = d.unsent? := by
  rw [unsent?, unsent?, receive]
  cases d.session with
  | none => rfl
  | some session => exact session.unsent?_receive arrivals

end Debugger

variable [Environment σ]

open Debugger

/-! ### Talk -/

namespace Action

/-- A call is a request whose answer is read; it starts no program. -/
theorem send_keeps (call : Call α) (d : Debugger σ) : ∃ answer,
    (send call d).1 = call.result answer ∧
      (send call d).2.exchanges = .request (call.on d.generation) answer :: d.exchanges ∧
      (send call d).2.target = d.target ∧ (send call d).2.generation = d.generation ∧
      (send call d).2.session.isSome = d.session.isSome ∧
      (send call d).2.unsent? = d.unsent? :=
  ⟨_, rfl, rfl, rfl, rfl, Option.isSome_map, d.unsent?_receive _⟩

omit [Environment σ] in
/-- A call that neither begins nor ends a connection is talk, whatever becomes of it. -/
theorem converses_notes {call : Call α} (h : framingCommands.contains call.command = false) :
    Notes (Converses (σ := σ)) call := fun d e hd hof => by
  have htalk : e.IsTalk d.openConnection? := by
    cases hof with
    | request answer => exact ⟨openConnection?_of_session hd, h⟩
    | abandoned reason => exact ⟨openConnection?_of_session hd, h⟩
  exact ⟨rfl, rfl, rfl, rfl, .cons rfl htalk⟩

end Action

omit [Environment σ] in
/-- Taking a signal asks nothing. -/
theorem Debugger.converses_takeSignal (d : Debugger σ) : Converses d (takeSignal d).2 := by
  rcases takeSignal_cases d with heq | ⟨session, signal, taken, hsession, hnext, heq⟩ <;> rw [heq]
  · exact refl_of Converses d
  · have hunsent := Session.unsent?_of_next? hnext
    refine ⟨rfl, by rw [hsession]; rfl, rfl, ?_, .of_eq rfl⟩
    rw [unsent?, unsent?, hsession]
    exact hunsent

instance : AdmitsReports (Converses (σ := σ)) where
  session h := h.session
  asks _ := ⟨rfl, Option.isSome_map, rfl, unsent?_receive _ _, .of_eq rfl⟩
  notes h := by
    have hquery : ∀ command ∈ queryCommands, framingCommands.contains command = false := by decide
    exact Action.converses_notes (hquery _ (by simpa using h))
  canonical _ _ := ⟨rfl, rfl, rfl, rfl, .cons rfl trivial⟩
  view _ := .of_eq rfl rfl rfl rfl
  threads _ _ := .of_eq rfl rfl rfl rfl
  console _ _ := .of_eq rfl rfl rfl rfl
  live _ _ := .of_eq rfl rfl rfl rfl

instance : AdmitsLookUps (Converses (σ := σ)) :=
  admitsLookUps_of_keep (fun _ _ => .of_eq rfl rfl rfl rfl)
    (fun _ => Action.Notes.send <|
      Action.converses_notes (show framingCommands.contains "source" = false by decide))
    fun _ _ => ⟨rfl, rfl, rfl, rfl, .cons rfl trivial⟩

instance : AdmitsTalk (Converses (σ := σ)) where
  configuring h := by
    have hconfiguring : ∀ command ∈ configuringCommands,
        framingCommands.contains command = false := by decide
    exact Action.converses_notes (hconfiguring _ (by simpa using h))
  breakpoints _ _ := .of_eq rfl rfl rfl rfl
  phase _ _ := .of_eq rfl rfl rfl rfl
  shutdown _ _ := .of_eq rfl rfl rfl rfl
  take := converses_takeSignal
  hear d arrivals := ⟨rfl, Option.isSome_map, rfl, d.unsent?_receive arrivals, .of_eq rfl⟩
  elsewhere _ _ := .of_eq rfl rfl rfl rfl

namespace Debugger

/-! ### Starting the program, parting, connecting -/

/-- The request that starts the program was added. -/
structure Starts (d d' : Debugger σ) (mode : StartMode) : Prop where
  target : d'.target = d.target
  session : d.session.isSome ∧ d'.session.isSome
  generation : d'.generation = d.generation
  unsent : d.unsent? = some mode ∧ d'.unsent? = none
  asks : d'.exchanges = .start (mode.call.on d.generation) :: d.exchanges

/-- The session is closed, and `disconnect` was added if there was one. -/
structure Parts (d d' : Debugger σ) : Prop where
  target : d'.target = d.target
  session : d'.session = none
  generation : d'.generation = d.generation
  asks : d.session = none ∧ d'.exchanges = d.exchanges ∨
    d.session.isSome ∧ ∃ answer, d'.exchanges = .request d.partingRequest answer :: d.exchanges

/-- An attempt to connect was refused, or `initialize` was added; the program is to be started only
where that was answered. -/
structure Connects (d d' : Debugger σ) : Prop where
  target : d'.target = d.target
  known : d'.target.isSome
  asks : (∃ executable e, d'.session = none ∧ d'.generation = d.generation ∧
      d'.exchanges = .connect executable (.error e) :: d.exchanges) ∨
    ∃ executable args answer, d'.session.isSome ∧ d'.generation = d.generation + 1 ∧
      d'.exchanges = .request ((Call.introduce args).on (d.generation + 1)) answer ::
        .connect executable (.ok ()) :: d.exchanges ∧
      (d'.unsent?.isSome → ((Call.introduce args).result answer).isOk)

/-- Sending the start request starts the program, unless there is nothing to start. -/
theorem starts_sendStart (d : Debugger σ) : Converses d (Reaction.sendStart d).2 ∨
    ∃ mode, Starts d (Reaction.sendStart d).2 mode := by
  rcases sendStart_cases d with heq | ⟨session, mode, hsession, hstart, heq⟩ <;> rw [heq]
  · exact .inl (refl_of Converses d)
  · have hunsent : d.unsent? = some mode := by
      rw [unsent?, hsession, Option.bind_some, Session.unsent?, hstart]
    refine .inr ⟨mode, rfl, ⟨by rw [hsession]; rfl, rfl⟩, rfl, ⟨hunsent, ?_⟩, rfl⟩
    exact Session.unsent?_receive { session with start := some .awaiting } _

/-- Closing a session parts from its adapter, if there is one. -/
theorem parts_closeSession (d : Debugger σ) : Parts d (closeSession d).2 := by
  have hcloses := closeSession_spec d
  refine ⟨hcloses.target, hcloses.session, hcloses.generation, ?_⟩
  rcases Option.eq_none_or_eq_some d.session with hnone | ⟨session, hsession⟩
  · refine .inl ⟨hnone, ?_⟩
    rw [closeSession_apply, if_pos (by rw [hnone]; rfl)]
  · have hopen : d.session.isSome := by rw [hsession]; rfl
    exact .inr ⟨hopen, closeSession_asks hopen⟩

/-- A relaunch closes the session and connects. -/
theorem connects_relaunch {d : Debugger σ} (h : d.target.isSome) :
    ∃ d₁, Parts d d₁ ∧ Connects d₁ (relaunch d).2 := by
  obtain ⟨target, htarget⟩ := Option.isSome_iff_exists.1 h
  obtain ⟨hkept, hclosed, hgeneration, hasks⟩ :=
    parts_closeSession { d with phase := .initializing }
  refine ⟨_, ⟨hkept, hclosed, hgeneration, hasks⟩, ?_⟩
  rw [relaunch_of_target htarget, openSession_apply]
  have hknown : (closeSession { d with phase := .initializing }).2.target.isSome := by
    rw [hkept]
    exact h
  generalize (closeSession { d with phase := .initializing }).2 = d₁ at hclosed hknown
  obtain ⟨environment, -, ⟨e, hconnect⟩ | hconnect⟩ := connect_cases target.executable
    { d₁ with console := d₁.console.closeInput, threads := {} } <;> rw [hconnect]
  -- the adapter cannot be reached; else it is introduced to, and only then a start is prepared
  · exact ⟨rfl, hknown, .inl ⟨target.executable, e, hclosed, rfl, rfl⟩⟩
  · obtain ⟨answer, hresult, hexchanges, htarget', hgeneration', hsession, hunsent⟩ :=
      Action.send_keeps (Call.introduce (InitializeArguments.ofAdapter target.adapterId)) { d₁ with
        console := d₁.console.closeInput, threads := {}, environment, session := some {}
        generation := d₁.generation + 1
        exchanges := .connect target.executable (.ok ()) :: d₁.exchanges }
    dsimp only
    rcases hsend : Action.send (Call.introduce (InitializeArguments.ofAdapter target.adapterId))
      { d₁ with
        console := d₁.console.closeInput, threads := {}, environment, session := some {}
        generation := d₁.generation + 1
        exchanges := .connect target.executable (.ok ()) :: d₁.exchanges } with ⟨e | _, d₂⟩ <;>
      rw [hsend] at hresult hexchanges htarget' hgeneration' hsession hunsent
    · refine ⟨htarget', htarget' ▸ hknown,
        .inr ⟨_, _, answer, hsession, hgeneration', hexchanges, fun hsome => ?_⟩⟩
      rw [hunsent] at hsome
      cases hsome
    · refine ⟨htarget', htarget' ▸ hknown, .inr ⟨_, _, answer, Option.isSome_map.trans hsession,
        hgeneration', hexchanges, fun _ => ?_⟩⟩
      rw [← hresult]
      rfl

/-- What a move does to the questions that were asked. -/
inductive Course (d d' : Debugger σ) : Prop
  | talks (talk : Converses d d')
  | starts {mode : StartMode} (start : Starts d d' mode)
  | parts {d₁ d₂ : Debugger σ} (before : Converses d d₁) (parting : Parts d₁ d₂)
      (after : Converses d₂ d')
  | restarts {d₁ d₂ d₃ : Debugger σ} (before : Converses d d₁) (parting : Parts d₁ d₂)
      (connecting : Connects d₂ d₃) (after : Converses d₃ d')

/-- A passage takes one of the courses, by what was asked on it. -/
theorem Passage.course {d d' : Debugger σ} (h : Passage Converses d d') : Course d d' := by
  cases h with
  | stays talk => exact .talks talk
  | starts heq =>
    rw [heq]
    rcases starts_sendStart d with htalks | ⟨mode, hstarts⟩
    · exact .talks htalks
    · exact .starts hstarts
  | closes before after => exact .parts before (parts_closeSession _) after
  | relaunches before known after =>
    obtain ⟨d₂, hparts, hconnects⟩ := connects_relaunch known
    exact .restarts before hparts hconnects after

/-- **Every move takes one of the courses.** -/
theorem course_next (move : Move σ) (d : Debugger σ) :
    Course (move.prepared d) (move.next d) := (passage_next move d).course

end Debugger
end DebugConsole
