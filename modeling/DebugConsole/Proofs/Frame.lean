/-
# What an operation leaves alone

Most operations neither begin nor end a session, nor do they touch a breakpoint.
Preorders on debuggers say so, each stronger than the one before:

| relation | leaves alone | holds for |
| --- | --- | --- |
| `Lasts` | target, session, connection, breakpoints, pushes | whatever arrives |
| `Stays` | the same; only what was sent becomes pending | all but the operations below |
| `Calm` | these, the phase and the console | calls |
| `Quiet` | the same | looking at a program, stepping, pausing |

Only `launch`, `relaunch`, `closeSession`, `configure` and the operations on
breakpoints are not among them.  `Quiet` also says which questions may be asked of
an environment (`Exchange.IsPlain`).
-/

import DebugConsole.Proofs.Account
import DebugConsole.Proofs.Inspection
import DebugConsole.Proofs.Pushes

namespace DebugConsole

open Protocol

variable {σ α β : Type}

/-- A request of a plain command on a connection, or a question about files. -/
def Exchange.IsPlain (connection : Nat) : Exchange → Prop
  | .request asked _ => asked.connection = connection ∧ plainCommands.contains asked.command
  | .abandoned asked _ => asked.connection = connection ∧ plainCommands.contains asked.command
  | .read _ _ => True
  | .resolve _ _ => True
  | .connect _ _ => False
  | .start _ => False

/-- Is this an attempt to connect? -/
def Exchange.isConnect : Exchange → Bool
  | .connect _ _ => true
  | _ => false

/-- Neither a push nor an attempt to connect. -/
def Exchange.IsInner (e : Exchange) : Prop := e.push? = none ∧ e.isConnect = false

namespace Exchange.IsOf

variable {connection : Nat} {call : Call α} {e : Exchange}

/-- A call that does not set breakpoints is no push, whatever becomes of it. -/
theorem isInner (h : IsOf connection call e) (hcommand : call.command ≠ "setBreakpoints") :
    e.IsInner := by
  cases h with
  | request answer => exact ⟨push?_of_command_ne hcommand answer, rfl⟩
  | abandoned reason => exact ⟨push?_of_command_ne hcommand (.error reason), rfl⟩

/-- A call of a plain command is a plain question, whatever becomes of it. -/
theorem isPlain (h : IsOf connection call e) (hcommand : plainCommands.contains call.command) :
    e.IsPlain connection := by
  cases h with
  | request answer => exact ⟨rfl, hcommand⟩
  | abandoned reason => exact ⟨rfl, hcommand⟩

/-- A call is no attempt to connect. -/
theorem isConnect_eq_false (h : IsOf connection call e) : e.isConnect = false := by
  cases h <;> rfl

/-- A call that sends the enabled breakpoints of a path is a push, whatever becomes of it. -/
theorem exists_push? {bs : Breakpoints} {path : String}
    (h : IsOf connection (Call.setBreakpoints (bs.argumentsFor path)) e) :
    ∃ answer, e.push? = some ⟨connection, path, (bs.enabledFor path).map (·.line), answer⟩ := by
  cases h with
  | request answer => exact ⟨_, push?_argumentsFor bs path connection answer⟩
  | abandoned reason => exact ⟨_, push?_argumentsFor bs path connection (.error reason)⟩

end Exchange.IsOf

namespace Debugger

/-- The questions that were asked on the way from one debugger to another. -/
def Asks (allowed : Exchange → Prop) (d d' : Debugger σ) : Prop :=
  ∃ new, d'.exchanges = new ++ d.exchanges ∧ ∀ e ∈ new, allowed e

/-- Nothing was asked. -/
theorem Asks.of_eq {allowed : Exchange → Prop} {d d' : Debugger σ}
    (h : d'.exchanges = d.exchanges) : Asks allowed d d' :=
  ⟨[], h, fun _ he => absurd he List.not_mem_nil⟩

/-- One question was asked. -/
theorem Asks.cons {allowed : Exchange → Prop} {d d' : Debugger σ} {e : Exchange}
    (h : d'.exchanges = e :: d.exchanges) (he : allowed e) : Asks allowed d d' :=
  ⟨[e], h, fun _ hmem => List.mem_singleton.1 hmem ▸ he⟩

/-- Questions were asked, and then more. -/
theorem Asks.trans {allowed : Exchange → Prop} {d₁ d₂ d₃ : Debugger σ}
    (h₁ : Asks allowed d₁ d₂) (h₂ : Asks allowed d₂ d₃) : Asks allowed d₁ d₃ := by
  obtain ⟨new₁, heq₁, hall₁⟩ := h₁
  obtain ⟨new₂, heq₂, hall₂⟩ := h₂
  refine ⟨new₂ ++ new₁, by rw [heq₂, heq₁, List.append_assoc], fun e he => ?_⟩
  rcases List.mem_append.1 he with he | he
  · exact hall₂ e he
  · exact hall₁ e he

/-- What is allowed may be allowed by less strict a rule. -/
theorem Asks.mono {allowed allowed' : Exchange → Prop} {d d' : Debugger σ}
    (h : Asks allowed d d') (hle : ∀ e, allowed e → allowed' e) : Asks allowed' d d' := by
  obtain ⟨new, heq, hall⟩ := h
  exact ⟨new, heq, fun e he => hle e (hall e he)⟩

/-- Where nothing was pushed the pushes are the same. -/
theorem Asks.pushes_eq {d d' : Debugger σ} (h : Asks Exchange.IsInner d d') :
    d'.pushes = d.pushes := by
  obtain ⟨new, heq, hall⟩ := h
  have hnone : new.filterMap Exchange.push? = [] :=
    List.filterMap_eq_nil_iff.2 fun e he => (hall e he).1
  rw [pushes, heq, List.filterMap_append, hnone]
  rfl

/-- The session goes on and nothing is said about breakpoints. -/
structure Lasts (d d' : Debugger σ) : Prop where
  target : d'.target = d.target
  session : d'.session.isSome = d.session.isSome
  generation : d'.generation = d.generation
  live : d'.phase = d.phase ∨ d.phase.isLive ∧ d'.phase.isLive
  capabilities : d'.capabilities = d.capabilities
  breakpoints : d'.breakpoints = d.breakpoints
  suppressed : d'.suppressed = d.suppressed
  shutdownRequested : d'.shutdownRequested = d.shutdownRequested
  inner : Asks Exchange.IsInner d d'

instance : IsPreorder (Debugger σ) Lasts where
  refl _ := ⟨rfl, rfl, rfl, .inl rfl, rfl, rfl, rfl, rfl, .of_eq rfl⟩
  trans _ _ _ h₁ h₂ := {
    target := h₂.target.trans h₁.target
    session := h₂.session.trans h₁.session
    generation := h₂.generation.trans h₁.generation
    live := by
      rcases h₁.live with he₁ | hl₁ <;> rcases h₂.live with he₂ | hl₂
      · exact .inl (he₂.trans he₁)
      · exact .inr ⟨he₁ ▸ hl₂.1, hl₂.2⟩
      · exact .inr ⟨hl₁.1, he₂ ▸ hl₁.2⟩
      · exact .inr ⟨hl₁.1, hl₂.2⟩
    capabilities := h₂.capabilities.trans h₁.capabilities
    breakpoints := h₂.breakpoints.trans h₁.breakpoints
    suppressed := h₂.suppressed.trans h₁.suppressed
    shutdownRequested := h₂.shutdownRequested.trans h₁.shutdownRequested
    inner := h₁.inner.trans h₂.inner }

end Debugger

variable [Environment σ]

namespace Debugger

/-- What is more, only what was sent becomes pending. -/
structure Stays (d d' : Debugger σ) : Prop extends Lasts d d' where
  flow : Flows d d'

/-- What is more, neither the phase nor the console changes. -/
structure Calm (d d' : Debugger σ) : Prop extends Stays d d' where
  phase : d'.phase = d.phase
  console : d'.console = d.console

/-- What is more, only plain questions are asked. -/
structure Quiet (d d' : Debugger σ) : Prop extends Calm d d' where
  plain : Asks (Exchange.IsPlain d.generation) d d'

instance : IsPreorder (Debugger σ) Stays where
  refl _ := ⟨refl_of Lasts _, refl_of Flows _⟩
  trans _ _ _ h₁ h₂ := {
    toLasts := trans_of Lasts h₁.toLasts h₂.toLasts
    flow := trans_of Flows h₁.flow h₂.flow }

instance : IsPreorder (Debugger σ) Calm where
  refl _ := ⟨refl_of Stays _, rfl, rfl⟩
  trans _ _ _ h₁ h₂ := {
    toStays := trans_of Stays h₁.toStays h₂.toStays
    phase := h₂.phase.trans h₁.phase
    console := h₂.console.trans h₁.console }

instance : IsPreorder (Debugger σ) Quiet where
  refl _ := ⟨refl_of Calm _, .of_eq rfl⟩
  trans _ _ _ h₁ h₂ := {
    toCalm := trans_of Calm h₁.toCalm h₂.toCalm
    plain := h₁.plain.trans (h₁.generation ▸ h₂.plain) }

/-- A change of nothing but the environment, the threads, the texts and what has arrived. -/
theorem Quiet.of_flows {d : Debugger σ} {environment : σ} {session : Option Session}
    {threads : Threads} {texts : SourceTexts} (h : session.isSome = d.session.isSome)
    (hflow : Flows d { d with environment, session }) :
    Quiet d { d with environment, session, threads, texts } where
  toCalm := ⟨⟨⟨rfl, h, rfl, .inl rfl, rfl, rfl, rfl, rfl, .of_eq rfl⟩, hflow⟩, rfl, rfl⟩
  plain := .of_eq rfl

/-- A change of nothing but the threads and the texts. -/
theorem Quiet.of_eq {d : Debugger σ} {threads : Threads} {texts : SourceTexts} :
    Quiet d { d with threads, texts } := .of_flows rfl (refl_of Flows d)

/-- A change of the console alone. -/
theorem Stays.of_console (d : Debugger σ) (console : Console) : Stays d { d with console } :=
  ⟨⟨rfl, rfl, rfl, .inl rfl, rfl, rfl, rfl, rfl, .of_eq rfl⟩, .of_eq rfl rfl rfl⟩

end Debugger

/-! ### Asking the environment -/

namespace Action

open Debugger

/-- A call is a request whose answer is read. -/
theorem send_apply (call : Call α) (d : Debugger σ) :
    ∃ environment session answer, session.isSome = d.session.isSome ∧
      Flows d { d with environment, session } ∧ send call d = (call.result answer, { d with
        environment, session
        exchanges := .request ⟨d.generation, call.command, call.arguments⟩ answer ::
          d.exchanges }) :=
  ⟨_, d.session.map _, _, Option.isSome_map, flows_asked (.request _ rfl), rfl⟩

/-- Calls that are made together are requests of which some may be given up. -/
theorem sendAll_apply (calls : List (Call α)) (d : Debugger σ) :
    ∃ environment session asked result, session.isSome = d.session.isSome ∧
      Flows d { d with environment, session } ∧
      Together (Environment.AtHand σ) d.generation calls asked result ∧
      sendAll calls d = (result, { d with
        environment, session
        exchanges := asked.reverse ++ d.exchanges }) := by
  -- between the steps only the environment and the session are others
  let holds (d' : Debugger σ) : Prop := ∃ environment session,
    session.isSome = d.session.isSome ∧ Flows d d' ∧ d' = { d with environment, session }
  have hheard {d' : Debugger σ} (hd' : holds d') {environment : σ} {arrivals : Arrivals}
      (hyields : Environment.Yields d.generation d'.environment environment arrivals) :
      holds { d'.receive arrivals with environment } := by
    obtain ⟨_, session, hsession, hflow, rfl⟩ := hd'
    exact ⟨environment, session.map (·.receive arrivals), Option.isSome_map.trans hsession,
      trans_of Flows hflow (flows_asked hyields), rfl⟩
  have hkeeps : Keeps d.generation calls holds fun _ _ => True := {
    post _ _ _ hd' := ⟨hheard hd' (.post _ rfl), fun _ _ => trivial⟩
    await first others hrequests _ hd' := by
      refine ⟨hheard hd' (.await first others fun asked hasked => ?_), trivial⟩
      obtain ⟨call, -, rfl⟩ := hrequests asked hasked
      rfl }
  obtain ⟨_, asked, result, ⟨environment, session, hsession, hflow, rfl⟩, htogether, -, heq⟩ :=
    sendAll_spec hkeeps ⟨d.environment, d.session, rfl, refl_of Flows d, rfl⟩
  exact ⟨environment, session, asked, result, hsession, hflow, htogether, heq⟩

/-- A call that does not set breakpoints leaves all else alone. -/
theorem calm_send {call : Call α} (h : call.command ≠ "setBreakpoints") :
    Within Calm (send call : Action σ α) := fun d => by
  obtain ⟨environment, session, answer, hsession, hflow, heq⟩ := send_apply call d
  have hinner : (Exchange.request ⟨d.generation, call.command, call.arguments⟩ answer).IsInner :=
    ⟨Exchange.push?_of_command_ne h answer, rfl⟩
  rw [heq]
  exact ⟨⟨⟨rfl, hsession, rfl, .inl rfl, rfl, rfl, rfl, rfl, .cons rfl hinner⟩, hflow⟩, rfl, rfl⟩

/-- A call of a plain command is all that is asked. -/
theorem quiet_send {call : Call α} (h : plainCommands.contains call.command) :
    Within Quiet (send call : Action σ α) := fun d => {
  toCalm := calm_send (fun hcommand => absurd (hcommand ▸ h) (by decide)) d
  plain := by
    obtain ⟨environment, session, answer, hsession, _, heq⟩ := send_apply call d
    rw [heq]
    exact .cons rfl ⟨rfl, h⟩ }

/-- A call of a plain command that is put on record leaves all else alone. -/
theorem quiet_notes {call : Call α} (h : plainCommands.contains call.command) :
    Notes (σ := σ) Quiet call := fun d e _ hof => by
  have hinner : e.IsInner := hof.isInner fun hcommand => absurd (hcommand ▸ h) (by decide)
  exact ⟨⟨⟨⟨rfl, rfl, rfl, .inl rfl, rfl, rfl, rfl, rfl, .cons rfl hinner⟩, .of_eq rfl rfl rfl⟩,
    rfl, rfl⟩, .cons rfl (hof.isPlain h)⟩

/-- Reading a file is a plain question. -/
theorem quiet_readFile (path : String) : Within Quiet (readFile path : Action σ String) :=
  fun _ => {
    toCalm := ⟨⟨⟨rfl, rfl, rfl, .inl rfl, rfl, rfl, rfl, rfl, .cons rfl ⟨rfl, rfl⟩⟩,
      .of_eq rfl rfl rfl⟩, rfl, rfl⟩
    plain := .cons rfl trivial }

/-- So is asking for the canonical form of a path. -/
theorem quiet_canonical (path : String) : Within Quiet (canonical path : Action σ String) :=
  fun _ => {
    toCalm := ⟨⟨⟨rfl, rfl, rfl, .inl rfl, rfl, rfl, rfl, rfl, .cons rfl ⟨rfl, rfl⟩⟩,
      .of_eq rfl rfl rfl⟩, rfl, rfl⟩
    plain := .cons rfl trivial }

end Action

namespace Debugger

/-! ### Looking at a program, reports of the adapter -/

instance : AdmitsViews (Quiet (σ := σ)) where
  session h := h.session
  asks h := .of_flows Option.isSome_map (flows_asked h)
  notes h := Action.quiet_notes (plainCommands_of_query h)
  canonical := Action.quiet_canonical
  view _ := .of_eq

instance : AdmitsLookUps (Quiet (σ := σ)) :=
  admitsLookUps_of_keep (fun _ _ => .of_eq) (fun _ => (Action.quiet_send rfl).inSession)
    Action.quiet_readFile

instance : AdmitsReports (Stays (σ := σ)) where
  session h := h.session
  asks h := (Quiet.of_flows Option.isSome_map (flows_asked h)).toStays
  notes h d e hd hof := (Action.quiet_notes (plainCommands_of_query h) d e hd hof).toStays
  canonical path d := (Action.quiet_canonical path d).toStays
  view _ := Quiet.of_eq.toStays
  threads _ _ := Quiet.of_eq.toStays
  console := .of_console
  live hd hp := ⟨⟨rfl, rfl, rfl, .inr ⟨hd, hp⟩, rfl, rfl, rfl, rfl, .of_eq rfl⟩, .of_eq rfl rfl rfl⟩

instance : AdmitsLookUps (Stays (σ := σ)) :=
  admitsLookUps_of_keep (fun _ _ => Quiet.of_eq.toStays)
    (fun _ d _ => (Action.quiet_send rfl d).toStays) fun path d =>
      (Action.quiet_readFile path d).toStays

end Debugger
end DebugConsole
