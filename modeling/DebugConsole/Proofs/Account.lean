/-
# Where signals come from

What arrives on a connection is kept by the session on it until it is handed out
(`Session.pending`).  An account is a record, kept by the environment, of the signals that
each adapter has sent (`IsAccount`).  `Debugger.Flows d d'` says of a way from one debugger
to another that nothing is lost from any account, and that nothing becomes pending for a
connection that was not sent on it.
-/

import DebugConsole.Debugger.Signal
import DebugConsole.Proofs.Action

namespace DebugConsole

variable {σ : Type}

/-- What arrives on a connection, as the signals it is handed out as. -/
def Arrivals.signals (connection : Nat) (arrivals : Arrivals) : List Signal :=
  arrivals.events.map (.event connection) ++
    ((if arrivals.ended then [.closed connection] else []) ++
      arrivals.started.toList.map (.started connection))

/-- What a session has taken in and not handed out. -/
def Session.kept (s : Session) : Arrivals where
  events := s.inbox
  ended := s.ended
  started :=
    match s.start with
    | some (.answered result) => some result
    | _ => none

/-- What a session has still to hand out. -/
def Session.pending (connection : Nat) (s : Session) : List Signal := s.kept.signals connection

/-- What is still to be handed out. -/
def Debugger.pending (d : Debugger σ) : List Signal := d.session.elim [] (·.pending d.generation)

/-- What arrives becomes a signal for each event, for the end of the stream and for the answer to
the start request. -/
theorem Arrivals.mem_signals {connection : Nat} {arrivals : Arrivals} {signal : Signal} :
    signal ∈ arrivals.signals connection ↔
      (∃ event ∈ arrivals.events, .event connection event = signal) ∨
        arrivals.ended ∧ .closed connection = signal ∨
        ∃ result, arrivals.started = some result ∧ .started connection result = signal := by
  rw [signals, List.mem_append, List.mem_append, List.mem_map, List.mem_map]
  refine or_congr_right (or_congr ?_ (by simp))
  split_ifs with hended <;> simp [hended, eq_comm]

/-- Signals of what arrives on a connection are for that connection. -/
theorem Arrivals.generation_of_mem_signals {connection : Nat} {arrivals : Arrivals}
    {signal : Signal} (h : signal ∈ arrivals.signals connection) :
    signal.generation = connection := by
  rcases mem_signals.1 h with ⟨event, _, rfl⟩ | ⟨_, rfl⟩ | ⟨result, _, rfl⟩ <;> rfl

namespace Session

/-- What a session takes in is all that becomes pending. -/
theorem mem_pending_receive {connection : Nat} {s : Session} {arrivals : Arrivals}
    {signal : Signal} (h : signal ∈ (s.receive arrivals).pending connection) :
    signal ∈ s.pending connection ∨ signal ∈ arrivals.signals connection := by
  simp only [pending, Arrivals.mem_signals] at h ⊢
  rcases h with ⟨event, hevent, rfl⟩ | ⟨hended, rfl⟩ | ⟨result, hresult, rfl⟩
  · have hmem : event ∈ s.inbox ∨ event ∈ arrivals.events := by
      simp only [kept, receive] at hevent
      split at hevent
      · exact .inl hevent
      · exact List.mem_append.1 hevent
    exact hmem.imp (fun hmem => .inl ⟨event, hmem, rfl⟩) fun hmem => .inl ⟨event, hmem, rfl⟩
  · have hor : s.ended ∨ arrivals.ended := by simpa [kept, receive] using hended
    exact hor.imp (fun hor => .inr (.inl ⟨hor, rfl⟩)) fun hor => .inr (.inl ⟨hor, rfl⟩)
  · have hor : s.kept.started = some result ∨ arrivals.started = some result := by
      simp only [kept, receive] at hresult ⊢
      rcases hstart : s.start with _ | _ | _ | given <;> cases harrived : arrivals.started <;>
        simp_all
    exact hor.imp (fun hor => .inr (.inr ⟨result, hor, rfl⟩)) fun hor =>
      .inr (.inr ⟨result, hor, rfl⟩)

/-- A start request that is not answered adds nothing. -/
theorem mem_pending_of_start {connection : Nat} {s : Session} {start : Option StartProgress}
    {signal : Signal} (hmem : signal ∈ ({ s with start } : Session).pending connection)
    (hunanswered : ({ s with start } : Session).kept.started = none) :
    signal ∈ s.pending connection := by
  simp only [pending, Arrivals.mem_signals] at hmem ⊢
  refine hmem.imp id (Or.imp id fun ⟨result, hresult, _⟩ => ?_)
  cases hunanswered.symm.trans hresult

/-- What is handed out was pending, and so is what is left. -/
theorem pending_of_next? {connection : Nat} {s s' : Session} {signal : Signal}
    (h : s.next? connection = some (signal, s')) :
    signal ∈ s.pending connection ∧
      ∀ other ∈ s'.pending connection, other ∈ s.pending connection := by
  simp only [pending, Arrivals.mem_signals]
  rw [next?] at h
  split at h
  · rcases hstart : s.start with _ | _ | _ | result <;> rw [hstart] at h <;> cases h
    refine ⟨.inr (.inr ⟨result, by rw [kept, hstart], rfl⟩), fun other hother => ?_⟩
    exact hother.imp id (Or.imp id fun ⟨_, hnone, _⟩ => by cases hnone)
  · rename_i hhands
    rcases hinbox : s.inbox with _ | ⟨event, rest⟩ <;> rw [hinbox] at h hhands <;> cases h
    · have hended : s.ended := (by simpa using hhands : s.endReported = false ∧ s.ended).2
      rw [kept, kept, hinbox]
      exact ⟨.inr (.inl ⟨hended, rfl⟩), fun other hother => hother⟩
    · refine ⟨.inl ⟨event, by simp [kept, hinbox], rfl⟩, fun other hother => ?_⟩
      refine hother.imp (fun ⟨event, hmem, heq⟩ => ⟨event, ?_, heq⟩) id
      rw [kept, hinbox]
      exact List.mem_cons_of_mem _ hmem

/-- What a session hands out is for the connection it is open on. -/
theorem generation_of_next? {connection : Nat} {s s' : Session} {signal : Signal}
    (h : s.next? connection = some (signal, s')) : signal.generation = connection :=
  Arrivals.generation_of_mem_signals (pending_of_next? h).1

end Session

/-- Only the open session has signals pending. -/
theorem Debugger.mem_pending {d : Debugger σ} {signal : Signal} :
    signal ∈ d.pending ↔ ∃ session, d.session = some session ∧
      signal ∈ session.pending d.generation := by
  rw [pending]
  cases d.session <;> simp

/-! ### Accounts -/

section Accounts

variable [Environment σ]

/-- A record of what was sent by the adapters: whatever arrives is in it under the number of its
connection, and nothing is lost from it. -/
structure IsAccount (sent : Signal → σ → Prop) : Prop where
  connect : ∀ {signal environment} executable, sent signal environment →
    sent signal (Environment.connect executable environment).2
  asked : ∀ {signal connection environment environment' arrivals},
    Environment.Yields connection environment environment' arrivals →
      sent signal environment → sent signal environment'
  start : ∀ {signal environment} asked, sent signal environment →
    sent signal (Environment.start asked environment).2
  replied : ∀ {signal connection environment environment' arrivals},
    Environment.Yields connection environment environment' arrivals →
      signal ∈ arrivals.signals connection → sent signal environment'
  begun : ∀ {signal} environment asked,
    signal ∈ (Environment.start asked environment).1.signals asked.connection →
      sent signal (Environment.start asked environment).2

namespace Debugger

/-- Everything pending was sent on the connection it is pending for. -/
def IsAccounted (sent : Signal → σ → Prop) (d : Debugger σ) : Prop :=
  ∀ signal ∈ d.pending, sent signal d.environment

/-- Nothing is lost from an account, and only what was sent becomes pending. -/
def Flows (d d' : Debugger σ) : Prop := ∀ sent, IsAccount sent →
  (∀ signal, sent signal d.environment → sent signal d'.environment) ∧
    (d.IsAccounted sent → d'.IsAccounted sent)

instance : IsPreorder (Debugger σ) Flows where
  refl _ := fun _ _ => ⟨fun _ => id, id⟩
  trans _ _ _ h₁ h₂ := fun sent haccount =>
    ⟨fun signal hsent => (h₂ sent haccount).1 signal ((h₁ sent haccount).1 signal hsent),
      fun hd => (h₂ sent haccount).2 ((h₁ sent haccount).2 hd)⟩

/-- The environment is not asked, and nothing becomes pending. -/
theorem Flows.of_pending {d d' : Debugger σ} (henvironment : d'.environment = d.environment)
    (h : ∀ signal ∈ d'.pending, signal ∈ d.pending) : Flows d d' := fun sent _ => by
  rw [IsAccounted, IsAccounted, henvironment]
  exact ⟨fun _ => id, fun hd signal hmem => hd signal (h signal hmem)⟩

/-- A change of what neither the environment nor the session depends on. -/
theorem Flows.of_eq {d d' : Debugger σ} (henvironment : d'.environment = d.environment)
    (hsession : d'.session = d.session) (hgeneration : d'.generation = d.generation) :
    Flows d d' := by
  refine .of_pending henvironment fun signal hmem => ?_
  rwa [pending, hsession, hgeneration] at hmem

/-- What arrives when the environment is asked, if there is a session to take it in. -/
theorem flows_asked {d : Debugger σ} {environment : σ} {arrivals : Arrivals}
    (h : Environment.Yields d.generation d.environment environment arrivals) :
    Flows d { d.receive arrivals with environment } := fun sent haccount => by
  refine ⟨fun _ => haccount.asked h, fun hd signal hmem => ?_⟩
  obtain ⟨session, hsession, hpending⟩ := mem_pending.1 hmem
  obtain ⟨before, hbefore, rfl⟩ := Option.map_eq_some_iff.1 hsession
  rcases Session.mem_pending_receive hpending with hkept | harrived
  · exact haccount.asked h (hd signal (mem_pending.2 ⟨before, hbefore, hkept⟩))
  · exact haccount.replied h harrived

/-- What arrives with the start request. -/
theorem flows_start (asked : Request) {d : Debugger σ} (h : asked.connection = d.generation)
    {session before : Session} (hsession : d.session = some session)
    (hbefore : ∀ signal ∈ before.pending d.generation, signal ∈ session.pending d.generation) :
    Flows d { d with
      environment := (Environment.start asked d.environment).2
      session := some (before.receive (Environment.start asked d.environment).1) } :=
  fun sent haccount => by
    refine ⟨fun _ => haccount.start asked, fun hd signal hmem => ?_⟩
    obtain ⟨after, hafter, hpending⟩ := mem_pending.1 hmem
    obtain rfl := Option.some.inj hafter
    rcases Session.mem_pending_receive hpending with hkept | harrived
    · exact haccount.start asked
        (hd signal (mem_pending.2 ⟨session, hsession, hbefore signal hkept⟩))
    · exact haccount.begun d.environment asked (h ▸ harrived)

/-- An attempt to connect, whether or not a session begins. -/
theorem flows_connect (executable : Executable) (d : Debugger σ) {session : Option Session}
    {generation : Nat} (h : ∀ signal ∈ { d with session, generation }.pending,
      signal ∈ d.pending) :
    Flows d { d with
      environment := (Environment.connect executable d.environment).2, session, generation } :=
  fun _ haccount => ⟨fun _ => haccount.connect executable,
    fun hd signal hmem => haccount.connect executable (hd signal (h signal hmem))⟩

end Debugger
end Accounts
end DebugConsole
