/-
# Every connection keeps to an order

Questions are `InOrder`, last first, if each of them may come after those before it: which
connection is the newest and how far the talk on it is (`Stage`) says what may come next.

| stage | next |
| --- | --- |
| `apart` | an attempt to connect |
| `connected` | `initialize` |
| `introduced` | talk, `disconnect`, and, where `initialize` was answered, the start request |
| `started` | talk, `disconnect` |

Every move keeps to this order (`Follows.course`).  What was said on one connection is then a
`Conversation` of its own, and the next connection is tried only after its end.
-/

import DebugConsole.Proofs.Course
import DebugConsole.Proofs.Isolation

namespace DebugConsole

open Protocol

variable {σ : Type}

namespace Exchange

/-- The request that was sent, answered or not. -/
def asked? : Exchange → Option Request
  | .request asked _ => some asked
  | .abandoned asked _ => some asked
  | .start asked => some asked
  | _ => none

/-- Is this a request on a connection? -/
def isOn (connection : Nat) (e : Exchange) : Bool := e.asked?.any (·.connection = connection)

/-- Is this a request of a command? -/
def isCommand (command : String) (e : Exchange) : Bool := e.asked?.any (·.command = command)

/-- Is this a request to launch a program or to attach to one? -/
def isStart (e : Exchange) : Bool := e.isCommand "launch" || e.isCommand "attach"

/-- A call is on the connection it was made on, and on no other. -/
theorem isOn_request {α : Type} (call : Call α) (connection other : Nat)
    (answer : Except Error Json) :
    (Exchange.request (call.on connection) answer).isOn other = decide (connection = other) := rfl

theorem isOn_start {α : Type} (call : Call α) (connection other : Nat) :
    (Exchange.start (call.on connection)).isOn other = decide (connection = other) := rfl

/-- Talk is on the connection on which something may be said. -/
theorem IsTalk.connection_eq {connection? : Option Nat} {e : Exchange} (h : e.IsTalk connection?)
    {connection : Nat} (he : e.isOn connection) : connection? = some connection := by
  cases e with
  | request asked _ | abandoned asked _ => exact h.1.trans (congrArg some (of_decide_eq_true he))
  | start asked => cases h
  | _ => cases he

/-- Talk is none of the requests that a connection begins and ends with. -/
theorem IsTalk.isCommand_eq_false {connection? : Option Nat} {e : Exchange}
    (h : e.IsTalk connection?) {command : String} (hcommand : framingCommands.contains command) :
    e.isCommand command = false := by
  cases e with
  | request asked _ | abandoned asked _ =>
    rw [isCommand, asked?, Option.any_some, decide_eq_false_iff_not]
    rintro rfl
    exact Bool.false_ne_true (h.2.symm.trans hcommand)
  | start asked => cases h
  | _ => rfl

/-- Talk starts no program. -/
theorem IsTalk.isStart_eq_false {connection? : Option Nat} {e : Exchange}
    (h : e.IsTalk connection?) : e.isStart = false := by
  rw [isStart, h.isCommand_eq_false rfl, h.isCommand_eq_false rfl, Bool.or_false]

end Exchange

/-! ### What may come next -/

/-- How far the talk on the newest connection is. -/
inductive Stage where
  | apart
  | connected
  | introduced (accepted : Bool)
  | started
deriving DecidableEq

namespace Stage

/-- May anything be said? -/
def isOpen : Stage → Bool
  | .apart => false
  | .connected => false
  | .introduced _ => true
  | .started => true

/-- The connection on which something may be said. -/
def speaking? (connection : Nat) (stage : Stage) : Option Nat :=
  if stage.isOpen then some connection else none

/-- Something may be said on the newest connection alone. -/
theorem speaking?_eq_some {connection other : Nat} {stage : Stage} :
    stage.speaking? connection = some other ↔ stage.isOpen ∧ connection = other := by
  unfold speaking?
  split_ifs with hopen <;> simp [hopen]

end Stage

/-- Questions in order, last first; how many connections were opened, and how far the talk on the
last of them is. -/
inductive InOrder : List Exchange → Nat → Stage → Prop
  | nothing : InOrder [] 0 .apart
  | refused {exchanges : List Exchange} {connection : Nat}
      (earlier : InOrder exchanges connection .apart) (executable : Executable) (e : Error) :
      InOrder (.connect executable (.error e) :: exchanges) connection .apart
  | connected {exchanges : List Exchange} {connection : Nat}
      (earlier : InOrder exchanges connection .apart) (executable : Executable) :
      InOrder (.connect executable (.ok ()) :: exchanges) (connection + 1) .connected
  | introduced {exchanges : List Exchange} {connection : Nat}
      (earlier : InOrder exchanges connection .connected) (args : InitializeArguments)
      (answer : Except Error Json) :
      InOrder (.request ((Call.introduce args).on connection) answer :: exchanges) connection
        (.introduced ((Call.introduce args).result answer).isOk)
  | started {exchanges : List Exchange} {connection : Nat}
      (earlier : InOrder exchanges connection (.introduced true)) (mode : StartMode) :
      InOrder (.start (mode.call.on connection) :: exchanges) connection .started
  | said {exchanges : List Exchange} {connection : Nat} {stage : Stage}
      (earlier : InOrder exchanges connection stage) {e : Exchange}
      (talk : e.IsTalk (stage.speaking? connection)) : InOrder (e :: exchanges) connection stage
  | parted {exchanges : List Exchange} {connection : Nat} {stage : Stage}
      (earlier : InOrder exchanges connection stage) (speaks : stage.isOpen)
      (args : DisconnectArguments) (answer : Except Error Json) :
      InOrder (.request ((Call.disconnect args).on connection) answer :: exchanges) connection
        .apart

/-- What was said on one connection, last first, and how far it is; `args` and `answer` are those
of its introduction. -/
inductive Conversation (connection : Nat) (args : InitializeArguments)
    (answer : Except Error Json) : List Exchange → Stage → Prop
  | introduced : Conversation connection args answer
      [.request ((Call.introduce args).on connection) answer]
      (.introduced ((Call.introduce args).result answer).isOk)
  | started {exchanges : List Exchange}
      (earlier : Conversation connection args answer exchanges (.introduced true))
      (mode : StartMode) :
      Conversation connection args answer (.start (mode.call.on connection) :: exchanges) .started
  | said {exchanges : List Exchange} {stage : Stage}
      (earlier : Conversation connection args answer exchanges stage) (speaks : stage.isOpen)
      {e : Exchange} (talk : e.IsTalk (some connection)) :
      Conversation connection args answer (e :: exchanges) stage
  | parted {exchanges : List Exchange} {stage : Stage}
      (earlier : Conversation connection args answer exchanges stage) (speaks : stage.isOpen)
      (goodbye : DisconnectArguments) (reply : Except Error Json) :
      Conversation connection args answer
        (.request ((Call.disconnect goodbye).on connection) reply :: exchanges) .apart

namespace Conversation

variable {connection : Nat} {args : InitializeArguments} {answer : Except Error Json}
  {exchanges : List Exchange} {stage : Stage}

/-- A conversation begins with `initialize`, so it is past that. -/
theorem ne_connected (h : Conversation connection args answer exchanges stage) :
    stage ≠ .connected := by
  cases h with
  | said earlier speaks talk =>
    rintro rfl
    cases speaks
  | _ => nofun

/-- The introduction comes first, and only once. -/
theorem exists_introduction (h : Conversation connection args answer exchanges stage) :
    ∃ rest, exchanges = rest ++ [.request ((Call.introduce args).on connection) answer] ∧
      ∀ e ∈ rest, e.isCommand "initialize" = false := by
  induction h with
  | introduced => exact ⟨[], rfl, nofun⟩
  | started earlier mode ih =>
    obtain ⟨rest, rfl, hrest⟩ := ih
    exact ⟨_ :: rest, rfl, List.forall_mem_cons.2 ⟨by cases mode <;> rfl, hrest⟩⟩
  | said earlier speaks talk ih =>
    obtain ⟨rest, rfl, hrest⟩ := ih
    exact ⟨_ :: rest, rfl, List.forall_mem_cons.2 ⟨talk.isCommand_eq_false rfl, hrest⟩⟩
  | parted earlier speaks goodbye reply ih =>
    obtain ⟨rest, rfl, hrest⟩ := ih
    exact ⟨_ :: rest, rfl, List.forall_mem_cons.2 ⟨rfl, hrest⟩⟩

/-- A program is started only after the introduction was answered. -/
theorem isOk_of_started (h : Conversation connection args answer exchanges stage) :
    (∀ accepted, stage = .introduced accepted →
      exchanges.countP (·.isStart) = 0 ∧
        ((Call.introduce args).result answer).isOk = accepted) ∧
    exchanges.countP (·.isStart) ≤ 1 ∧
    (0 < exchanges.countP (·.isStart) → ((Call.introduce args).result answer).isOk) := by
  induction h with
  | introduced =>
    have hnone : [Exchange.request ((Call.introduce args).on connection) answer].countP
        (·.isStart) = 0 := rfl
    refine ⟨fun accepted heq => ⟨hnone, Stage.introduced.inj heq⟩, by omega, fun hpos => ?_⟩
    omega
  | @started exchanges earlier mode ih =>
    obtain ⟨hnone, haccepted⟩ := ih.1 true rfl
    have hone : (Exchange.start (mode.call.on connection) :: exchanges).countP (·.isStart) = 1 := by
      rw [List.countP_cons_of_pos (by cases mode <;> rfl), hnone]
    exact ⟨nofun, hone.le, fun _ => haccepted⟩
  | said earlier speaks talk ih =>
    rw [List.countP_cons_of_neg (by rw [talk.isStart_eq_false]; exact Bool.false_ne_true)]
    exact ih
  | parted earlier speaks goodbye reply ih =>
    rw [List.countP_cons_of_neg Bool.false_ne_true]
    exact ⟨nofun, ih.2⟩

/-- As long as something may be said, nobody has parted. -/
theorem disconnect_of_isOpen (h : Conversation connection args answer exchanges stage) :
    (stage.isOpen → ∀ e ∈ exchanges, e.isCommand "disconnect" = false) := by
  induction h with
  | introduced => exact fun _ e he => List.mem_singleton.1 he ▸ rfl
  | started earlier mode ih =>
    exact fun _ => List.forall_mem_cons.2 ⟨by cases mode <;> rfl, ih rfl⟩
  | said earlier speaks talk ih =>
    exact fun _ => List.forall_mem_cons.2 ⟨talk.isCommand_eq_false rfl, ih speaks⟩
  | parted earlier speaks goodbye reply ih => nofun

/-- Parting comes last. -/
theorem eq_nil_of_disconnect (h : Conversation connection args answer exchanges stage)
    {later earlier : List Exchange} {e : Exchange} (heq : exchanges = later ++ e :: earlier)
    (he : e.isCommand "disconnect") : later = [] := by
  cases hopen : stage.isOpen with
  | true =>
    have hnone := h.disconnect_of_isOpen hopen e (by simp [heq])
    rw [he] at hnone
    cases hnone
  | false =>
    cases h with
    | parted before speaks goodbye reply =>
      -- what was said before the parting is no parting
      cases later with
      | nil => rfl
      | cons first rest =>
        obtain ⟨-, rfl⟩ := List.cons.inj heq
        have hnone := before.disconnect_of_isOpen speaks e (by simp)
        rw [he] at hnone
        cases hnone
    | introduced => cases hopen
    | started before mode => cases hopen
    | said before speaks talk => exact absurd speaks (Bool.eq_false_iff.1 hopen)

end Conversation

namespace InOrder

variable {exchanges : List Exchange} {connection : Nat} {stage : Stage}

/-- Connections are counted. -/
theorem countP_eq (h : InOrder exchanges connection stage) :
    exchanges.countP (·.isConnection) = connection := by
  induction h with
  | nothing => rfl
  | refused earlier executable e ih => exact (List.countP_cons_of_neg Bool.false_ne_true).trans ih
  | connected earlier executable ih =>
    exact (List.countP_cons_of_pos rfl).trans (congrArg (· + 1) ih)
  | introduced earlier args answer ih =>
    exact (List.countP_cons_of_neg Bool.false_ne_true).trans ih
  | started earlier mode ih => exact (List.countP_cons_of_neg Bool.false_ne_true).trans ih
  | @said exchanges connection stage earlier e talk ih =>
    refine (List.countP_cons_of_neg ?_).trans ih
    cases e with
    | connect executable outcome => cases talk
    | _ => exact Bool.false_ne_true
  | parted earlier speaks args answer ih =>
    exact (List.countP_cons_of_neg Bool.false_ne_true).trans ih

/-- A connection that was talked on has a positive number. -/
theorem pos_of_ne_apart (h : InOrder exchanges connection stage) (hstage : stage ≠ .apart) :
    0 < connection := by
  induction h with
  | nothing => exact absurd rfl hstage
  | refused earlier executable e ih => exact absurd rfl hstage
  | connected earlier executable ih => exact Nat.succ_pos _
  | introduced earlier args answer ih => exact ih nofun
  | started earlier mode ih => exact ih nofun
  | said earlier talk ih => exact ih hstage
  | parted earlier speaks args answer ih => exact absurd rfl hstage

/-- Only connections that were opened are spoken on. -/
theorem bounds_of_isOn (h : InOrder exchanges connection stage) {e : Exchange}
    (he : e ∈ exchanges) {other : Nat} (hon : e.isOn other) : 0 < other ∧ other ≤ connection := by
  have hnumbered {α : Type} {connection : Nat} (hpos : 0 < connection) (call : Call α)
      (hon : decide (connection = other)) : 0 < other ∧ other ≤ connection := by
    obtain rfl := of_decide_eq_true hon
    exact ⟨hpos, le_rfl⟩
  induction h with
  | nothing => cases he
  | refused earlier executable error ih =>
    rcases List.mem_cons.1 he with rfl | he
    · cases hon
    · exact ih he
  | connected earlier executable ih =>
    rcases List.mem_cons.1 he with rfl | he
    · cases hon
    · exact (ih he).imp_right Nat.le_succ_of_le
  | introduced earlier args answer ih =>
    rcases List.mem_cons.1 he with rfl | he
    · exact hnumbered (earlier.pos_of_ne_apart nofun) (Call.introduce args) hon
    · exact ih he
  | started earlier mode ih =>
    rcases List.mem_cons.1 he with rfl | he
    · exact hnumbered (earlier.pos_of_ne_apart nofun) mode.call hon
    · exact ih he
  | @said exchanges connection stage earlier e talk ih =>
    rcases List.mem_cons.1 he with rfl | he
    · obtain ⟨hopen, rfl⟩ := Stage.speaking?_eq_some.1 (talk.connection_eq hon)
      exact ⟨earlier.pos_of_ne_apart (by rintro rfl; cases hopen), le_rfl⟩
    · exact ih he
  | parted earlier speaks args answer ih =>
    rcases List.mem_cons.1 he with rfl | he
    · exact hnumbered (earlier.pos_of_ne_apart (by rintro rfl; cases speaks))
        (Call.disconnect args) hon
    · exact ih he

/-- Nothing was asked on a connection that is not yet open. -/
theorem filter_isOn_eq_nil (h : InOrder exchanges connection stage) {other : Nat}
    (hother : connection < other) : exchanges.filter (·.isOn other) = [] :=
  List.filter_eq_nil_iff.2 fun _ he hon => absurd (h.bounds_of_isOn he hon).2 hother.not_ge

/-- **What was said on one of the connections** is a conversation; the newest one may not have begun
yet, and all others are over. -/
theorem conversation (h : InOrder exchanges connection stage) {other : Nat} (hpos : 0 < other)
    (hle : other ≤ connection) :
    other = connection ∧ stage = .connected ∧ exchanges.filter (·.isOn other) = [] ∨
      ∃ args answer, Conversation other args answer (exchanges.filter (·.isOn other))
        (if other = connection then stage else .apart) := by
  induction h with
  | nothing => omega
  | refused earlier executable e ih =>
    rw [List.filter_cons_of_neg Bool.false_ne_true]
    exact ih hle
  | @connected exchanges connection earlier executable ih =>
    rw [List.filter_cons_of_neg Bool.false_ne_true]
    -- nothing was said on the new connection yet, and the one before it is over
    rcases Nat.lt_or_eq_of_le hle with hlt | heq
    · rcases ih (Nat.le_of_lt_succ hlt) with ⟨-, hstage, -⟩ | ⟨args, answer, hconversation⟩
      · cases hstage
      · rw [ite_self] at hconversation
        exact .inr ⟨args, answer, by rwa [if_neg hlt.ne]⟩
    · exact .inl ⟨heq, rfl, earlier.filter_isOn_eq_nil (heq ▸ Nat.lt_succ_self _)⟩
  | @introduced exchanges connection earlier args answer ih =>
    rw [List.filter_cons, Exchange.isOn_request]
    rcases ih hle with ⟨rfl, -, hnil⟩ | ⟨args', answer', hconversation⟩
    · rw [if_pos rfl, if_pos (decide_eq_true rfl), hnil]
      exact .inr ⟨args, answer, .introduced⟩
    · by_cases heq : other = connection
      · rw [if_pos heq] at hconversation
        exact absurd rfl hconversation.ne_connected
      · rw [if_neg heq] at hconversation ⊢
        rw [if_neg (by simpa using Ne.symm heq)]
        exact .inr ⟨args', answer', hconversation⟩
  | @started exchanges connection earlier mode ih =>
    rw [List.filter_cons, Exchange.isOn_start]
    rcases ih hle with ⟨-, hstage, -⟩ | ⟨args, answer, hconversation⟩
    · cases hstage
    · refine .inr ⟨args, answer, ?_⟩
      by_cases heq : other = connection
      · subst heq
        rw [if_pos rfl] at hconversation ⊢
        rw [if_pos (decide_eq_true rfl)]
        exact hconversation.started mode
      · rw [if_neg heq] at hconversation ⊢
        rwa [if_neg (by simpa using Ne.symm heq)]
  | @said exchanges connection stage earlier e talk ih =>
    by_cases hon : e.isOn other
    · obtain ⟨hopen, rfl⟩ := Stage.speaking?_eq_some.1 (talk.connection_eq hon)
      rw [List.filter_cons_of_pos hon]
      rcases ih hle with ⟨-, rfl, -⟩ | ⟨args, answer, hconversation⟩
      · cases hopen
      · rw [if_pos rfl] at hconversation ⊢
        refine .inr ⟨args, answer, hconversation.said hopen ?_⟩
        rwa [Stage.speaking?_eq_some.2 ⟨hopen, rfl⟩] at talk
    · rw [List.filter_cons_of_neg hon]
      exact ih hle
  | @parted exchanges connection stage earlier speaks args answer ih =>
    rw [List.filter_cons, Exchange.isOn_request, ite_self]
    rcases ih hle with ⟨-, rfl, -⟩ | ⟨args', answer', hconversation⟩
    · cases speaks
    · refine .inr ⟨args', answer', ?_⟩
      by_cases heq : other = connection
      · subst heq
        rw [if_pos rfl] at hconversation
        rw [if_pos (decide_eq_true rfl)]
        exact hconversation.parted speaks args answer
      · rw [if_neg heq] at hconversation
        rwa [if_neg (by simpa using Ne.symm heq)]

end InOrder
end DebugConsole
