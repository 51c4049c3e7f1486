/-
# One connection at a time

Whatever the adapters do, a debugger speaks only on the connection that it has opened last, and it
opens another one only after it has parted on that (`Run.isDisciplined`).  On each connection:

* `initialize` is the first request and is made once;
* at most one `launch` or `attach` is made, and only after `initialize` was answered;
* nothing follows `disconnect`.

Which connection is open can be read off the questions that were asked (`IsOpenAfter`): it was
opened, and nobody has parted on it.
-/

import DebugConsole.Proofs.Conversation

namespace DebugConsole

open Protocol

variable {σ : Type}

/-- What was said on a connection, last first, is in order. -/
structure IsOrderly (connection : Nat) (said : List Exchange) : Prop where
  introduced : ∃ args answer rest,
    said = rest ++ [.request ((Call.introduce args).on connection) answer] ∧
      (∀ e ∈ rest, e.isCommand "initialize" = false) ∧
      ((∃ e ∈ rest, e.isStart) → ((Call.introduce args).result answer).isOk)
  started : said.countP (·.isStart) ≤ 1
  parted : ∀ later e earlier, said = later ++ e :: earlier → e.isCommand "disconnect" → later = []

/-- After these questions, last first, a connection is open: it was opened, and nobody has parted on
it. -/
def IsOpenAfter (exchanges : List Exchange) (connection : Nat) : Prop :=
  0 < connection ∧ connection ≤ exchanges.countP (·.isConnection) ∧
    ∀ e ∈ exchanges, e.isOn connection → e.isCommand "disconnect" = false

/-! ### What an order of questions means -/

namespace Conversation

variable {connection : Nat} {args : InitializeArguments} {answer : Except Error Json}
  {exchanges : List Exchange} {stage : Stage}

/-- A conversation is orderly, as far as it has come. -/
theorem isOrderly (h : Conversation connection args answer exchanges stage) :
    IsOrderly connection exchanges where
  introduced := by
    obtain ⟨rest, rfl, hrest⟩ := h.exists_introduction
    refine ⟨args, answer, rest, rfl, hrest, fun ⟨e, he, hstart⟩ => h.isOk_of_started.2.2 ?_⟩
    exact List.countP_pos_iff.2 ⟨e, List.mem_append_left _ he, hstart⟩
  started := h.isOk_of_started.2.1
  parted _ _ _ heq he := h.eq_nil_of_disconnect heq he

/-- Who is apart has parted. -/
theorem exists_disconnect (h : Conversation connection args answer exchanges .apart) :
    ∃ e ∈ exchanges, e.isCommand "disconnect" := by
  cases h with
  | parted earlier speaks goodbye reply => exact ⟨_, List.mem_cons_self, rfl⟩
  | said earlier speaks talk => cases speaks

end Conversation

namespace InOrder

variable {exchanges : List Exchange} {connection : Nat} {stage : Stage}

/-- Only the newest connection can be open. -/
theorem isOpenAfter_iff (h : InOrder exchanges connection stage) {other : Nat} :
    IsOpenAfter exchanges other ↔ other = connection ∧ stage ≠ .apart := by
  rw [IsOpenAfter, h.countP_eq]
  constructor
  · rintro ⟨hpos, hle, hnone⟩
    rcases h.conversation hpos hle with ⟨rfl, rfl, -⟩ | ⟨args, answer, hconversation⟩
    · exact ⟨rfl, nofun⟩
    -- on any other connection somebody has parted
    by_contra hnot
    have hapart : (if other = connection then stage else .apart) = .apart := by
      split_ifs with heq
      · by_contra hne
        exact hnot ⟨heq, hne⟩
      · rfl
    rw [hapart] at hconversation
    obtain ⟨e, he, hparts⟩ := hconversation.exists_disconnect
    obtain ⟨he, hon⟩ := List.mem_filter.1 he
    exact Bool.false_ne_true ((hnone e he hon).symm.trans hparts)
  · rintro ⟨rfl, hstage⟩
    have hpos := h.pos_of_ne_apart hstage
    refine ⟨hpos, le_rfl, fun e he hon => ?_⟩
    have hmem : e ∈ exchanges.filter (·.isOn other) := List.mem_filter.2 ⟨he, hon⟩
    rcases h.conversation hpos le_rfl with ⟨-, -, hnil⟩ | ⟨args, answer, hconversation⟩
    · rw [hnil] at hmem
      cases hmem
    · rw [if_pos rfl] at hconversation
      have hopen : stage.isOpen := by
        have hne := hconversation.ne_connected
        cases stage <;> first | rfl | exact absurd rfl hstage | exact absurd rfl hne
      exact hconversation.disconnect_of_isOpen hopen e hmem

/-- The questions before the last were in order as well. -/
theorem exists_tail {e : Exchange} (h : InOrder (e :: exchanges) connection stage) :
    ∃ connection stage, InOrder exchanges connection stage := by
  cases h <;> exact ⟨_, _, ‹_›⟩

/-- So were those before any later ones. -/
theorem exists_suffix (h : InOrder exchanges connection stage) {earlier : List Exchange}
    (hsuffix : earlier <:+ exchanges) : ∃ connection stage, InOrder earlier connection stage := by
  obtain ⟨later, rfl⟩ := hsuffix
  induction later generalizing connection stage with
  | nil => exact ⟨_, _, h⟩
  | cons e rest ih =>
    obtain ⟨_, _, hrest⟩ := exists_tail h
    exact ih hrest

/-- Whatever is said is said on the open connection. -/
theorem isOpenAfter_of_isOn {e : Exchange} (h : InOrder (e :: exchanges) connection stage)
    {other : Nat} (hon : e.isOn other) : IsOpenAfter exchanges other := by
  cases h with
  | refused earlier executable error => cases hon
  | connected earlier executable => cases hon
  | introduced earlier args answer =>
    exact earlier.isOpenAfter_iff.2 ⟨(of_decide_eq_true hon).symm, nofun⟩
  | started earlier mode =>
    exact earlier.isOpenAfter_iff.2 ⟨(of_decide_eq_true hon).symm, nofun⟩
  | said earlier talk =>
    obtain ⟨hopen, rfl⟩ := Stage.speaking?_eq_some.1 (talk.connection_eq hon)
    exact earlier.isOpenAfter_iff.2 ⟨rfl, by rintro rfl; cases hopen⟩
  | parted earlier speaks args answer =>
    exact earlier.isOpenAfter_iff.2 ⟨(of_decide_eq_true hon).symm, by rintro rfl; cases speaks⟩

/-- Nobody connects while a connection is open. -/
theorem not_isOpenAfter_of_connect {executable : Executable} {outcome : Except Error Unit}
    (h : InOrder (.connect executable outcome :: exchanges) connection stage) (other : Nat) :
    ¬IsOpenAfter exchanges other := by
  intro hopen
  cases h with
  | refused earlier executable error => exact (earlier.isOpenAfter_iff.1 hopen).2 rfl
  | connected earlier executable => exact (earlier.isOpenAfter_iff.1 hopen).2 rfl
  | said earlier talk => cases talk

end InOrder

/-! ### Every move keeps to the order -/

namespace Debugger

/-- The questions that were asked are in order, and the session is as far as they say. -/
structure Follows (d : Debugger σ) (stage : Stage) : Prop where
  ordered : InOrder d.exchanges d.generation stage
  session : d.session.isSome = stage.isOpen
  introduced : stage ≠ .connected
  unsent : d.unsent?.isSome → stage = .introduced true

/-- Something may be said just while a session is open. -/
theorem Follows.speaking? {d : Debugger σ} {stage : Stage} (h : Follows d stage) :
    stage.speaking? d.generation = d.openConnection? := by
  rw [Stage.speaking?, ← h.session, openConnection?]
  cases d.session <;> rfl

/-- Talk leaves the stage of a connection as it is. -/
theorem Follows.converses {d d' : Debugger σ} {stage : Stage} (h : Follows d stage)
    (htalk : Converses d d') : Follows d' stage where
  ordered := by
    obtain ⟨new, heq, hall⟩ := htalk.asks
    rw [heq, htalk.generation]
    clear heq
    induction new with
    | nil => exact h.ordered
    | cons e rest ih =>
      obtain ⟨he, hrest⟩ := List.forall_mem_cons.1 hall
      exact (ih hrest).said (h.speaking?.symm ▸ he)
  session := htalk.session.trans h.session
  introduced := h.introduced
  unsent hunsent := h.unsent (htalk.unsent ▸ hunsent)

/-- The request that starts the program is made where the adapter has introduced itself. -/
theorem Follows.starts {d d' : Debugger σ} {stage : Stage} {mode : StartMode} (h : Follows d stage)
    (hstarts : Starts d d' mode) : Follows d' .started := by
  obtain ⟨hunsent, hsent⟩ := hstarts.unsent
  obtain rfl := h.unsent (by rw [hunsent]; rfl)
  refine ⟨?_, hstarts.session.2, nofun, fun hsome => ?_⟩
  · rw [hstarts.asks, hstarts.generation]
    exact h.ordered.started mode
  · rw [hsent] at hsome
    cases hsome

/-- A connection is parted from by its last request. -/
theorem Follows.parts {d d' : Debugger σ} {stage : Stage} (h : Follows d stage)
    (hparts : Parts d d') : Follows d' .apart where
  ordered := by
    rw [hparts.generation]
    rcases hparts.asks with ⟨hnone, heq⟩ | ⟨hsome, answer, heq⟩ <;> rw [heq]
    · have hclosed := h.session
      rw [hnone] at hclosed
      have hne := h.introduced
      have hordered := h.ordered
      cases stage <;> first | exact hordered | exact absurd rfl hne | cases hclosed
    · exact h.ordered.parted (h.session ▸ hsome) _ answer
  session := by
    rw [hparts.session]
    rfl
  introduced := nofun
  unsent hsome := by
    rw [unsent?, hparts.session] at hsome
    cases hsome

/-- Only after parting is the next connection tried. -/
theorem Follows.connects {d d' : Debugger σ} (h : Follows d .apart) (hconnects : Connects d d') :
    ∃ stage, Follows d' stage := by
  rcases hconnects.asks with ⟨executable, e, hnone, hgeneration, heq⟩ |
    ⟨executable, args, answer, hsome, hgeneration, heq, haccepted⟩
  · have hunsent : d'.unsent? = none := by rw [unsent?, hnone, Option.bind_none]
    refine ⟨.apart, ?_, by rw [hnone]; rfl, by decide, by simp [hunsent]⟩
    rw [heq, hgeneration]
    exact h.ordered.refused executable e
  · refine ⟨.introduced ((Call.introduce args).result answer).isOk, ?_, hsome, by simp,
      fun hunsent => congrArg Stage.introduced (haccepted hunsent)⟩
    rw [heq, hgeneration]
    exact (h.ordered.connected executable).introduced args answer

/-- Whatever a move says, it follows what was said before. -/
theorem Follows.course {d d' : Debugger σ} {stage : Stage} (h : Follows d stage)
    (hcourse : Course d d') : ∃ stage, Follows d' stage := by
  cases hcourse with
  | talks talk => exact ⟨stage, h.converses talk⟩
  | starts start => exact ⟨.started, h.starts start⟩
  | parts before parting after =>
    exact ⟨.apart, ((h.converses before).parts parting).converses after⟩
  | restarts before parting connecting after =>
    obtain ⟨stage', hfollows⟩ := ((h.converses before).parts parting).connects connecting
    exact ⟨stage', hfollows.converses after⟩

/-- What a launch is for is known before anything is asked. -/
theorem Follows.prepared {d : Debugger σ} {stage : Stage} (h : Follows d stage) (move : Move σ) :
    Follows (move.prepared d) stage := by
  unfold Move.prepared
  split
  · exact ⟨h.ordered, h.session, h.introduced, h.unsent⟩
  · exact h

/-- **One connection at a time, and in order.** -/
structure IsDisciplined (d : Debugger σ) : Prop where
  /-- On every connection that was opened, what was said is in order. -/
  orderly : ∀ connection, 0 < connection → connection ≤ d.connections →
    IsOrderly connection (d.exchanges.filter (·.isOn connection))
  /-- Every request was made on the connection that was open at the time. -/
  spoken : ∀ e earlier, e :: earlier <:+ d.exchanges →
    ∀ connection, e.isOn connection → IsOpenAfter earlier connection
  /-- Every attempt to connect was made when no connection was open. -/
  connected : ∀ executable outcome earlier,
    .connect executable outcome :: earlier <:+ d.exchanges →
      ∀ connection, ¬IsOpenAfter earlier connection
  /-- At no time was more than one connection open. -/
  single : ∀ earlier, earlier <:+ d.exchanges → ∀ connection other,
    IsOpenAfter earlier connection → IsOpenAfter earlier other → connection = other
  /-- A connection is open just if a session is. -/
  current : ∀ connection, IsOpenAfter d.exchanges connection ↔ d.openConnection? = some connection

/-- Where questions follow each other so, every connection is disciplined. -/
theorem Follows.discipline {d : Debugger σ} {stage : Stage} (h : Follows d stage) :
    IsDisciplined d where
  orderly connection hpos hle := by
    rw [connections, h.ordered.countP_eq] at hle
    rcases h.ordered.conversation hpos hle with ⟨-, heq, -⟩ | ⟨_, _, hconversation⟩
    · exact absurd heq h.introduced
    · exact hconversation.isOrderly
  spoken e earlier hsuffix connection hon := by
    obtain ⟨_, _, hordered⟩ := h.ordered.exists_suffix hsuffix
    exact hordered.isOpenAfter_of_isOn hon
  connected executable outcome earlier hsuffix := by
    obtain ⟨_, _, hordered⟩ := h.ordered.exists_suffix hsuffix
    exact hordered.not_isOpenAfter_of_connect
  single earlier hsuffix connection other hopen hother := by
    obtain ⟨_, _, hordered⟩ := h.ordered.exists_suffix hsuffix
    exact (hordered.isOpenAfter_iff.1 hopen).1.trans (hordered.isOpenAfter_iff.1 hother).1.symm
  current connection := by
    rw [h.ordered.isOpenAfter_iff, ← h.speaking?, Stage.speaking?_eq_some]
    have hne := h.introduced
    cases stage <;> first | exact absurd rfl hne | simp [Stage.isOpen, eq_comm]

end Debugger

open Debugger

variable [Environment σ]

/-- **In every run each question follows** those before it. -/
theorem Run.exists_follows {history : List (Step σ)} {d : Debugger σ} (h : Run history d) :
    ∃ stage, Follows d stage := by
  induction h with
  | start environment console suppressed => exact ⟨.apart, .nothing, rfl, nofun, nofun⟩
  | @step history d hrun move ih =>
    obtain ⟨stage, hfollows⟩ := ih
    exact (hfollows.prepared move).course (course_next move d)

/-- **In every run connections are opened one after the other**, and on each of them the requests
are made in order, whatever the adapters answer and whenever they send anything. -/
theorem Run.isDisciplined {history : List (Step σ)} {d : Debugger σ} (h : Run history d) :
    d.IsDisciplined := by
  obtain ⟨stage, hfollows⟩ := h.exists_follows
  exact hfollows.discipline

/-- A run it speaks of: a program is launched and then launched again. -/
theorem Run.isDisciplined_scripted :
    let d := (Move.steps
      [.operate (.launch Script.launched), .sendStart, .operate .relaunch, .sendStart] []
        (Script.rehearse {})).2
    let said (connection : Nat) := (d.exchanges.filter (·.isOn connection)).map fun e =>
      e.asked?.map (·.command)
    d.connections = 2 ∧ said 1 = [some "disconnect", some "launch", some "initialize"] ∧
      said 2 = [some "launch", some "initialize"] ∧ d.IsDisciplined := by
  intro d said
  exact ⟨by decide +kernel, by decide +kernel, by decide +kernel,
    ((Run.start _ _ _).steps _).isDisciplined⟩

end DebugConsole
