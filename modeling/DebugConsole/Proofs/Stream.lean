/-
# What a session takes in and hands out

The stream of a connection is what its adapter has sent: events, up to the end of the stream
(`Arrivals.stream`).  A session takes arrivals in and hands out signals, and at every time it is in
step with both (`Session.IsInStep`):

| arrived | is |
| --- | --- |
| events | those that were handed out, then those in the inbox |
| the end of the stream | handed out once, after all events |
| the answer to the start request | handed out once, when neither of these is left |

A session that is closed takes in nothing more; what it has handed out remains the beginning of what
has arrived (`IsDelivery`).
-/

import DebugConsole.Proofs.Account

namespace DebugConsole

open Protocol

/-! ### The stream of a connection -/

namespace Arrivals

/-- The events that have arrived before the end of the stream. -/
def stream : List Arrivals → List Event
  | [] => []
  | arrivals :: rest => arrivals.events ++ if arrivals.ended then [] else stream rest

/-- Has the end of the stream arrived? -/
def isOver (arrived : List Arrivals) : Bool := arrived.any (·.ended)

/-- A stream is over once one of its parts ends it. -/
theorem isOver_append (arrived later : List Arrivals) :
    isOver (arrived ++ later) = (isOver arrived || isOver later) := List.any_append

/-- Nothing is added to a stream after its end. -/
theorem stream_append (arrived later : List Arrivals) :
    stream (arrived ++ later) = stream arrived ++ if isOver arrived then [] else stream later := by
  induction arrived with
  | nil => rfl
  | cons arrivals rest ih =>
    rw [List.cons_append, stream, stream, ih, isOver, isOver, List.any_cons]
    cases arrivals.ended with
    | true => simp
    | false => simp [List.append_assoc]

/-- What arrives later only extends the stream. -/
theorem stream_prefix_append (arrived later : List Arrivals) :
    stream arrived <+: stream (arrived ++ later) := by
  rw [stream_append]
  exact List.prefix_append ..

end Arrivals

namespace Signal

/-- The event that is handed out. -/
def event? : Signal → Option Event
  | .event _ told => some told
  | _ => none

/-- Is the end of a stream handed out? -/
def isClosed : Signal → Bool
  | .closed _ => true
  | _ => false

/-- Is the answer to a start request handed out? -/
def isStarted : Signal → Bool
  | .started _ _ => true
  | _ => false

/-- The events that were handed out. -/
def events (delivered : List Signal) : List Event := delivered.filterMap event?

/-- One more signal adds its event, if it is one. -/
theorem events_concat (delivered : List Signal) (signal : Signal) :
    events (delivered ++ [signal]) = events delivered ++ signal.event?.toList := by
  rw [events, List.filterMap_append, events]
  cases signal <;> rfl

/-- One more signal is counted by itself. -/
theorem countP_concat (p : Signal → Bool) (delivered : List Signal) (signal : Signal) :
    (delivered ++ [signal]).countP p = delivered.countP p + (p signal).toNat := by
  rw [List.countP_append, List.countP_singleton]
  cases p signal <;> rfl

end Signal

/-- What was handed out, oldest first, was taken in before. -/
structure IsDelivery (arrived : List Arrivals) (delivered : List Signal) : Prop where
  /-- The events are handed out as they have arrived, none left out and none twice. -/
  inOrder : Signal.events delivered <+: Arrivals.stream arrived
  /-- The end of the stream is handed out once at most. -/
  closedOnce : delivered.countP (·.isClosed) ≤ 1
  /-- When it was, all events were handed out. -/
  closedLast : 0 < delivered.countP (·.isClosed) →
    Arrivals.isOver arrived ∧ Signal.events delivered = Arrivals.stream arrived
  /-- The answer to the start request is handed out once at most. -/
  startedOnce : delivered.countP (·.isStarted) ≤ 1
  /-- It is one that has arrived. -/
  answered : ∀ connection result, .started connection result ∈ delivered →
    ∃ arrivals ∈ arrived, arrivals.started = some result

/-- What arrives later makes no difference to what was handed out. -/
theorem IsDelivery.append {arrived : List Arrivals} {delivered : List Signal}
    (h : IsDelivery arrived delivered) (later : List Arrivals) :
    IsDelivery (arrived ++ later) delivered where
  inOrder := h.inOrder.trans (Arrivals.stream_prefix_append arrived later)
  closedOnce := h.closedOnce
  closedLast hclosed := by
    obtain ⟨hover, hevents⟩ := h.closedLast hclosed
    rw [Arrivals.isOver_append, Arrivals.stream_append, hover, if_pos rfl, List.append_nil]
    exact ⟨rfl, hevents⟩
  startedOnce := h.startedOnce
  answered connection result hmem := by
    obtain ⟨arrivals, harrivals, hresult⟩ := h.answered connection result hmem
    exact ⟨arrivals, List.mem_append_left _ harrivals, hresult⟩

/-- Nothing delivered is a delivery of nothing arrived. -/
theorem isDelivery_nil : IsDelivery [] [] :=
  ⟨List.prefix_rfl, Nat.zero_le _, fun h => absurd h (Nat.lt_irrefl 0), Nat.zero_le _,
    fun _ _ h => absurd h List.not_mem_nil⟩

namespace Session

/-- What is handed out next: an event, the end of the stream, the answer to the start request, in
this order. -/
theorem next?_cases {s s' : Session} {connection : Nat} {signal : Signal}
    (h : s.next? connection = some (signal, s')) :
    (∃ event rest, s.inbox = event :: rest ∧ s.endReported = false ∧
      signal = .event connection event ∧ s' = { s with inbox := rest }) ∨
    (s.inbox = [] ∧ s.ended ∧ s.endReported = false ∧
      signal = .closed connection ∧ s' = { s with endReported := true }) ∨
    ∃ result, (s.endReported ∨ s.inbox = [] ∧ s.ended = false) ∧
      s.start = some (.answered result) ∧
      signal = .started connection result ∧ s' = { s with start := none } := by
  rw [next?] at h
  split at h
  · rename_i hwaits
    have hleft : s.endReported ∨ s.inbox = [] ∧ s.ended = false := by simpa using hwaits
    rcases hstart : s.start with _ | _ | _ | result <;> rw [hstart] at h <;> cases h
    exact .inr (.inr ⟨result, hleft, rfl, rfl, rfl⟩)
  · rename_i hhands
    obtain ⟨hreported, hhands⟩ : s.endReported = false ∧ ¬(s.inbox = [] ∧ s.ended = false) := by
      simpa using hhands
    rcases hinbox : s.inbox with _ | ⟨event, rest⟩ <;> rw [hinbox] at h hhands <;> cases h
    · exact .inr (.inl ⟨rfl, by simpa using hhands, hreported, rfl, rfl⟩)
    · exact .inl ⟨event, rest, rfl, hreported, rfl, rfl⟩

/-- Nothing is handed out only when neither an event nor the end of the stream is left. -/
theorem left_of_next?_none {s : Session} {connection : Nat} (h : s.next? connection = none) :
    s.endReported ∨ s.inbox = [] ∧ s.ended = false := by
  rw [next?] at h
  split at h
  · rename_i hwaits
    simpa using hwaits
  · split at h <;> cases h

/-- What a session has taken in was handed out, or is still there to be handed out. -/
structure IsInStep (arrived : List Arrivals) (delivered : List Signal) (s : Session) : Prop
    extends IsDelivery arrived delivered where
  inbox : Arrivals.stream arrived = Signal.events delivered ++ s.inbox
  ended : s.ended = Arrivals.isOver arrived
  endReported : delivered.countP (·.isClosed) = s.endReported.toNat
  drained : s.endReported → s.ended ∧ s.inbox = []
  start : s.start.isSome → delivered.countP (·.isStarted) = 0
  kept : ∀ result, s.start = some (.answered result) →
    ∃ arrivals ∈ arrived, arrivals.started = some result

/-- A new session is in step with a new connection. -/
theorem isInStep_new : IsInStep [] [] {} where
  toIsDelivery := isDelivery_nil
  inbox := rfl
  ended := rfl
  endReported := rfl
  drained h := nomatch h
  start h := nomatch h
  kept _ h := nomatch h

variable {arrived : List Arrivals} {delivered : List Signal} {s : Session}

/-- **Taking in.** -/
theorem IsInStep.receive (h : IsInStep arrived delivered s) (arrivals : Arrivals) :
    IsInStep (arrived ++ [arrivals]) delivered (s.receive arrivals) where
  toIsDelivery := h.append [arrivals]
  inbox := by
    rw [Arrivals.stream_append, ← h.ended, h.inbox, Session.receive]
    cases s.ended with
    | true => exact List.append_nil _
    | false => simp [Arrivals.stream]
  ended := by
    rw [Arrivals.isOver_append, ← h.ended, Session.receive]
    simp [Arrivals.isOver]
  endReported := h.endReported
  drained hreported := by
    obtain ⟨hended, hinbox⟩ := h.drained hreported
    rw [Session.receive]
    exact ⟨by simp [hended], by simp [hended, hinbox]⟩
  start hsome := by
    refine h.start ?_
    rw [Session.receive] at hsome
    rcases hstart : s.start with _ | progress
    · rw [hstart] at hsome
      exact hsome
    · rfl
  kept result hresult := by
    -- the answer kept is an old one, or the one that has just arrived
    have hor : s.start = some (.answered result) ∨ arrivals.started = some result := by
      rw [Session.receive] at hresult
      dsimp only at hresult
      split at hresult
      · rename_i hstarted
        cases hresult
        exact .inr hstarted
      · exact .inl hresult
    rcases hor with hkept | hnew
    · obtain ⟨other, hother, hsame⟩ := h.kept result hkept
      exact ⟨other, List.mem_append_left _ hother, hsame⟩
    · exact ⟨arrivals, List.mem_append_right _ (List.mem_singleton_self _), hnew⟩

/-- The request that starts the program is made once, before it is answered. -/
theorem IsInStep.restart (h : IsInStep arrived delivered s) {start : Option StartProgress}
    (hnone : delivered.countP (·.isStarted) = 0)
    (hunanswered : ∀ result, start ≠ some (.answered result)) :
    IsInStep arrived delivered { s with start } :=
  { h with start := fun _ => hnone, kept := fun result heq => absurd heq (hunanswered result) }

/-- When the end of the stream is handed out, it was not before, and all events were. -/
theorem IsInStep.of_next?_closed (h : IsInStep arrived delivered s) {connection other : Nat}
    {s' : Session} (hnext : s.next? connection = some (.closed other, s')) :
    delivered.countP (·.isClosed) = 0 ∧ Arrivals.isOver arrived ∧
      Signal.events delivered = Arrivals.stream arrived := by
  rcases next?_cases hnext with ⟨_, _, _, _, heq, _⟩ | ⟨hinbox, hended, hreported, _, _⟩ |
    ⟨_, _, _, heq, _⟩
  · cases heq
  · refine ⟨by rw [h.endReported, hreported]; rfl, h.ended ▸ hended, ?_⟩
    rw [h.inbox, hinbox, List.append_nil]
  · cases heq

/-- When neither an event nor the end of the stream is left to be handed out, both were. -/
theorem IsInStep.of_left (h : IsInStep arrived delivered s)
    (hleft : s.endReported ∨ s.inbox = [] ∧ s.ended = false) :
    s.inbox = [] ∧ Signal.events delivered = Arrivals.stream arrived ∧
      (Arrivals.isOver arrived → delivered.countP (·.isClosed) = 1) := by
  have hinbox : s.inbox = [] := hleft.elim (fun hreported => (h.drained hreported).2) And.left
  refine ⟨hinbox, by rw [h.inbox, hinbox, List.append_nil], fun hover => ?_⟩
  rw [h.endReported]
  rcases hleft with hreported | ⟨-, hended⟩
  · rw [hreported]
    rfl
  · rw [← h.ended, hended] at hover
    cases hover

/-- When the answer to the start request is handed out, it was not before, no event is left, and
neither is the end of the stream. -/
theorem IsInStep.of_next?_started (h : IsInStep arrived delivered s) {connection other : Nat}
    {result : Except Error Unit} {s' : Session}
    (hnext : s.next? connection = some (.started other result, s')) :
    s.inbox = [] ∧ Signal.events delivered = Arrivals.stream arrived ∧
      (Arrivals.isOver arrived → delivered.countP (·.isClosed) = 1) ∧
      delivered.countP (·.isStarted) = 0 ∧
      ∃ arrivals ∈ arrived, arrivals.started = some result := by
  rcases next?_cases hnext with ⟨_, _, _, _, heq, _⟩ | ⟨_, _, _, heq, _⟩ |
    ⟨given, hleft, hstart, heq, _⟩
  · cases heq
  · cases heq
  obtain ⟨-, rfl⟩ := Signal.started.inj heq
  obtain ⟨hinbox, hevents, hclosed⟩ := h.of_left hleft
  exact ⟨hinbox, hevents, hclosed, h.start (by rw [hstart]; rfl), h.kept result hstart⟩

/-- An event is handed out. -/
theorem IsInStep.next_event (h : IsInStep arrived delivered s) {event : Event} {rest : List Event}
    (hinbox : s.inbox = event :: rest) (hreported : s.endReported = false) (connection : Nat) :
    IsInStep arrived (delivered ++ [.event connection event]) { s with inbox := rest } := by
  have hclosed : (delivered ++ [Signal.event connection event]).countP (·.isClosed) =
      delivered.countP (·.isClosed) := Signal.countP_concat ..
  have hstarted : (delivered ++ [Signal.event connection event]).countP (·.isStarted) =
      delivered.countP (·.isStarted) := Signal.countP_concat ..
  have hstream : Arrivals.stream arrived =
      Signal.events (delivered ++ [.event connection event]) ++ rest := by
    rw [h.inbox, hinbox, Signal.events_concat, List.append_assoc]
    rfl
  have hnone : delivered.countP (·.isClosed) = 0 := by rw [h.endReported, hreported]; rfl
  exact {
    inOrder := ⟨rest, hstream.symm⟩
    closedOnce := hclosed ▸ h.closedOnce
    closedLast := fun hpos => absurd (hclosed.trans hnone) (Nat.ne_of_gt hpos)
    startedOnce := hstarted ▸ h.startedOnce
    answered := fun other result hmem => h.answered other result (by simpa using hmem)
    inbox := hstream
    ended := h.ended
    endReported := hclosed.trans h.endReported
    drained := fun hdrained => absurd hdrained (by simp [hreported])
    start := fun hsome => hstarted.trans (h.start hsome)
    kept := h.kept }

/-- The end of the stream is handed out. -/
theorem IsInStep.next_closed (h : IsInStep arrived delivered s) (hinbox : s.inbox = [])
    (hended : s.ended) (hreported : s.endReported = false) (connection : Nat) :
    IsInStep arrived (delivered ++ [.closed connection]) { s with endReported := true } := by
  have hstarted : (delivered ++ [Signal.closed connection]).countP (·.isStarted) =
      delivered.countP (·.isStarted) := Signal.countP_concat ..
  have hevents : Signal.events (delivered ++ [.closed connection]) = Signal.events delivered :=
    (Signal.events_concat ..).trans (List.append_nil _)
  have hclosed : (delivered ++ [Signal.closed connection]).countP (·.isClosed) = 1 := by
    rw [Signal.countP_concat, h.endReported, hreported]
    rfl
  have hall : Signal.events delivered = Arrivals.stream arrived := by
    rw [h.inbox, hinbox, List.append_nil]
  exact {
    inOrder := hevents ▸ h.inOrder
    closedOnce := Nat.le_of_eq hclosed
    closedLast := fun _ => ⟨h.ended ▸ hended, hevents.trans hall⟩
    startedOnce := hstarted ▸ h.startedOnce
    answered := fun other result hmem => h.answered other result (by simpa using hmem)
    inbox := by rw [hevents, h.inbox]
    ended := h.ended
    endReported := hclosed
    drained := fun _ => ⟨hended, hinbox⟩
    start := fun hsome => hstarted.trans (h.start hsome)
    kept := h.kept }

/-- The answer to the start request is handed out. -/
theorem IsInStep.next_started (h : IsInStep arrived delivered s) {result : Except Error Unit}
    (hstart : s.start = some (.answered result)) (connection : Nat) :
    IsInStep arrived (delivered ++ [.started connection result]) { s with start := none } := by
  have hclosed : (delivered ++ [Signal.started connection result]).countP (·.isClosed) =
      delivered.countP (·.isClosed) := Signal.countP_concat ..
  have hevents : Signal.events (delivered ++ [.started connection result]) =
      Signal.events delivered := (Signal.events_concat ..).trans (List.append_nil _)
  have hstarted : (delivered ++ [Signal.started connection result]).countP (·.isStarted) = 1 := by
    rw [Signal.countP_concat, h.start (by rw [hstart]; rfl)]
    rfl
  exact {
    inOrder := hevents ▸ h.inOrder
    closedOnce := hclosed ▸ h.closedOnce
    closedLast := fun hpos => hevents ▸ h.closedLast (hclosed ▸ hpos)
    startedOnce := Nat.le_of_eq hstarted
    answered := fun other given hmem => by
      rcases List.mem_append.1 hmem with hmem | hmem
      · exact h.answered other given hmem
      · obtain ⟨-, rfl⟩ := Signal.started.inj (List.mem_singleton.1 hmem)
        exact h.kept given hstart
    inbox := by rw [hevents, h.inbox]
    ended := h.ended
    endReported := hclosed.trans h.endReported
    drained := h.drained
    start := fun hsome => nomatch hsome
    kept := fun _ heq => nomatch heq }

/-- **Handing out.** -/
theorem IsInStep.next (h : IsInStep arrived delivered s) {connection : Nat} {signal : Signal}
    {s' : Session} (hnext : s.next? connection = some (signal, s')) :
    IsInStep arrived (delivered ++ [signal]) s' := by
  rcases next?_cases hnext with ⟨event, rest, hinbox, hreported, rfl, rfl⟩ |
    ⟨hinbox, hended, hreported, rfl, rfl⟩ | ⟨result, -, hstart, rfl, rfl⟩
  · exact h.next_event hinbox hreported connection
  · exact h.next_closed hinbox hended hreported connection
  · exact h.next_started hstart connection

end Session
end DebugConsole
