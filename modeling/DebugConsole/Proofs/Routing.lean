/-
# Which message ends which request

Requests that are in flight at the same time share one table with the reader.  Whatever
order requests, reader and clock take turns in, and whatever the adapter writes, a
request ends in one of these ways:

| it ended with | because |
| --- | --- |
| a response | it was the first with its number that was read while it was in the table |
| `timeout` | its own time was up while it was in the table |
| `inputOutput` | it could not be written itself |
| `adapterCrashed` | the stream ended while it was in the table |

What the reader has left for a request decides how it ends (`Client.EndsWith`), unless it was
still being written and that fails: then the failure is its outcome, also when the stream has
ended (`Client.crash_not_always`).
-/

import DebugConsole.Proofs.Ticket
import DebugConsole.Wire.Frame
import Mathlib.Data.List.Induction

namespace DebugConsole

open Protocol

namespace Client

/-! ### A run -/

/-- The client after these occurrences. -/
def run (steps : List Step) : Client := steps.foldl step {}

/-- The commands of the requests, in the order in which these got their numbers. -/
def commands (steps : List Step) : List String := steps.filterMap Step.command?

/-- The messages that were read before the stream ended. -/
def texts : List Step → List String
  | [] => []
  | .streamEnded :: _ => []
  | .heard text :: rest => text :: texts rest
  | _ :: rest => texts rest

/-- What the reader does with what a stream holds: it stops at the first error. -/
def readings : List (Except Error String) → List Step
  | [] => []
  | .ok text :: rest => .heard text :: readings rest
  | .error _ :: _ => [.streamEnded]

/-- The messages that a stream holds before the first error. -/
def messages : List (Except Error String) → List String
  | .ok text :: rest => text :: messages rest
  | _ => []

/-- Does the request with a number stand in the table? -/
def isPending (seq : Nat) (c : Client) : Bool := (c.ticket? seq).any Ticket.isTabled

/-- Was the request with a number written, and is not over? -/
def isWritten (seq : Nat) (c : Client) : Bool := (c.ticket? seq).any Ticket.isWritten

/-- The reader finds by this text a response to a request in the table. -/
structure Answers (c : Client) (seq : Nat) (text : String) (response : ResponseMessage) : Prop where
  reading : c.ended = false
  pending : c.isPending seq
  heard : Heard.ofText text = .response response
  addressed : response.requestSeq.toInt = seq

/-- Why a request ended as it did. -/
inductive Origin (steps : List Step) (seq : Nat) (command : String) : Except Error Json → Prop
  /-- A response was read while it was in the table, and none before it. -/
  | response {pre : List Step} {text : String} {response : ResponseMessage}
      (hpre : pre ++ [.heard text] <+: steps) (hanswers : (run pre).Answers seq text response)
      (hfirst : ∀ earlier other reply, earlier ++ [.heard other] <+: pre →
        ¬ (run earlier).Answers seq other reply) :
      Origin steps seq command (response.result command)
  /-- Its own time was up while it was in the table. -/
  | timeout {pre : List Step} {seconds : Nat} (hpre : pre ++ [.expired seq seconds] <+: steps)
      (hpending : (run pre).isPending seq) :
      Origin steps seq command (.error (.timeout command seconds))
  /-- It could not be written itself. -/
  | unwritable {pre : List Step} {reason : String}
      (hpre : pre ++ [.unwritable seq reason] <+: steps)
      (hunwritten : (run pre).isWritten seq = false) :
      Origin steps seq command (.error (.inputOutput reason))
  /-- The stream ended while it was in the table. -/
  | crash {pre : List Step} (hpre : pre ++ [.streamEnded] <+: steps)
      (hreading : (run pre).ended = false) (hpending : (run pre).isPending seq) :
      Origin steps seq command (.error .adapterCrashed)

/-- A request for which something was left by the last of the occurrences `settled` ends so. -/
structure EndsWith (seq : Nat) (outcome : Except Error Json) (settled steps : List Step) :
    Prop where
  /-- It ends in no other way, unless it was still being written and that fails afterwards. -/
  only {ending : Except Error Json} (h : (run steps).outcome? seq = some ending) :
    ending = outcome ∨ (run settled).isWritten seq = false ∧ ∃ later reason,
      settled <+: later ∧ later ++ [.unwritable seq reason] <+: steps ∧
        ending = .error (.inputOutput reason)
  /-- Once it was written, it ends as soon as it goes on. -/
  finishes (h : (run steps).isWritten seq) :
    ((run steps).step (.finished seq)).outcome? seq = some outcome

theorem run_append (steps more : List Step) : run (steps ++ more) = more.foldl step (run steps) :=
  List.foldl_append

/-- One step more comes after the others. -/
theorem run_concat (steps : List Step) (s : Step) : run (steps ++ [s]) = (run steps).step s :=
  run_append steps [s]

/-- Requests are numbered from 1. -/
theorem nextSeq_run (steps : List Step) : (run steps).nextSeq = (commands steps).length + 1 := by
  induction steps using List.reverseRecOn with
  | nil => rfl
  | append_singleton steps s ih =>
    rw [run_concat, nextSeq_step, ih, commands, commands, List.filterMap_append,
      List.length_append]
    cases s <;> simp [Step.command?]

/-- Their numbers are consecutive, in the order of the calls. -/
theorem numbers_run (steps : List Step) :
    (run steps).tickets.map (·.seq) = List.range' 1 (commands steps).length := by
  induction steps using List.reverseRecOn with
  | nil => rfl
  | append_singleton steps s ih =>
    rw [run_concat, tickets_step, List.map_append, List.map_map]
    have hkept : (fun t : Ticket => t.seq) ∘ Ticket.react (run steps).ended s = fun t => t.seq :=
      funext (Ticket.seq_react _ s)
    rw [hkept, ih, newcomer?, nextSeq_run]
    cases s <;> simp [commands, Step.command?, List.range'_concat, Nat.add_comm]

/-- A ticket has the command of its call. -/
theorem commands_run (steps : List Step) :
    (run steps).tickets.map (·.command) = commands steps := by
  induction steps using List.reverseRecOn with
  | nil => rfl
  | append_singleton steps s ih =>
    rw [run_concat, tickets_step, List.map_append, List.map_map]
    have hkept : (fun t : Ticket => t.command) ∘ Ticket.react (run steps).ended s =
        fun t => t.command := funext (Ticket.command_react _ s)
    rw [hkept, ih, newcomer?]
    cases s <;> simp [commands, Step.command?]

/-- Events are given out in the order in which they were read, until the reader stops. -/
theorem events_foldl (steps : List Step) (c : Client) :
    (steps.foldl step c).events =
      c.events ++ if c.ended then [] else (texts steps).filterMap (Heard.ofText · |>.event?) := by
  -- From the front: once the stream has ended, the rest adds nothing.
  induction steps generalizing c with
  | nil => cases c.ended <;> exact (List.append_nil _).symm
  | cons s rest ih =>
    rw [List.foldl_cons, ih, ended_step, events_step, List.append_assoc]
    congr 1
    cases c.ended with
    | true => rfl
    | false =>
      cases s with
      | heard text =>
        rw [texts, List.filterMap_cons]
        cases h : (Heard.ofText text).event? <;> simp [Step.text?, Step.isEnd, h]
      | streamEnded => rfl
      | _ => rfl

/-- Only what is read matters to what is given out. -/
theorem texts_filter (steps : List Step) : texts (steps.filter Step.isReading) = texts steps := by
  induction steps with
  | nil => rfl
  | cons s rest ih => cases s <;> simp [texts, List.filter_cons, Step.isReading, ih]

/-- What is read are the messages up to the first that cannot be. -/
theorem texts_readings (results : List (Except Error String)) (n : Nat) :
    texts ((readings results).take n) = (messages results).take n := by
  induction results generalizing n with
  | nil => cases n <;> rfl
  | cons result rest ih =>
    cases n with
    | zero => rfl
    | succ n =>
      cases result with
      | ok text => exact congrArg (text :: ·) (ih n)
      | error e => rfl

/-! ### Requests do not meet -/

/-- Two clients are alike for the request with a number. -/
structure Agrees (seq : Nat) (c c' : Client) : Prop where
  nextSeq : c.nextSeq = c'.nextSeq
  ended : c.ended = c'.ended
  ticket? : c.ticket? seq = c'.ticket? seq

/-- Clients that agree on a request do so after every step. -/
theorem Agrees.step {seq : Nat} {c c' : Client} (h : Agrees seq c c') (s : Step) :
    Agrees seq (c.step s) (c'.step s) where
  nextSeq := by rw [nextSeq_step, nextSeq_step, h.nextSeq]
  ended := by rw [ended_step, ended_step, h.ended]
  ticket? := by
    rw [ticket?_step, ticket?_step, h.ended, h.ticket?, newcomer?, newcomer?, h.nextSeq]

/-- A step that does not concern a request leaves its ticket alone. -/
theorem react_of_not_concerns {s : Step} {t : Ticket} (h : s.concerns t.seq = false)
    (ended : Bool) : t.react ended s = t := by
  have hturn : Ticket.Turn ended s t (t.react ended s) := Ticket.turn_react s t
  generalize t.react ended s = t' at hturn
  cases hturn with
  | idle => rfl
  | answered hs _ htext hseq => simp [hs, Step.concerns, htext, hseq] at h
  | enters hs | writes hs | refused hs | dropped hs | expired hs | finished hs =>
    simp [hs, Step.concerns] at h

/-- A ticket has the number that it is found under. -/
theorem seq_of_ticket? {c : Client} {seq : Nat} {t : Ticket} (h : c.ticket? seq = some t) :
    t.seq = seq := by
  have hfound := List.find?_some h
  exact of_decide_eq_true hfound

/-- A step that does not concern a request changes nothing about it. -/
theorem agrees_of_not_concerns {seq : Nat} {s : Step} (h : s.concerns seq = false) (c : Client) :
    Agrees seq (c.step s) c := by
  have hnone : s.command? = none := by
    cases s with
    | numbered command => cases h
    | _ => rfl
  have hgoes : s.isEnd = false := by
    cases s with
    | streamEnded => cases h
    | _ => rfl
  refine ⟨by rw [nextSeq_step, hnone]; rfl, by rw [ended_step, hgoes, Bool.or_false], ?_⟩
  rw [ticket?_step, newcomer?, hnone]
  cases ht : c.ticket? seq with
  | none => rfl
  | some t =>
    rw [Option.map_some, react_of_not_concerns (by rwa [seq_of_ticket? ht])]
    rfl

/-- What does not concern a request may as well not have happened. -/
theorem Agrees.foldl_filter {seq : Nat} {c c' : Client} (h : Agrees seq c c')
    (steps : List Step) :
    Agrees seq (steps.foldl Client.step c)
      ((steps.filter (Step.concerns seq)).foldl Client.step c') := by
  induction steps generalizing c c' with
  | nil => exact h
  | cons s rest ih =>
    cases hs : s.concerns seq with
    | true =>
      rw [List.filter_cons_of_pos hs]
      exact ih (h.step s)
    | false =>
      rw [List.filter_cons_of_neg (by rw [hs]; exact Bool.false_ne_true)]
      have hidle := agrees_of_not_concerns hs c
      exact ih ⟨hidle.nextSeq.trans h.nextSeq, hidle.ended.trans h.ended,
        hidle.ticket?.trans h.ticket?⟩

/-! ### What becomes of a request -/

/-- A request is pending while its ticket stands in the table. -/
theorem isPending_of_ticket? {c : Client} {seq : Nat} {t : Ticket} (h : c.ticket? seq = some t) :
    c.isPending seq = t.isTabled := by
  rw [isPending, h, Option.any_some]

/-- A request is written where its ticket says so. -/
theorem isWritten_of_ticket? {c : Client} {seq : Nat} {t : Ticket} (h : c.ticket? seq = some t) :
    c.isWritten seq = t.isWritten := by
  rw [isWritten, h, Option.any_some]

/-- A request has the outcome that its ticket has. -/
theorem outcome?_of_ticket? {c : Client} {seq : Nat} {t : Ticket} (h : c.ticket? seq = some t) :
    c.outcome? seq = t.outcome := by
  rw [outcome?, h, Option.bind_some]

/-- What is pending has a ticket in the table. -/
theorem exists_ticket?_of_isPending {c : Client} {seq : Nat} (h : c.isPending seq) :
    ∃ t, c.ticket? seq = some t ∧ t.isTabled := by
  rw [isPending, Option.any_eq_true] at h
  exact h

/-- What has an outcome has a ticket with it. -/
theorem exists_ticket?_of_outcome? {c : Client} {seq : Nat} {outcome : Except Error Json}
    (h : c.outcome? seq = some outcome) : ∃ t, c.ticket? seq = some t ∧ t.outcome = some outcome :=
  Option.bind_eq_some_iff.1 h

/-- In each step every ticket reacts by itself. -/
theorem ticket?_step_of_some {c : Client} {seq : Nat} {t : Ticket} (h : c.ticket? seq = some t)
    (s : Step) : (c.step s).ticket? seq = some (t.react c.ended s) := by
  rw [ticket?_step, h, Option.map_some, Option.some_or]

/-- What one occurrence keeps of a request the whole rest of the run keeps. -/
theorem exists_ticket?_append {P : List Step → Ticket → Prop} {base : List Step} {seq : Nat}
    {t : Ticket} (ht : (run base).ticket? seq = some t) (hbase : P base t)
    (hstep : ∀ steps s t, base <+: steps → (run steps).ticket? seq = some t → P steps t →
      P (steps ++ [s]) (t.react (run steps).ended s)) (more : List Step) :
    ∃ t, (run (base ++ more)).ticket? seq = some t ∧ P (base ++ more) t := by
  induction more using List.reverseRecOn with
  | nil =>
    rw [List.append_nil]
    exact ⟨t, ht, hbase⟩
  | append_singleton more s ih =>
    obtain ⟨t, ht, h⟩ := ih
    rw [← List.append_assoc, run_concat]
    exact ⟨_, ticket?_step_of_some ht s, hstep _ s t (List.prefix_append base more) ht h⟩

/-- A request that is over stays so. -/
theorem outcome?_append {steps : List Step} {seq : Nat} {outcome : Except Error Json}
    (h : (run steps).outcome? seq = some outcome) (more : List Step) :
    (run (steps ++ more)).outcome? seq = some outcome := by
  obtain ⟨t, ht, hover⟩ := exists_ticket?_of_outcome? h
  obtain ⟨t', ht', hkept⟩ := exists_ticket?_append (P := fun _ t => t.outcome = some outcome) ht
    hover (fun steps s t _ _ hover => by
      rwa [(Ticket.turn_react s t).eq_of_ended (Ticket.stage_of_outcome hover)]) more
  rw [outcome?_of_ticket? ht', hkept]

/-- What a response makes of the request that it is for. -/
theorem Answers.react {c : Client} {seq : Nat} {text : String} {response : ResponseMessage}
    (h : c.Answers seq text response) {t : Ticket} (ht : c.ticket? seq = some t) :
    t.isTabled ∧ t.react c.ended (.heard text) =
      { t with stage := t.stage.onSlot fun _ => .answered response } := by
  have htabled : t.isTabled := by
    rw [← isPending_of_ticket? ht]
    exact h.pending
  have hseq : response.requestSeq.toInt = t.seq := by rw [h.addressed, seq_of_ticket? ht]
  refine ⟨htabled, ?_⟩
  rw [Ticket.react, h.reading, h.heard, ← Ticket.answer_of_isTabled htabled hseq]
  rfl

/-- What the reader has taken out of the table it does not find there again. -/
theorem not_answers_of_isPending {pre earlier : List Step} {seq : Nat} {other : String}
    (hpending : (run pre).isPending seq) (h : earlier ++ [.heard other] <+: pre)
    (reply : ResponseMessage) : ¬ (run earlier).Answers seq other reply := by
  intro hanswers
  obtain ⟨t, ht, -⟩ := exists_ticket?_of_isPending hanswers.pending
  obtain ⟨htabled, hreact⟩ := hanswers.react ht
  obtain ⟨more, rfl⟩ := h
  have hne : Slot.answered reply ≠ .tabled := by
    intro h
    cases h
  have hleft : (t.react (run earlier).ended (.heard other)).HasLeft := by
    rw [hreact]
    rcases Ticket.stage_of_isTabled htabled with hstage | hstage <;>
      rw [Ticket.HasLeft, hstage] <;> exact hne
  have hafter := ticket?_step_of_some ht (.heard other)
  rw [← run_concat] at hafter
  -- It cannot be in the table at `pre`, since no request comes back there.
  obtain ⟨t', ht', hkept⟩ := exists_ticket?_append (P := fun _ t => t.HasLeft) hafter hleft
    (fun steps s t _ _ hleft => (Ticket.turn_react s t).hasLeft hleft) more
  rw [isPending_of_ticket? ht'] at hpending
  exact hkept.not_isTabled hpending

/-- What was left for a request was left by an occurrence. -/
def IsKept (steps : List Step) (seq : Nat) : Slot → Prop
  | .tabled => True
  | .answered response => ∃ pre text, pre ++ [.heard text] <+: steps ∧
      (run pre).Answers seq text response
  | .dropped => ∃ pre, pre ++ [.streamEnded] <+: steps ∧ (run pre).ended = false ∧
      (run pre).isPending seq

/-- Everything about a request was brought about by an occurrence. -/
def IsTraced (steps : List Step) (t : Ticket) : Prop :=
  match t.stage with
  | .numbered => True
  | .entered slot => IsKept steps t.seq slot
  | .written slot => IsKept steps t.seq slot
  | .ended outcome => Origin steps t.seq t.command outcome

section Mono

variable {steps later : List Step} (hlater : steps <+: later)

include hlater

/-- What was kept was kept by then. -/
theorem IsKept.mono {seq : Nat} {slot : Slot} (h : IsKept steps seq slot) :
    IsKept later seq slot := by
  cases slot with
  | tabled => exact trivial
  | answered response =>
    obtain ⟨pre, text, hpre, hanswers⟩ := h
    exact ⟨pre, text, hpre.trans hlater, hanswers⟩
  | dropped =>
    obtain ⟨pre, hpre, hreading, hpending⟩ := h
    exact ⟨pre, hpre.trans hlater, hreading, hpending⟩

/-- What an outcome comes from has happened for good. -/
theorem Origin.mono {seq : Nat} {command : String} {outcome : Except Error Json}
    (h : Origin steps seq command outcome) : Origin later seq command outcome := by
  cases h with
  | response hpre hanswers hfirst => exact .response (hpre.trans hlater) hanswers hfirst
  | timeout hpre hpending => exact .timeout (hpre.trans hlater) hpending
  | unwritable hpre hunwritten => exact .unwritable (hpre.trans hlater) hunwritten
  | crash hpre hreading hpending => exact .crash (hpre.trans hlater) hreading hpending

/-- So has all that a ticket is traced to. -/
theorem IsTraced.mono {t : Ticket} (h : IsTraced steps t) : IsTraced later t := by
  unfold IsTraced at h ⊢
  split <;> rename_i hstage <;> rw [hstage] at h
  · exact trivial
  · exact IsKept.mono hlater h
  · exact IsKept.mono hlater h
  · exact Origin.mono hlater h

end Mono

/-- A written request ends by what was left for it. -/
theorem IsKept.origin {steps : List Step} {seq : Nat} {command : String} {slot : Slot}
    (h : IsKept steps seq slot) {outcome : Except Error Json}
    (hslot : slot.result? command = some outcome) : Origin steps seq command outcome := by
  cases slot with
  | tabled => cases hslot
  | answered response =>
    obtain ⟨pre, text, hpre, hanswers⟩ := h
    obtain rfl := Option.some.inj hslot
    exact .response hpre hanswers fun earlier other reply hearlier =>
      not_answers_of_isPending hanswers.pending hearlier reply
  | dropped =>
    obtain ⟨pre, hpre, hreading, hpending⟩ := h
    obtain rfl := Option.some.inj hslot
    exact .crash hpre hreading hpending

/-- A ticket that is traced stays so in every step. -/
theorem IsTraced.step {steps : List Step} {seq : Nat} {t : Ticket}
    (ht : (run steps).ticket? seq = some t) (h : IsTraced steps t) (s : Step) :
    IsTraced (steps ++ [s]) (t.react (run steps).ended s) := by
  obtain rfl := seq_of_ticket? ht
  have hturn : Ticket.Turn (run steps).ended s t (t.react (run steps).ended s) :=
    Ticket.turn_react s t
  generalize t.react (run steps).ended s = t' at hturn
  -- what has happened for good is not undone by one step more
  have hlater : steps <+: steps ++ [s] := List.prefix_append _ _
  cases hturn with
  | idle => exact IsTraced.mono hlater h
  | enters => exact trivial
  | writes _ hstage =>
    rw [IsTraced, hstage] at h
    exact IsKept.mono hlater h
  | refused hs hstage =>
    subst hs
    refine .unwritable (List.prefix_refl _) ?_
    rw [isWritten_of_ticket? ht, Ticket.isWritten, hstage]
  | @answered text response hs hended htext hseq htabled =>
    have hkept : IsKept (steps ++ [s]) t.seq (.answered response) :=
      ⟨steps, text, hs ▸ List.prefix_refl _, hended, by rwa [isPending_of_ticket? ht], htext, hseq⟩
    rcases Ticket.stage_of_isTabled htabled with hstage | hstage <;> rw [IsTraced, hstage] <;>
      exact hkept
  | dropped hs hended htabled =>
    have hkept : IsKept (steps ++ [s]) t.seq .dropped :=
      ⟨steps, hs ▸ List.prefix_refl _, hended, by rwa [isPending_of_ticket? ht]⟩
    rcases Ticket.stage_of_isTabled htabled with hstage | hstage <;> rw [IsTraced, hstage] <;>
      exact hkept
  | expired hs hstage =>
    subst hs
    refine .timeout (List.prefix_refl _) ?_
    rw [isPending_of_ticket? ht, Ticket.isTabled, hstage]
  | finished _ hstage hslot =>
    rw [IsTraced, hstage] at h
    exact Origin.mono hlater (IsKept.origin h hslot)

/-- **In every run each ticket is traced** to what has happened to it. -/
theorem isTraced_run (steps : List Step) {seq : Nat} {t : Ticket}
    (ht : (run steps).ticket? seq = some t) : IsTraced steps t := by
  induction steps using List.reverseRecOn generalizing t with
  | nil => cases ht
  | append_singleton steps s ih =>
    rw [run_concat] at ht
    cases hbefore : (run steps).ticket? seq with
    | some before =>
      rw [ticket?_step_of_some hbefore s] at ht
      obtain rfl := Option.some.inj ht
      exact IsTraced.step hbefore (ih hbefore) s
    | none =>
      -- It has just got its number.
      rw [ticket?_step, hbefore, newcomer?] at ht
      obtain ⟨command, -, rfl⟩ := Option.map_eq_some_iff.1
        (Option.mem_toList.1 (List.mem_of_find?_eq_some ht))
      exact trivial

/-- Where a request can stand for which something was left by the last of the occurrences
`settled`. -/
inductive IsBound (settled steps : List Step) (slot : Slot) (outcome : Except Error Json)
    (t : Ticket) : Prop
  | entered (h : t.stage = .entered slot) (hunwritten : (run settled).isWritten t.seq = false)
  | written (h : t.stage = .written slot)
  | ended (h : t.stage = .ended outcome)
  | refused {later : List Step} {reason : String}
      (hunwritten : (run settled).isWritten t.seq = false) (hsettled : settled <+: later)
      (hlater : later ++ [.unwritable t.seq reason] <+: steps)
      (h : t.stage = .ended (.error (.inputOutput reason)))

/-- A slot that has its outcome is bound to it. -/
theorem IsBound.step {settled steps : List Step} {slot : Slot} {outcome : Except Error Json}
    {t : Ticket} (hslot : slot.result? t.command = some outcome) (hbase : settled <+: steps)
    (h : IsBound settled steps slot outcome t) (ended : Bool) (s : Step) :
    IsBound settled (steps ++ [s]) slot outcome (t.react ended s) := by
  have hturn : Ticket.Turn ended s t (t.react ended s) := Ticket.turn_react s t
  have hne : slot ≠ .tabled := by
    rintro rfl
    cases hslot
  generalize t.react ended s = t' at hturn
  -- The reader and the clock find nothing in the table; what is left to the request itself is to be
  -- written, to fail at that, or to end.
  cases h with
  | ended hstage =>
    rw [hturn.eq_of_ended hstage]
    exact .ended hstage
  | refused hunwritten hsettled hlater hstage =>
    rw [hturn.eq_of_ended hstage]
    exact .refused hunwritten hsettled (hlater.trans (List.prefix_append _ _)) hstage
  | entered hstage hunwritten =>
    have hleft : t.HasLeft := by rwa [Ticket.HasLeft, hstage]
    cases hturn with
    | idle => exact .entered hstage hunwritten
    | writes _ hother =>
      cases hstage.symm.trans hother
      exact .written rfl
    | refused hs => exact .refused hunwritten hbase (hs ▸ List.prefix_refl _) rfl
    | answered _ _ _ _ htabled | dropped _ _ htabled => exact absurd htabled hleft.not_isTabled
    | enters _ hother | expired _ hother | finished _ hother => cases hstage.symm.trans hother
  | written hstage =>
    have hleft : t.HasLeft := by rwa [Ticket.HasLeft, hstage]
    cases hturn with
    | idle => exact .written hstage
    | finished _ hother hresult =>
      cases hstage.symm.trans hother
      exact .ended (congrArg Ticket.Stage.ended (Option.some.inj (hresult.symm.trans hslot)))
    | answered _ _ _ _ htabled | dropped _ _ htabled => exact absurd htabled hleft.not_isTabled
    | expired _ hother =>
      cases hstage.symm.trans hother
      exact absurd rfl hne
    | enters _ hother | writes _ hother | refused _ hother => cases hstage.symm.trans hother

/-- What was left for a request decides how it ends. -/
theorem endsWith_of_result? {settled : List Step} {seq : Nat} {t : Ticket} {slot : Slot}
    {outcome : Except Error Json} (ht : (run settled).ticket? seq = some t)
    (hstage : t.stage = .entered slot ∨ t.stage = .written slot)
    (hslot : slot.result? t.command = some outcome) (more : List Step) :
    EndsWith seq outcome settled (settled ++ more) := by
  obtain rfl := seq_of_ticket? ht
  -- bound to the slot now, and therefore after any number of steps
  have hbound : IsBound settled settled slot outcome t := by
    rcases hstage with hstage | hstage
    · exact .entered hstage (by rw [isWritten_of_ticket? ht, Ticket.isWritten, hstage])
    · exact .written hstage
  obtain ⟨t', ht', hcommand, hbound'⟩ := exists_ticket?_append
    (P := fun steps t' => t'.command = t.command ∧ IsBound settled steps slot outcome t') ht
    ⟨rfl, hbound⟩ (fun steps s t' hbase _ h =>
      ⟨by rw [Ticket.command_react, h.1], h.2.step (by rwa [h.1]) hbase _ s⟩) more
  have hseq : t'.seq = t.seq := seq_of_ticket? ht'
  refine ⟨fun {ending} h => ?_, fun h => ?_⟩
  · rw [outcome?_of_ticket? ht'] at h
    have hover := Ticket.stage_of_outcome h
    cases hbound' with
    | entered hstage | written hstage => cases hstage.symm.trans hover
    | ended hstage => exact .inl (Ticket.Stage.ended.inj (hover.symm.trans hstage))
    | refused hunwritten hsettled hlater hstage =>
      rw [hseq] at hunwritten hlater
      have hending := Ticket.Stage.ended.inj (hover.symm.trans hstage)
      exact .inr ⟨hunwritten, _, _, hsettled, hlater, hending⟩
  · rw [isWritten_of_ticket? ht', Ticket.isWritten] at h
    have hwritten : t'.stage = .written slot := by
      cases hbound' with
      | written hstage => exact hstage
      | entered hstage | ended hstage | refused _ _ _ hstage => simp [hstage] at h
    rw [outcome?_of_ticket? (ticket?_step_of_some ht' _), Ticket.react, if_pos hseq,
      Ticket.finish_of_result? hwritten (by rwa [hcommand])]
    rfl

/-! ### Every run -/

/-- What requests, reader and clock owe each other, whatever order they take turns in. -/
structure Routed (steps : List Step) : Prop where
  /-- Requests have the numbers 1, 2, 3, … in the order in which they took them. -/
  numbers : (run steps).tickets.map (·.seq) = List.range' 1 (commands steps).length
  issued : (run steps).tickets.map (·.command) = commands steps
  /-- A request is over once. -/
  once {seq : Nat} {outcome : Except Error Json} (h : (run steps).outcome? seq = some outcome)
    (more : List Step) : (run (steps ++ more)).outcome? seq = some outcome
  /-- It ends with the first response that is read while it is in the table, or by its own time
  limit, its own write failure or the end of the stream. -/
  origin {seq : Nat} {t : Ticket} (ht : (run steps).ticket? seq = some t)
    {outcome : Except Error Json} (h : t.outcome = some outcome) :
    Origin steps seq t.command outcome
  /-- Nothing that is said to another request or befalls it matters. -/
  separate (seq : Nat) :
    (run steps).ticket? seq = (run (steps.filter (Step.concerns seq))).ticket? seq
  /-- Every event that is read before the stream ends is kept once, in order. -/
  events : (run steps).events = (texts steps).filterMap (Heard.ofText · |>.event?)
  /-- After so many messages of a stream these are the events among them, none behind the first
  error. -/
  wire {limit : Nat} {bytes : List UInt8} {count : Nat}
    (h : steps.filter Step.isReading = (readings (Frame.results limit bytes)).take count) :
    (run steps).events =
      ((messages (Frame.results limit bytes)).take count).filterMap (Heard.ofText · |>.event?)
  /-- A response to a request in the table is how it ends. -/
  answered {pre : List Step} {text : String} (hpre : pre ++ [.heard text] <+: steps) {seq : Nat}
    {response : ResponseMessage} (hanswers : (run pre).Answers seq text response) {t : Ticket}
    (ht : (run pre).ticket? seq = some t) :
    EndsWith seq (response.result t.command) (pre ++ [.heard text]) steps
  /-- When the stream ends every request in the table fails. -/
  crashed {pre : List Step} (hpre : pre ++ [.streamEnded] <+: steps)
    (hreading : (run pre).ended = false) {seq : Nat} (hpending : (run pre).isPending seq) :
    EndsWith seq (.error .adapterCrashed) (pre ++ [.streamEnded]) steps

/-- What the reader leaves for a request in the table is how it ends. -/
theorem endsWith_of_react {pre steps : List Step} {s : Step} (hpre : pre ++ [s] <+: steps)
    {seq : Nat} {t : Ticket} (ht : (run pre).ticket? seq = some t) (htabled : t.isTabled)
    {slot : Slot}
    (hreact : t.react (run pre).ended s = { t with stage := t.stage.onSlot fun _ => slot })
    {outcome : Except Error Json} (hslot : slot.result? t.command = some outcome) :
    EndsWith seq outcome (pre ++ [s]) steps := by
  obtain ⟨more, rfl⟩ := hpre
  have hafter := ticket?_step_of_some ht s
  rw [← run_concat, hreact] at hafter
  refine endsWith_of_result? hafter ?_ hslot more
  rcases Ticket.stage_of_isTabled htabled with hstage | hstage
  · exact .inl (by rw [hstage]; rfl)
  · exact .inr (by rw [hstage]; rfl)

/-- **The first response to a pending request is its outcome**, if it has one. -/
theorem endsWith_response {pre steps : List Step} {text : String}
    (hpre : pre ++ [.heard text] <+: steps) {seq : Nat} {response : ResponseMessage}
    (hanswers : (run pre).Answers seq text response) {t : Ticket}
    (ht : (run pre).ticket? seq = some t) :
    EndsWith seq (response.result t.command) (pre ++ [.heard text]) steps := by
  obtain ⟨htabled, hreact⟩ := hanswers.react ht
  exact endsWith_of_react hpre ht htabled hreact rfl

/-- A request that is pending when the stream ends has crashed, if it has an outcome. -/
theorem endsWith_adapterCrashed {pre steps : List Step} (hpre : pre ++ [.streamEnded] <+: steps)
    (hreading : (run pre).ended = false) {seq : Nat} (hpending : (run pre).isPending seq) :
    EndsWith seq (.error .adapterCrashed) (pre ++ [.streamEnded]) steps := by
  obtain ⟨t, ht, htabled⟩ := exists_ticket?_of_isPending hpending
  have hreact : t.react (run pre).ended .streamEnded =
      { t with stage := t.stage.onSlot fun _ => .dropped } := by
    rw [Ticket.react, hreading, ← Ticket.drop_of_isTabled htabled]
    rfl
  exact endsWith_of_react hpre ht htabled hreact rfl

/-- **Events are given out in the order of the wire**, each once. -/
theorem events_run (steps : List Step) :
    (run steps).events = (texts steps).filterMap (Heard.ofText · |>.event?) :=
  events_foldl steps {}

/-- **Which message ends which request**, for any number of requests in any order with whatever
the adapter writes. -/
theorem routed (steps : List Step) : Routed steps where
  numbers := numbers_run steps
  issued := commands_run steps
  once h more := outcome?_append h more
  origin ht _ h := by
    have htraced := isTraced_run steps ht
    rwa [IsTraced, Ticket.stage_of_outcome h, seq_of_ticket? ht] at htraced
  separate seq := (Agrees.foldl_filter ⟨rfl, rfl, rfl⟩ steps).ticket?
  events := events_run steps
  wire h := by rw [events_run, ← texts_filter, h, texts_readings]
  answered hpre _ _ hanswers _ ht := endsWith_response hpre hanswers ht
  crashed hpre hreading _ hpending := endsWith_adapterCrashed hpre hreading hpending

/-- **A request in the table need not fail with the end of the stream**: it may be that it cannot
be written. -/
theorem crash_not_always :
    ¬ ∀ (pre more : List Step) (seq : Nat) (outcome : Except Error Json),
      (run pre).ended = false → (run pre).isPending seq →
      (run (pre ++ .streamEnded :: more)).outcome? seq = some outcome →
        outcome = .error .adapterCrashed := by
  intro h
  cases h [.numbered "threads", .entered 1] [.unwritable 1 "Broken pipe (os error 32)"] 1 _
    rfl rfl rfl

/-- Two requests that cross: the second is answered, the first still waits when something comes that
is no message. -/
def crossing : List Step :=
  [ .numbered "threads", .numbered "pause", .entered 2, .entered 1, .written 1, .written 2,
    .heard ("\x7b\"seq\":1,\"type\":\"response\",\"request_seq\":2,\"success\":true," ++
      "\"command\":\"pause\"\x7d"),
    .heard "\x7b\"seq\":2,\"type\":\"event\",\"event\":\"initialized\"\x7d",
    .finished 2, .streamEnded, .expired 1 20 ]

/-- What the adapter wrote. -/
def crossingWire : List UInt8 :=
  (texts crossing).flatMap Frame.write ++ Utf8.encode "no message\n"

/-- A run it speaks of: the second request is answered and one event kept, the first fails. -/
theorem routed_crossing :
    ((run crossing).outcome? 2).any Except.isOk ∧ (run crossing).events.length = 1 ∧
      (run crossing).events =
        ((messages (Frame.results 3 crossingWire)).take 3).filterMap (Heard.ofText · |>.event?) ∧
      ((run crossing).step (.finished 1)).outcome? 1 = some (.error .adapterCrashed) := by
  refine ⟨by decide +kernel, by decide +kernel, ?_, ?_⟩
  · have hread : crossing.filter Step.isReading =
        (readings (Frame.results 3 crossingWire)).take 3 := by decide +kernel
    exact (routed crossing).wire hread
  · have hpre : crossing.take 9 ++ [.streamEnded] <+: crossing := by decide
    exact ((routed crossing).crashed hpre (by decide +kernel) (by decide +kernel)).finishes
      (by decide +kernel)

end Client
end DebugConsole
