/-
# What an occurrence makes of a request

A request gets a number, is entered into the table, is written and ends; meanwhile the reader
may answer it or take it out of the table.

| from | to | by |
| --- | --- | --- |
| numbered | entered, in the table | `entered` |
| entered | written | `written` |
| entered | ended: `inputOutput` | `unwritable` |
| written, in the table | ended: `timeout` | `expired` |
| written, answered or dropped | ended by that | `finished` |
| in the table | answered | `heard`, a response with its number |
| in the table | dropped | `streamEnded` |

The first five are its own occurrences.  `Ticket.Turn` is all that one occurrence can make of a
request, and `Client.tickets_step` what it makes of all of them.
-/

import DebugConsole.Wire.Client

namespace DebugConsole

open Protocol

/-- The event that the reader takes. -/
def Heard.event? (heard : Heard) : Option Event :=
  match heard with
  | .event e => some e
  | _ => none

/-! ### One request -/

namespace Ticket

/-- Does the request stand in the table? -/
def isTabled (t : Ticket) : Bool :=
  match t.stage with
  | .entered .tabled => true
  | .written .tabled => true
  | _ => false

/-- Was the request written, and is not over? -/
def isWritten (t : Ticket) : Bool :=
  match t.stage with
  | .written _ => true
  | _ => false

/-- What the reader makes of a request when it takes a message. -/
def hear (heard : Heard) (t : Ticket) : Ticket :=
  match heard with
  | .response response => t.answer response
  | _ => t

/-- What an occurrence makes of a request; `ended` tells whether the reader has stopped. -/
def react (ended : Bool) : Client.Step → Ticket → Ticket
  | .numbered _, t => t
  | .entered seq, t => if t.seq = seq then t.enter else t
  | .written seq, t => if t.seq = seq then t.write else t
  | .unwritable seq reason, t => if t.seq = seq then t.refuse reason else t
  | .heard text, t => if ended then t else t.hear (Heard.ofText text)
  | .streamEnded, t => if ended then t else t.drop
  | .expired seq seconds, t => if t.seq = seq then t.expire seconds else t
  | .finished seq, t => if t.seq = seq then t.finish else t

/-- **All that an occurrence can make of a request.** -/
inductive Turn (ended : Bool) (s : Client.Step) (t : Ticket) : Ticket → Prop
  | idle : Turn ended s t t
  | enters (hs : s = .entered t.seq) (hstage : t.stage = .numbered) :
    Turn ended s t { t with stage := .entered .tabled }
  | writes {slot : Slot} (hs : s = .written t.seq) (hstage : t.stage = .entered slot) :
    Turn ended s t { t with stage := .written slot }
  | refused {slot : Slot} {reason : String} (hs : s = .unwritable t.seq reason)
      (hstage : t.stage = .entered slot) :
    Turn ended s t { t with stage := .ended (.error (.inputOutput reason)) }
  | answered {text : String} {response : ResponseMessage} (hs : s = .heard text)
      (hended : ended = false) (htext : Heard.ofText text = .response response)
      (hseq : response.requestSeq.toInt = t.seq) (htabled : t.isTabled) :
    Turn ended s t { t with stage := t.stage.onSlot fun _ => .answered response }
  | dropped (hs : s = .streamEnded) (hended : ended = false) (htabled : t.isTabled) :
    Turn ended s t { t with stage := t.stage.onSlot fun _ => .dropped }
  | expired {seconds : Nat} (hs : s = .expired t.seq seconds)
      (hstage : t.stage = .written .tabled) :
    Turn ended s t { t with stage := .ended (.error (.timeout t.command seconds)) }
  | finished {slot : Slot} {outcome : Except Error Json} (hs : s = .finished t.seq)
      (hstage : t.stage = .written slot) (hslot : slot.result? t.command = some outcome) :
    Turn ended s t { t with stage := .ended outcome }

/-- A request in the table is being written or was written. -/
theorem stage_of_isTabled {t : Ticket} (h : t.isTabled) :
    t.stage = .entered .tabled ∨ t.stage = .written .tabled := by
  unfold isTabled at h
  split at h
  · exact .inl ‹_›
  · exact .inr ‹_›
  · cases h

/-- A ticket ends with what its slot holds. -/
theorem finish_of_result? {t : Ticket} {slot : Slot} (h : t.stage = .written slot)
    {outcome : Except Error Json} (hslot : slot.result? t.command = some outcome) :
    t.finish = { t with stage := .ended outcome } := by
  unfold finish
  rw [h]
  dsimp only
  rw [hslot]

/-- The reader keeps a response for a request in the table. -/
theorem answer_of_isTabled {t : Ticket} (h : t.isTabled) {response : ResponseMessage}
    (hseq : response.requestSeq.toInt = t.seq) :
    t.answer response = { t with stage := t.stage.onSlot fun _ => .answered response } := by
  rw [answer, if_pos hseq.symm]
  rcases stage_of_isTabled h with hstage | hstage <;> rw [hstage] <;> rfl

/-- At the end of the stream a request leaves the table. -/
theorem drop_of_isTabled {t : Ticket} (h : t.isTabled) :
    t.drop = { t with stage := t.stage.onSlot fun _ => .dropped } := by
  rw [drop]
  rcases stage_of_isTabled h with hstage | hstage <;> rw [hstage] <;> rfl

variable {ended : Bool}

/-- Entering is a turn. -/
theorem turn_enter (t : Ticket) : Turn ended (.entered t.seq) t t.enter := by
  unfold enter
  split
  · exact .enters rfl ‹_›
  · exact .idle

/-- So is being written. -/
theorem turn_write (t : Ticket) : Turn ended (.written t.seq) t t.write := by
  unfold write
  split
  · exact .writes rfl ‹_›
  · exact .idle

/-- So is a write that fails. -/
theorem turn_refuse (reason : String) (t : Ticket) :
    Turn ended (.unwritable t.seq reason) t (t.refuse reason) := by
  unfold refuse
  split
  · exact .refused rfl ‹_›
  · exact .idle

/-- So is running out of time. -/
theorem turn_expire (seconds : Nat) (t : Ticket) :
    Turn ended (.expired t.seq seconds) t (t.expire seconds) := by
  unfold expire
  split
  · exact .expired rfl ‹_›
  · exact .idle

/-- So is collecting the outcome. -/
theorem turn_finish (t : Ticket) : Turn ended (.finished t.seq) t t.finish := by
  unfold finish
  split
  · split
    · exact .finished rfl ‹_› ‹_›
    · exact .idle
  · exact .idle

/-- So is hearing a message, while the reader goes on. -/
theorem turn_hear (hended : ended = false) (text : String) (t : Ticket) :
    Turn ended (.heard text) t (t.hear (Heard.ofText text)) := by
  rcases htext : Heard.ofText text with response | _ | _
  case event => exact .idle
  case nothing => exact .idle
  rw [hear, answer]
  split
  · rename_i hseq
    rcases t with ⟨seq, command, _ | (_ | _ | _) | (_ | _ | _) | outcome⟩
    case entered.tabled => exact .answered rfl hended htext hseq.symm rfl
    case written.tabled => exact .answered rfl hended htext hseq.symm rfl
    all_goals exact .idle
  · exact .idle

/-- So is the end of the stream. -/
theorem turn_drop (hended : ended = false) (t : Ticket) : Turn ended .streamEnded t t.drop := by
  rcases t with ⟨seq, command, _ | (_ | _ | _) | (_ | _ | _) | outcome⟩
  case entered.tabled => exact .dropped rfl hended rfl
  case written.tabled => exact .dropped rfl hended rfl
  all_goals exact .idle

/-- What is done for one request changes no other. -/
theorem Turn.own {s : Client.Step} {seq : Nat} {f : Ticket → Ticket} {t : Ticket}
    (h : t.seq = seq → Turn ended s t (f t)) : Turn ended s t (if t.seq = seq then f t else t) := by
  split
  · exact h ‹_›
  · exact .idle

/-- **Whatever a ticket does in a step is one of its turns**. -/
theorem turn_react (s : Client.Step) (t : Ticket) : Turn ended s t (t.react ended s) := by
  cases s with
  | numbered command => exact .idle
  | entered seq => exact .own fun hseq => hseq ▸ turn_enter t
  | written seq => exact .own fun hseq => hseq ▸ turn_write t
  | unwritable seq reason => exact .own fun hseq => hseq ▸ turn_refuse reason t
  | expired seq seconds => exact .own fun hseq => hseq ▸ turn_expire seconds t
  | finished seq => exact .own fun hseq => hseq ▸ turn_finish t
  | heard text =>
    cases ended with
    | false => exact turn_hear rfl text t
    | true => exact .idle
  | streamEnded =>
    cases ended with
    | false => exact turn_drop rfl t
    | true => exact .idle

/-- A turn leaves the number alone. -/
theorem Turn.seq_eq {s : Client.Step} {t t' : Ticket} (h : Turn ended s t t') : t'.seq = t.seq := by
  cases h <;> rfl

/-- It leaves the command alone. -/
theorem Turn.command_eq {s : Client.Step} {t t' : Ticket} (h : Turn ended s t t') :
    t'.command = t.command := by
  cases h <;> rfl

/-- A ticket keeps its number in every step. -/
@[simp] theorem seq_react (ended : Bool) (s : Client.Step) (t : Ticket) :
    (t.react ended s).seq = t.seq := (turn_react s t).seq_eq

/-- A ticket keeps its command in every step. -/
@[simp] theorem command_react (ended : Bool) (s : Client.Step) (t : Ticket) :
    (t.react ended s).command = t.command := (turn_react s t).command_eq

/-- A request that was in the table and has left it. -/
def HasLeft (t : Ticket) : Prop :=
  match t.stage with
  | .numbered => False
  | .entered slot => slot ≠ .tabled
  | .written slot => slot ≠ .tabled
  | .ended _ => True

/-- A ticket that has left stands in the table no more. -/
theorem HasLeft.not_isTabled {t : Ticket} (h : t.HasLeft) : ¬ t.isTabled := by
  intro htabled
  rw [HasLeft] at h
  rcases stage_of_isTabled htabled with hstage | hstage <;> rw [hstage] at h <;> exact h rfl

/-- A request does not come back into the table. -/
theorem Turn.hasLeft {ended : Bool} {s : Client.Step} {t t' : Ticket} (h : Turn ended s t t')
    (hleft : t.HasLeft) : t'.HasLeft := by
  cases h with
  | idle => exact hleft
  | answered _ _ _ _ htabled | dropped _ _ htabled => exact absurd htabled hleft.not_isTabled
  | enters _ hstage =>
    rw [HasLeft, hstage] at hleft
    exact hleft.elim
  | writes _ hstage => rwa [HasLeft, hstage] at hleft
  | refused | expired | finished => exact trivial

/-- A request that is over is left alone. -/
theorem Turn.eq_of_ended {ended : Bool} {s : Client.Step} {t t' : Ticket} (h : Turn ended s t t')
    {outcome : Except Error Json} (hstage : t.stage = .ended outcome) : t' = t := by
  have hleft : t.HasLeft := by
    rw [HasLeft, hstage]
    exact trivial
  cases h with
  | idle => rfl
  | answered _ _ _ _ htabled | dropped _ _ htabled => exact absurd htabled hleft.not_isTabled
  | enters _ hother | writes _ hother | refused _ hother | expired _ hother
  | finished _ hother => cases hstage.symm.trans hother

/-- A ticket with an outcome has ended with it. -/
theorem stage_of_outcome {t : Ticket} {outcome : Except Error Json} (h : t.outcome = some outcome) :
    t.stage = .ended outcome := by
  rw [Ticket.outcome] at h
  split at h
  · rw [‹t.stage = _›, Option.some.inj h]
  · cases h

end Ticket

namespace Client

/-! ### One occurrence -/

namespace Step

/-- The command of a request that gets its number. -/
def command? : Step → Option String
  | .numbered command => some command
  | _ => none

/-- The message that the reader takes. -/
def text? : Step → Option String
  | .heard text => some text
  | _ => none

/-- Does the stream end? -/
def isEnd : Step → Bool
  | .streamEnded => true
  | _ => false

/-- Does the reader do something? -/
def isReading : Step → Bool
  | .heard _ => true
  | .streamEnded => true
  | _ => false

/-- Does an occurrence concern the request with a number?  Another's response, event, write
failure, time limit or end does not. -/
def concerns (seq : Nat) : Step → Bool
  | .numbered _ => true
  | .entered other => other = seq
  | .written other => other = seq
  | .unwritable other _ => other = seq
  | .heard text =>
    match Heard.ofText text with
    | .response response => response.requestSeq.toInt = seq
    | _ => false
  | .streamEnded => true
  | .expired other _ => other = seq
  | .finished other => other = seq

end Step

/-- The request that gets its number by an occurrence. -/
def newcomer? (s : Step) (c : Client) : Option Ticket :=
  s.command?.map fun command => { seq := c.nextSeq, command }

/-- A message reaches every ticket. -/
theorem tickets_hear (text : String) (c : Client) :
    (c.hear text).tickets = c.tickets.map (Ticket.react c.ended (.heard text)) := by
  rw [hear]
  cases c.ended with
  | true => exact (List.map_id' _).symm
  | false =>
    have hreact : Ticket.react false (.heard text) = Ticket.hear (Heard.ofText text) := rfl
    rw [hreact]
    cases Heard.ofText text with
    | response response => rfl
    | event event => exact (List.map_id' _).symm
    | nothing => exact (List.map_id' _).symm

/-- So does the end of the stream. -/
theorem tickets_endStream (c : Client) :
    c.endStream.tickets = c.tickets.map (Ticket.react c.ended .streamEnded) := by
  rw [endStream]
  cases c.ended with
  | true => exact (List.map_id' _).symm
  | false => rfl

/-- An occurrence does to every request what it does to it, and may add one. -/
theorem tickets_step (c : Client) (s : Step) :
    (c.step s).tickets = c.tickets.map (Ticket.react c.ended s) ++ (c.newcomer? s).toList := by
  cases s with
  | numbered command => exact congrArg (· ++ _) (List.map_id' _).symm
  | heard text => exact (tickets_hear text c).trans (List.append_nil _).symm
  | streamEnded => exact (tickets_endStream c).trans (List.append_nil _).symm
  | _ => exact (List.append_nil _).symm

/-- **In a step every ticket reacts by itself**, and a new call adds its own. -/
theorem ticket?_step (seq : Nat) (c : Client) (s : Step) :
    (c.step s).ticket? seq =
      ((c.ticket? seq).map (Ticket.react c.ended s)).or
        ((c.newcomer? s).toList.find? (·.seq = seq)) := by
  rw [ticket?, tickets_step, List.find?_append, List.find?_map, ticket?]
  congr 3
  funext t
  exact congrArg (fun number : Nat => decide (number = seq)) (Ticket.seq_react c.ended s t)

/-- Only a call takes a number. -/
theorem nextSeq_step (c : Client) (s : Step) :
    (c.step s).nextSeq = c.nextSeq + s.command?.toList.length := by
  cases s with
  | heard text =>
    rw [step, hear]
    cases c.ended <;> cases Heard.ofText text <;> rfl
  | streamEnded =>
    rw [step, endStream]
    cases c.ended <;> rfl
  | _ => rfl

/-- A reader that has ended stays so. -/
theorem ended_step (c : Client) (s : Step) : (c.step s).ended = (c.ended || s.isEnd) := by
  cases s with
  | heard text =>
    refine Eq.trans ?_ (Bool.or_false _).symm
    rw [step, hear]
    split
    · rfl
    · split <;> rfl
  | streamEnded =>
    refine Eq.trans ?_ (Bool.or_true _).symm
    rw [step, endStream]
    split <;> first | assumption | rfl
  | _ => exact (Bool.or_false _).symm

/-- What an occurrence adds to the events. -/
theorem events_step (c : Client) (s : Step) :
    (c.step s).events =
      c.events ++ if c.ended then [] else (s.text?.bind (Heard.ofText · |>.event?)).toList := by
  cases s with
  | heard text =>
    rw [step, hear, Step.text?, Option.bind_some]
    split
    · exact (List.append_nil _).symm
    · rcases Heard.ofText text with _ | _ | _ <;> first | rfl | exact (List.append_nil _).symm
  | streamEnded =>
    rw [step, endStream]
    cases c.ended <;> exact (List.append_nil _).symm
  | _ => cases c.ended <;> exact (List.append_nil _).symm

end Client
end DebugConsole
