/-
# The requests of a configuration

A configuration makes its requests in three stages, each on the newest connection:

| stage | requests | it fails |
| --- | --- | --- |
| breakpoints | `setBreakpoints` for each path with enabled ones, together | if one is refused |
| settings | `setExceptionBreakpoints`, perhaps `configurationDone` | at the first refusal |
| threads | `threads` | never |

A push whose answer cannot be read counts as refused.  Where one was answered with a wrong number
of descriptors, the first stage fails after its last request.  `configurationDone` is for adapters
that know it.

The pushes are sent in the order of the bytes of their paths, all of them before an answer is
awaited: a refusal keeps none of them back, unless its answer is there as soon as the push is sent,
and pushes that are not yet answered then are given up (`AtOnce`, `Run.pushes_past_refusal`).  The
settings are made one after the other, up to the first that is not answered (`InTurn`).
`Debugger.Configures` puts the stages together.
-/

import DebugConsole.Proofs.Agreement
import DebugConsole.Proofs.Listing
import DebugConsole.Proofs.Utf8

namespace DebugConsole

open Protocol

variable {σ : Type}

namespace Exchange

/-- Was a request answered, with descriptors if it is a push? -/
def isAnswered : Exchange → Bool
  | .request asked answer =>
    match asked.push? answer with
    | some push => push.isAnswered
    | none => answer.isOk
  | _ => false

/-- Was a request answered, with one descriptor for each line if it is a push? -/
def isAccepted (e : Exchange) : Bool :=
  match e.push? with
  | some push => push.accepted?.isSome
  | none => e.isAnswered

/-- A push without an answer has no descriptors. -/
theorem isAnswered_of_push?_error {asked : Request} {reason : Error} {push : Push}
    (h : asked.push? (.error reason) = some push) : push.isAnswered = false := by
  unfold Request.push? at h
  split at h
  · obtain ⟨args, -, h⟩ := Option.bind_eq_some_iff.1 h
    obtain ⟨path, -, h⟩ := Option.bind_eq_some_iff.1 h
    cases h
    rfl
  · cases h

/-- A push is answered if its exchange is. -/
theorem isAnswered_of_push? {e : Exchange} {push : Push} (h : e.push? = some push) :
    e.isAnswered = push.isAnswered := by
  cases e with
  | request asked answer =>
    have hpush : asked.push? answer = some push := h
    simp only [isAnswered, hpush]
  | abandoned asked reason => exact (isAnswered_of_push?_error h).symm
  | _ => cases h

/-- A request that is no push is answered unless it has failed. -/
theorem isAnswered_of_push?_eq_none {asked : Request} {answer : Except Error Json}
    (h : push? (.request asked answer) = none) :
    (Exchange.request asked answer).isAnswered = answer.isOk := by
  have hpush : asked.push? answer = none := h
  simp only [isAnswered, hpush]

/-- A push is accepted where its answer is. -/
theorem isAccepted_of_push? {e : Exchange} {push : Push} (h : e.push? = some push) :
    e.isAccepted = push.accepted?.isSome := by
  rw [isAccepted, h]

/-- What is accepted was answered. -/
theorem isAnswered_of_isAccepted {e : Exchange} (h : e.isAccepted) : e.isAnswered := by
  cases hpush : e.push? with
  | none => simpa [isAccepted, hpush] using h
  | some push =>
    rw [isAccepted_of_push? hpush] at h
    rw [isAnswered_of_push? hpush]
    exact Push.isAnswered_of_accepted h

end Exchange

/-- Requests were made in their order until one was not answered; were all of them answered? -/
inductive InTurn : List Request → List Exchange → Bool → Prop
  | done : InTurn [] [] true
  | refused {asked : Request} {rest : List Request} {answer : Except Error Json}
      (refusal : (Exchange.request asked answer).isAnswered = false) :
      InTurn (asked :: rest) [.request asked answer] false
  | next {asked : Request} {rest : List Request} {answer : Except Error Json}
      {exchanges : List Exchange} {complete : Bool}
      (answered : (Exchange.request asked answer).isAnswered)
      (others : InTurn rest exchanges complete) :
      InTurn (asked :: rest) (.request asked answer :: exchanges) complete

/-- A request was made and has not failed: it was answered, or given up for a reason. -/
inductive Exchange.Spares (reason : Error) (asked : Request) : Exchange → Prop
  | answered {answer : Except Error Json} (h : (Exchange.request asked answer).isAnswered) :
      Spares reason asked (.request asked answer)
  | abandoned : Spares reason asked (.abandoned asked reason)

/-- Requests were made together; were all of them answered?  Where one was not, the others were
answered or given up, and all were made unless its answer was at hand: then it is the last. -/
inductive AtOnce (atHand : Request → Except Error Json → Prop) (requests : List Request) :
    List Exchange → Bool → Prop
  | answered {exchanges : List Exchange} (all : List.Forall₂ (fun asked e =>
      ∃ answer, e = .request asked answer ∧ e.isAnswered) requests exchanges) :
      AtOnce atHand requests exchanges true
  | refused {earlier later unsent : List Request} {asked : Request} {answer : Except Error Json}
      {before after : List Exchange} {reason : Error}
      (refusal : (Exchange.request asked answer).isAnswered = false)
      (spared : List.Forall₂ (Exchange.Spares reason) earlier before)
      (others : List.Forall₂ (Exchange.Spares reason) later after)
      (made : earlier ++ asked :: later ++ unsent = requests)
      (last : unsent = [] ∨ later = [] ∧ atHand asked answer) :
      AtOnce atHand requests (before ++ .request asked answer :: after) false

namespace InTurn

variable {requests : List Request} {exchanges : List Exchange} {complete : Bool}

/-- Nothing is asked but the requests. -/
theorem exists_request (h : InTurn requests exchanges complete) {e : Exchange}
    (he : e ∈ exchanges) : ∃ asked ∈ requests, ∃ answer, e = .request asked answer := by
  induction h with
  | done => cases he
  | @refused asked _ answer _ =>
    exact ⟨asked, List.mem_cons_self, answer, List.mem_singleton.1 he⟩
  | @next asked _ answer _ _ _ _ ih =>
    rcases List.mem_cons.1 he with rfl | he
    · exact ⟨asked, List.mem_cons_self, answer, rfl⟩
    · obtain ⟨other, hother, heq⟩ := ih he
      exact ⟨other, List.mem_cons_of_mem _ hother, heq⟩

/-- All requests were answered just if none of them was not. -/
theorem complete_iff (h : InTurn requests exchanges complete) :
    complete = true ↔ ∀ e ∈ exchanges, e.isAnswered := by
  induction h with
  | done => simp
  | refused refusal => simp [refusal]
  | next answered _ ih => simp [answered, ih]

/-- What was asked is one of the requests. -/
theorem mem_requests (h : InTurn requests exchanges complete) {asked : Request}
    {answer : Except Error Json} (hmem : Exchange.request asked answer ∈ exchanges) :
    asked ∈ requests := by
  obtain ⟨other, hother, _, heq⟩ := h.exists_request hmem
  exact (Exchange.request.inj heq).1 ▸ hother

end InTurn

namespace AtOnce

variable {atHand : Request → Except Error Json → Prop} {requests : List Request}
  {exchanges : List Exchange} {complete : Bool}

/-- The requests are made in their order; the last ones may be missing. -/
theorem forall₂_asked (h : AtOnce atHand requests exchanges complete) : ∃ made, made <+: requests ∧
    (complete = true → made = requests) ∧ List.Forall₂ (fun asked e =>
      (∃ answer, e = .request asked answer) ∨ ∃ reason, e = .abandoned asked reason)
        made exchanges := by
  have hspared {reason : Error} {asked : Request} {e : Exchange}
      (hspares : Exchange.Spares reason asked e) :
      (∃ answer, e = .request asked answer) ∨ ∃ reason, e = .abandoned asked reason := by
    cases hspares with
    | answered h => exact .inl ⟨_, rfl⟩
    | abandoned => exact .inr ⟨reason, rfl⟩
  cases h with
  | answered all =>
    exact ⟨requests, List.prefix_refl _, fun _ => rfl, all.imp fun _ _ ⟨answer, heq, _⟩ =>
      .inl ⟨answer, heq⟩⟩
  | @refused earlier later unsent asked answer before after reason refusal spared others made =>
    exact ⟨earlier ++ asked :: later, made ▸ List.prefix_append _ _, nofun,
      List.rel_append (spared.imp fun _ _ => hspared)
        (.cons (.inl ⟨answer, rfl⟩) (others.imp fun _ _ => hspared))⟩

/-- All requests were answered just if none of them was not. -/
theorem complete_iff (h : AtOnce atHand requests exchanges complete) :
    complete = true ↔ ∀ e ∈ exchanges, e.isAnswered := by
  cases h with
  | answered all =>
    refine iff_of_true rfl fun e he => ?_
    induction all with
    | nil => cases he
    | cons hfirst _ ih =>
      rcases List.mem_cons.1 he with rfl | he
      · exact hfirst.elim fun _ => And.right
      · exact ih he
  | refused refusal =>
    refine iff_of_false Bool.false_ne_true fun hall => Bool.false_ne_true ?_
    exact refusal.symm.trans (hall _ (List.mem_append_right _ List.mem_cons_self))

/-- Nothing is asked but the requests. -/
theorem mem_requests (h : AtOnce atHand requests exchanges complete) {asked : Request}
    {answer : Except Error Json} (hmem : Exchange.request asked answer ∈ exchanges) :
    asked ∈ requests := by
  obtain ⟨made, hinitial, -, hasked⟩ := h.forall₂_asked
  refine hinitial.subset ?_
  clear hinitial h
  induction hasked with
  | nil => cases hmem
  | cons hfirst _ ih =>
    rcases List.mem_cons.1 hmem with heq | hmem
    · rcases hfirst with ⟨_, hrequest⟩ | ⟨_, habandoned⟩
      · obtain ⟨rfl, -⟩ := Exchange.request.inj (heq.trans hrequest)
        exact List.mem_cons_self
      · cases heq.trans habandoned
    · exact List.mem_cons_of_mem _ (ih hmem)

end AtOnce

namespace Debugger

/-- The request that replaces the breakpoints of a path by those that are enabled. -/
def pushRequest (d : Debugger σ) (path : String) : Request :=
  (Call.setBreakpoints { source := .ofPath path, breakpoints :=
    (d.breakpoints.enabledLines path).map ({ line := · }) }).on d.generation

/-- The paths with enabled breakpoints. -/
def enabledPaths (d : Debugger σ) : List String := d.breakpoints.enabledByPath.map (·.1)

/-- The requests for breakpoints, path by path. -/
def pushRequests (d : Debugger σ) : List Request := d.enabledPaths.map d.pushRequest

/-- The requests that follow those for breakpoints. -/
def settingRequests (d : Debugger σ) : List Request :=
  (Call.setExceptionBreakpoints { filters := [] }).on d.generation ::
    if d.capabilities.configurationDoneRequest then [Call.configurationDone.on d.generation] else []

/-- The request that parts from the adapter; a program that was launched ends with it. -/
def partingRequest (d : Debugger σ) : Request :=
  (Call.disconnect { restart := false, terminateDebuggee := some d.launches }).on d.generation

/-- What a configuration asks, oldest first, and whether it succeeds. -/
inductive Configures [Environment σ] (d : Debugger σ) : List Exchange → Bool → Prop
  | unanswered {pushed : List Exchange}
      (pushes : AtOnce (Environment.AtHand σ) d.pushRequests pushed false) :
      Configures d pushed false
  | miscounted {pushed : List Exchange}
      (pushes : AtOnce (Environment.AtHand σ) d.pushRequests pushed true)
      (miscount : ¬∀ e ∈ pushed, e.isAccepted) : Configures d pushed false
  | unsettled {pushed settled : List Exchange}
      (pushes : AtOnce (Environment.AtHand σ) d.pushRequests pushed true)
      (accepted : ∀ e ∈ pushed, e.isAccepted)
      (settings : InTurn d.settingRequests settled false) :
      Configures d (pushed ++ settled) false
  | complete {pushed settled : List Exchange}
      (pushes : AtOnce (Environment.AtHand σ) d.pushRequests pushed true)
      (accepted : ∀ e ∈ pushed, e.isAccepted)
      (settings : InTurn d.settingRequests settled true) (threads : Except Error Json) :
      Configures d
        (pushed ++ settled ++ [.request (Call.threads.on d.generation) threads]) true

end Debugger

/-! ### Together, and one after the other -/

/-- A call succeeds just if its request is answered. -/
def Protocol.Call.IsJudged {α : Type} (call : Call α) : Prop :=
  ∀ connection answer,
    (Exchange.request (call.on connection) answer).isAnswered = (call.result answer).isOk

/-- A call whose answer says nothing succeeds just if there is one. -/
theorem Protocol.Call.isJudged_acknowledged {command : String} (h : command ≠ "setBreakpoints")
    (arguments : Option Json) : (Call.acknowledged command arguments).IsJudged :=
  fun connection answer => by
    rw [Exchange.isAnswered_of_push?_eq_none (Exchange.push?_of_command_ne h answer)]
    cases answer <;> rfl

/-- A push succeeds just if its answer is read as descriptors. -/
theorem Protocol.Call.isJudged_setBreakpoints (bs : Breakpoints) (path : String) :
    (Call.setBreakpoints (bs.argumentsFor path)).IsJudged := fun connection answer =>
  Exchange.isAnswered_of_push? (Exchange.push?_argumentsFor bs path connection answer)

/-- Where all calls have succeeded, all requests were answered. -/
theorem Answered.forall₂_isAnswered {α : Type} {connection : Nat} {calls : List (Call α)}
    {exchanges : List Exchange} {values : List α} (h : Answered connection calls exchanges values)
    (hjudged : ∀ call ∈ calls, call.IsJudged) :
    List.Forall₂ (fun asked e => ∃ answer, e = .request asked answer ∧ e.isAnswered)
      (calls.map (·.on connection)) exchanges := by
  induction h with
  | nil => exact .nil
  | @cons call answer value calls exchanges values success others ih =>
    obtain ⟨hcall, hcalls⟩ := List.forall_mem_cons.1 hjudged
    refine .cons ⟨answer, rfl, ?_⟩ (ih hcalls)
    rw [hcall connection answer, success]
    rfl

/-- Calls that were spared are requests that were. -/
theorem forall₂_spares {α : Type} {connection : Nat} {reason : Error} {calls : List (Call α)}
    {exchanges : List Exchange} (h : List.Forall₂ (Spared connection reason) calls exchanges)
    (hjudged : ∀ call ∈ calls, call.IsJudged) :
    List.Forall₂ (Exchange.Spares reason) (calls.map (·.on connection)) exchanges := by
  induction h with
  | nil => exact .nil
  | cons hspared _ ih =>
    obtain ⟨hcall, hcalls⟩ := List.forall_mem_cons.1 hjudged
    refine .cons ?_ (ih hcalls)
    cases hspared with
    | @answered answer value success =>
      refine .answered ?_
      rw [hcall connection answer, success]
      rfl
    | abandoned => exact .abandoned

/-- Calls that are made together are requests that are. -/
theorem Together.atOnce {α : Type} {atHand : Request → Except Error Json → Prop}
    {connection : Nat} {calls : List (Call α)} {asked : List Exchange}
    {result : Except Error (List α)} (h : Together atHand connection calls asked result)
    (hjudged : ∀ call ∈ calls, call.IsJudged) :
    AtOnce atHand (calls.map (·.on connection)) asked result.isOk := by
  cases h with
  | answered all => exact .answered (all.forall₂_isAnswered hjudged)
  | @failed earlier later unsent call before after answer e failure spared others last =>
    have hcall : call.IsJudged := hjudged call (by simp)
    have hearlier := forall₂_spares spared fun c hc => hjudged c (by simp [hc])
    have hlater := forall₂_spares others fun c hc => hjudged c (by simp [hc])
    have hlast : unsent.map (·.on connection) = [] ∨
        later.map (·.on connection) = [] ∧ atHand (call.on connection) answer :=
      last.imp (fun h => by rw [h]; rfl) fun ⟨hnone, hhand⟩ => ⟨by rw [hnone]; rfl, hhand⟩
    refine .refused ?_ hearlier hlater (by simp) hlast
    rw [hcall connection answer, failure]
    rfl

variable [Environment σ]

namespace Action

/-- Makes calls one after the other; the first failure ends it. -/
def sendEach {α : Type} : List (Call α) → Action σ (List α)
  | [] => return []
  | call :: rest => do
    let answer ← send call
    return answer :: (← sendEach rest)

/-- A call puts one request on record, and succeeds just if that is answered. -/
theorem send_asks {α : Type} {call : Call α} (h : call.IsJudged) (d : Debugger σ) :
    ∃ answer, (send call d).2.exchanges =
        .request (call.on d.generation) answer :: d.exchanges ∧
      (Exchange.request (call.on d.generation) answer).isAnswered = (send call d).1.isOk :=
  ⟨_, rfl, h d.generation _⟩

/-- Calls that are made one after the other put requests on record up to the first that is not
answered. -/
theorem sendEach_asks {α : Type} {calls : List (Call α)} (h : ∀ call ∈ calls, call.IsJudged)
    (d : Debugger σ) : ∃ asked, (sendEach calls d).2.exchanges = asked.reverse ++ d.exchanges ∧
      InTurn (calls.map (·.on d.generation)) asked (sendEach calls d).1.isOk := by
  induction calls generalizing d with
  | nil => exact ⟨[], rfl, .done⟩
  | cons call rest ih =>
    obtain ⟨hcall, hrest⟩ := List.forall_mem_cons.1 h
    obtain ⟨answer, hexchanges, hanswered⟩ := send_asks hcall d
    have hgeneration : (send call d).2.generation = d.generation := rfl
    rw [List.map_cons, sendEach, bind_apply]
    rcases hsend : send call d with ⟨e | value, d₁⟩
    · rw [hsend] at hexchanges hanswered
      exact ⟨[.request (call.on d.generation) answer], hexchanges, .refused hanswered⟩
    · rw [hsend] at hexchanges hanswered hgeneration
      obtain ⟨asked, hasked, hturn⟩ := ih hrest d₁
      dsimp only at hexchanges hanswered hgeneration ⊢
      rw [hgeneration] at hturn
      rw [bind_apply]
      refine ⟨.request (call.on d.generation) answer :: asked, ?_, ?_⟩
      · rw [List.reverse_cons, List.append_assoc, List.singleton_append, ← hexchanges, ← hasked]
        rcases sendEach rest d₁ with ⟨_ | _, _⟩ <;> rfl
      · refine .next hanswered ?_
        rcases hothers : sendEach rest d₁ with ⟨_ | _, _⟩ <;> rw [hothers] at hturn <;> exact hturn

/-- What respects every call respects calls that are made one after the other. -/
theorem within_sendEach {α : Type} {R : Debugger σ → Debugger σ → Prop}
    [IsPreorder (Debugger σ) R] {calls : List (Call α)}
    (h : ∀ call ∈ calls, Within R (send call : Action σ α)) :
    Within R (sendEach calls : Action σ (List α)) := by
  induction calls with
  | nil => exact within_pure _
  | cons call rest ih =>
    obtain ⟨hcall, hrest⟩ := List.forall_mem_cons.1 h
    exact within_bind hcall fun _ => within_bind (ih hrest) fun _ => within_pure _

/-- Calls that are made together are on record in their order. -/
theorem sendAll_asks {α : Type} {calls : List (Call α)} (h : ∀ call ∈ calls, call.IsJudged)
    (d : Debugger σ) : ∃ asked, (sendAll calls d).2.exchanges = asked.reverse ++ d.exchanges ∧
      AtOnce (Environment.AtHand σ) (calls.map (·.on d.generation)) asked
        (sendAll calls d).1.isOk := by
  obtain ⟨environment, session, asked, result, -, -, htogether, heq⟩ := sendAll_apply calls d
  rw [heq]
  exact ⟨asked, rfl, htogether.atOnce h⟩

end Action

namespace Debugger

/-! ### The breakpoints -/

omit [Environment σ] in
/-- Under a right index the request of a path is what is sent for it. -/
theorem on_argumentsFor {d : Debugger σ} (hwf : d.breakpoints.WellFormed) (path : String) :
    (Call.setBreakpoints (d.breakpoints.argumentsFor path)).on d.generation =
      d.pushRequest path := by
  rw [pushRequest, ← hwf.map_line_enabledFor, List.map_map]
  rfl

omit [Environment σ] in
/-- The request for a path is a push of that path. -/
theorem push?_pushRequest {d : Debugger σ} (hwf : d.breakpoints.WellFormed) (path : String)
    (answer : Except Error Json) :
    ∃ push, (Exchange.request (d.pushRequest path) answer).push? = some push ∧
      push.path = path := by
  rw [← on_argumentsFor hwf]
  exact ⟨_, Exchange.push?_argumentsFor d.breakpoints path d.generation answer, rfl⟩

omit [Environment σ] in
/-- Nothing is asked where answers are taken over. -/
theorem reconcileAll_exchanges (entries : List ((String × List Nat) × List Descriptor))
    (d : Debugger σ) : (reconcileAll entries d).2.exchanges = d.exchanges := by
  induction entries generalizing d with
  | nil => rfl
  | cons entry rest ih =>
    obtain ⟨⟨path, indices⟩, descriptors⟩ := entry
    simp only [reconcileAll, Action.bind_apply, reconcile_apply]
    cases d.breakpoints.reconcile path indices descriptors with
    | error e => rfl
    | ok breakpoints => exact ih { d with breakpoints }

omit [Environment σ] in
/-- The pushes that were made together, read off their requests. -/
theorem filterMap_push? {d : Debugger σ} (hwf : d.breakpoints.WellFormed)
    {atHand : Request → Except Error Json → Prop} {paths : List String} {asked : List Exchange}
    {complete : Bool} (h : AtOnce atHand (paths.map d.pushRequest) asked complete) :
    (∀ e ∈ asked, ∃ push, e.push? = some push) ∧
      (complete = true → (asked.filterMap Exchange.push?).map (·.path) = paths) := by
  obtain ⟨made, hinitial, hall, hasked⟩ := h.forall₂_asked
  obtain ⟨part, hpart, rfl⟩ := List.prefix_map_iff.1 hinitial
  obtain ⟨hpushes, hpaths⟩ : (∀ e ∈ asked, ∃ push, e.push? = some push) ∧
      (asked.filterMap Exchange.push?).map (·.path) = part := by
    clear hall hinitial hpart h
    generalize hrequests : part.map d.pushRequest = requests at hasked
    induction hasked generalizing part with
    | nil => exact ⟨nofun, (List.map_eq_nil_iff.1 hrequests).symm⟩
    | @cons asked e rest others hfirst _ ih =>
      obtain ⟨path, paths, rfl, rfl, hrest⟩ := List.map_eq_cons_iff.1 hrequests
      obtain ⟨push, hpush, hpath⟩ : ∃ push, e.push? = some push ∧ push.path = path := by
        rcases hfirst with ⟨answer, rfl⟩ | ⟨reason, rfl⟩
        · exact push?_pushRequest hwf path answer
        · exact push?_pushRequest hwf path (.error reason)
      obtain ⟨hpushes, hpaths⟩ := ih paths hrest
      refine ⟨List.forall_mem_cons.2 ⟨⟨push, hpush⟩, hpushes⟩, ?_⟩
      rw [List.filterMap_cons_some hpush, List.map_cons, hpath, hpaths]
  refine ⟨hpushes, fun hcomplete => hpaths.trans (hpart.eq_of_length ?_)⟩
  simpa using congrArg List.length (hall hcomplete)

/-- **Pushing all paths asks for them together**, and succeeds just if all answers are accepted. -/
theorem pushAllPaths_asks {d : Debugger σ} (hwf : d.breakpoints.WellFormed) :
    ∃ asked answered, (pushAllPaths d).2.exchanges = asked.reverse ++ d.exchanges ∧
      AtOnce (Environment.AtHand σ) d.pushRequests asked answered ∧
      ((pushAllPaths d).1 = .ok () ↔ answered = true ∧ ∀ e ∈ asked, e.isAccepted) := by
  have hcalls : (d.breakpoints.enabledByPath.map fun group =>
      Call.setBreakpoints (d.breakpoints.argumentsFor group.1)).map (·.on d.generation) =
        d.pushRequests := by
    rw [map_setBreakpoints_enabledByPath, pushRequests, enabledPaths, List.map_map]
    exact List.map_congr_left fun path _ => on_argumentsFor hwf path
  obtain ⟨asked, hasked, hturn⟩ := Action.sendAll_asks (List.forall_mem_map.2 fun group
    (_ : group ∈ d.breakpoints.enabledByPath) =>
      Call.isJudged_setBreakpoints d.breakpoints group.1) d
  rw [hcalls] at hturn
  -- taking answers over asks nothing more
  have hexchanges : (pushAllPaths d).2.exchanges = asked.reverse ++ d.exchanges := by
    rcases hsend : Action.sendAll (d.breakpoints.enabledByPath.map fun group =>
      Call.setBreakpoints (d.breakpoints.argumentsFor group.1)) d with ⟨e | answers, d₁⟩ <;>
        rw [hsend] at hasked <;>
        simp only [pushAllPaths, Action.bind_apply, Action.get_apply, hsend]
    · exact hasked
    · exact (reconcileAll_exchanges ..).trans hasked
  obtain ⟨hpushes, hpaths⟩ := filterMap_push? hwf hturn
  obtain ⟨pushed, htells, -, hresult⟩ := pushAllPaths_spec hwf
  -- the pushes of the specification are the questions on record
  have hpushed : asked.filterMap Exchange.push? = pushed := by
    have happend := htells.pushes
    rw [pushes, hexchanges, List.filterMap_append, List.filterMap_reverse] at happend
    exact List.reverse_injective (List.append_cancel_right happend)
  have haccepted : (∀ e ∈ asked, e.isAccepted) ↔ ∀ push ∈ pushed, push.accepted?.isSome := by
    rw [← hpushed]
    constructor
    · intro h push hmem
      obtain ⟨e, he, hpush⟩ := List.mem_filterMap.1 hmem
      exact Exchange.isAccepted_of_push? hpush ▸ h e he
    · intro h e he
      obtain ⟨push, hpush⟩ := hpushes e he
      rw [Exchange.isAccepted_of_push? hpush]
      exact h push (List.mem_filterMap.2 ⟨e, he, hpush⟩)
  refine ⟨asked, _, hexchanges, hturn, hresult.trans ?_⟩
  constructor
  · rintro ⟨-, hall⟩
    have hall := haccepted.2 hall
    exact ⟨hturn.complete_iff.2 fun e he => Exchange.isAnswered_of_isAccepted (hall e he), hall⟩
  · rintro ⟨hanswered, hall⟩
    exact ⟨hpushed ▸ hpaths hanswered, haccepted.1 hall⟩

/-! ### The settings and the threads -/

/-- The calls that follow those for breakpoints. -/
def settingCalls (capabilities : Capabilities) : List (Call Unit) :=
  Call.setExceptionBreakpoints { filters := [] } ::
    if capabilities.configurationDoneRequest then [Call.configurationDone] else []

/-- No setting is a push, and each succeeds just if it is answered. -/
theorem of_mem_settingCalls {capabilities : Capabilities} {call : Call Unit}
    (h : call ∈ settingCalls capabilities) :
    call.command ≠ "setBreakpoints" ∧ call.IsJudged := by
  have hexceptions (args : SetExceptionBreakpointsArguments) :
      (Call.setExceptionBreakpoints args).command ≠ "setBreakpoints" :=
    show "setExceptionBreakpoints" ≠ "setBreakpoints" by decide
  have hdone : Call.configurationDone.command ≠ "setBreakpoints" :=
    show "configurationDone" ≠ "setBreakpoints" by decide
  rcases List.mem_cons.1 h with rfl | h
  · exact ⟨hexceptions _, Call.isJudged_acknowledged (hexceptions default) _⟩
  · split at h
    · rw [List.mem_singleton.1 h]
      exact ⟨hdone, Call.isJudged_acknowledged hdone _⟩
    · cases h

omit [Environment σ] in
/-- The calls for the settings are the requests for them. -/
theorem map_on_settingCalls (d : Debugger σ) :
    (settingCalls d.capabilities).map (·.on d.generation) = d.settingRequests := by
  rw [settingCalls, settingRequests, List.map_cons]
  split <;> rfl

/-- After the settings the threads are asked for, and a failure there does not matter. -/
theorem finishConfiguration_apply (d : Debugger σ) : finishConfiguration d =
    match Action.sendEach (settingCalls d.capabilities) d with
    | (.ok _, d') => (.ok (), (refreshThreads d').2)
    | (.error e, d') => (.error e, d') := by
  have hthreads (d' : Debugger σ) :
      (do try refreshThreads catch _ => pure () : Action σ Unit) d' =
        (.ok (), (refreshThreads d').2) := by
    rw [Action.tryCatch_apply]
    rcases refreshThreads d' with ⟨_ | _, _⟩ <;> rfl
  have hcapabilities :
      (Action.send (Call.setExceptionBreakpoints { filters := [] }) d).2.capabilities =
        d.capabilities := rfl
  simp only [finishConfiguration, settingCalls, Action.sendEach, Action.bind_apply]
  rcases hsend : Action.send (Call.setExceptionBreakpoints { filters := [] }) d with ⟨_ | _, d₁⟩
  · rfl
  rw [hsend] at hcapabilities
  simp only [Action.get_apply, ← hcapabilities]
  cases d₁.capabilities.configurationDoneRequest with
  | false => exact hthreads d₁
  | true =>
    simp only [if_true, Action.sendEach, Action.bind_apply]
    rcases Action.send Call.configurationDone d₁ with ⟨_ | _, d₂⟩
    · rfl
    · exact hthreads d₂

/-- Threads are looked up by one request, answered or not. -/
theorem refreshThreads_asks {d : Debugger σ} (hsession : d.session.isSome) :
    ∃ answer, (refreshThreads d).2.exchanges =
      .request (Call.threads.on d.generation) answer :: d.exchanges := by
  rw [refreshThreads, Action.requireSession_bind_of_session hsession, Action.bind_apply]
  obtain ⟨environment, session, answer, -, -, heq⟩ := Action.send_apply Call.threads d
  rw [heq]
  refine ⟨answer, ?_⟩
  cases Call.threads.result answer <;> rfl

/-- The settings are made in turn; where all were answered, the threads are asked for. -/
theorem finishConfiguration_asks {d : Debugger σ} (hsession : d.session.isSome) :
    ∃ settled complete, InTurn d.settingRequests settled complete ∧
      (finishConfiguration d).1.isOk = complete ∧
      (complete = false → (finishConfiguration d).2.exchanges = settled.reverse ++ d.exchanges) ∧
      (complete = true → ∃ answer, (finishConfiguration d).2.exchanges =
        .request (Call.threads.on d.generation) answer :: settled.reverse ++ d.exchanges) := by
  have hcalls (call : Call Unit) (hmem : call ∈ settingCalls d.capabilities) :=
    of_mem_settingCalls hmem
  obtain ⟨settled, hsettled, hturn⟩ := Action.sendEach_asks (fun call h => (hcalls call h).2) d
  have hcalm := Action.within_sendEach (fun call h => Action.calm_send (hcalls call h).1) d
  rw [map_on_settingCalls] at hturn
  rw [finishConfiguration_apply]
  refine ⟨settled, _, hturn, ?_⟩
  rcases hsend : Action.sendEach (settingCalls d.capabilities) d with ⟨e | answers, d₁⟩ <;>
    rw [hsend] at hsettled hcalm
  · exact ⟨rfl, fun _ => hsettled, nofun⟩
  · obtain ⟨answer, hthreads⟩ := refreshThreads_asks (hcalm.session ▸ hsession : d₁.session.isSome)
    refine ⟨rfl, nofun, fun _ => ⟨answer, ?_⟩⟩
    rw [hthreads, hcalm.generation, hsettled]
    rfl

/-! ### The whole configuration -/

/-- **A configuration asks stage by stage**, and succeeds just if all stages do; the phase in which
it is begun does not matter. -/
theorem configure_asks {d : Debugger σ} (hwf : d.breakpoints.WellFormed)
    (hsession : d.session.isSome) (phase : Phase) :
    ∃ asked, (configure { d with phase }).2.exchanges = asked.reverse ++ d.exchanges ∧
      d.Configures asked
        (configure { d with phase }).1.isOk := by
  obtain ⟨pushed, answered, hpushed, hturn, hresult⟩ :=
    pushAllPaths_asks (d := { d with phase := .running }) hwf
  change AtOnce (Environment.AtHand σ) d.pushRequests pushed answered at hturn
  obtain ⟨_, htells, -, -⟩ := pushAllPaths_spec (d := { d with phase := .running }) hwf
  -- the batch leaves alone what decides on the settings
  have hkept : (pushAllPaths { d with phase := .running }).2.settingRequests =
      d.settingRequests := by
    rw [settingRequests, htells.generation, htells.capabilities]
    rfl
  rw [configure_apply hsession phase, Action.bind_apply]
  rcases hpush : pushAllPaths { d with phase := .running } with ⟨e | _, d₁⟩ <;>
    rw [hpush] at hpushed hresult htells hkept
  · refine ⟨pushed, hpushed, ?_⟩
    cases answered with
    | false => exact .unanswered hturn
    | true => exact .miscounted hturn fun haccepted => nomatch hresult.2 ⟨rfl, haccepted⟩
  obtain ⟨rfl, haccepted⟩ := hresult.1 rfl
  obtain ⟨settled, complete, hsettings, hcomplete, hfailed, hthreads⟩ :=
    finishConfiguration_asks (htells.session.trans hsession)
  dsimp only at hkept hpushed hsettings hcomplete hfailed hthreads ⊢
  rw [hkept] at hsettings
  rw [Action.bind_apply]
  rcases hfinish : finishConfiguration d₁ with ⟨e | _, d₂⟩ <;>
    rw [hfinish] at hcomplete hfailed hthreads <;> obtain rfl := hcomplete
  · refine ⟨pushed ++ settled, ?_, .unsettled hturn haccepted hsettings⟩
    rw [List.reverse_append, List.append_assoc, ← hpushed]
    exact hfailed rfl
  · obtain ⟨answer, hasked⟩ := hthreads rfl
    refine ⟨_, ?_, .complete hturn haccepted hsettings answer⟩
    rw [htells.generation, hpushed] at hasked
    show d₂.exchanges = _
    simpa using hasked

omit [Environment σ] in
/-- A setting is accepted where it is answered. -/
theorem isAccepted_of_mem_settingRequests {d : Debugger σ} {asked : Request}
    (h : asked ∈ d.settingRequests) (answer : Except Error Json) :
    (Exchange.request asked answer).isAccepted = (Exchange.request asked answer).isAnswered := by
  obtain ⟨call, hcall, rfl⟩ := List.mem_map.1 (map_on_settingCalls d ▸ h)
  have hpush : (Exchange.request (call.on d.generation) answer).push? = none :=
    Exchange.push?_of_command_ne (of_mem_settingCalls hcall).1 answer
  rw [Exchange.isAccepted, hpush]

/-- A configuration succeeds just if all that it asks before the threads is accepted. -/
theorem Configures.iff_isAccepted {d : Debugger σ} {asked : List Exchange} {complete : Bool}
    (h : d.Configures asked complete) : complete = true ↔
      ∀ e ∈ asked, (∃ answer, e = .request (Call.threads.on d.generation) answer) ∨
        e.isAccepted := by
  have hpaths : Call.threads.on d.generation ∉ d.pushRequests := by
    simp [pushRequests, pushRequest, Call.on, Call.threads, Call.setBreakpoints, Call.answered]
  have hsettings : Call.threads.on d.generation ∉ d.settingRequests := by
    rw [settingRequests]
    split <;> simp [Call.on, Call.threads, Call.setExceptionBreakpoints, Call.configurationDone,
      Call.acknowledged, Call.answered]
  cases h with
  | unanswered pushes =>
    refine iff_of_false Bool.false_ne_true fun h => Bool.false_ne_true (pushes.complete_iff.2 ?_)
    exact fun e he => Exchange.isAnswered_of_isAccepted ((h e he).resolve_left
      fun ⟨_, heq⟩ => hpaths (pushes.mem_requests (heq ▸ he)))
  | miscounted pushes miscount =>
    refine iff_of_false Bool.false_ne_true fun h => miscount fun e he => ?_
    exact (h e he).resolve_left fun ⟨_, heq⟩ => hpaths (pushes.mem_requests (heq ▸ he))
  | unsettled pushes accepted settings =>
    refine iff_of_false Bool.false_ne_true fun h => Bool.false_ne_true (settings.complete_iff.2 ?_)
    intro e he
    exact Exchange.isAnswered_of_isAccepted ((h e (List.mem_append_right _ he)).resolve_left
      fun ⟨_, heq⟩ => hsettings (settings.mem_requests (heq ▸ he)))
  | complete pushes accepted settings threads =>
    refine iff_of_true rfl fun e he => ?_
    rcases List.mem_append.1 he with he | he
    · refine .inr ((List.mem_append.1 he).elim (accepted e) fun he => ?_)
      obtain ⟨asked, hasked, answer, rfl⟩ := settings.exists_request he
      rw [isAccepted_of_mem_settingRequests hasked]
      exact settings.complete_iff.1 rfl _ he
    · exact .inl ⟨threads, List.mem_singleton.1 he⟩

/-! ### Where a configuration is begun -/

omit [Environment σ] in
/-- The paths that are pushed are those with enabled breakpoints, in the order of their bytes. -/
theorem enabledPaths_spec {d : Debugger σ} (hwf : d.breakpoints.WellFormed) :
    d.enabledPaths.Pairwise (fun p q => Utf8.encode p < Utf8.encode q) ∧
      ∀ path, path ∈ d.enabledPaths ↔ ∃ b ∈ d.breakpoints.list, b.path = path ∧ b.enabled := by
  refine ⟨?_, fun path => ?_⟩
  · rw [enabledPaths, List.pairwise_map]
    exact (Breakpoints.enabledByPath_ordered hwf).imp Utf8.encode_lt_encode_iff.2
  · rw [enabledPaths, List.mem_map]
    constructor
    · rintro ⟨⟨path, enabled⟩, hmem, rfl⟩
      obtain ⟨rfl, hne⟩ := (Breakpoints.mem_enabledByPath_iff hwf path enabled).1 hmem
      obtain ⟨b, hb⟩ := List.exists_mem_of_ne_nil _ hne
      obtain ⟨hb, hfor⟩ := List.mem_filter.1 hb
      exact ⟨b, hb, by simpa [Breakpoints.isEnabledFor] using hfor⟩
    · rintro ⟨b, hb, rfl, henabled⟩
      refine ⟨⟨b.path, _⟩, (Breakpoints.mem_enabledByPath_iff hwf b.path _).2 ⟨rfl, ?_⟩, rfl⟩
      exact List.ne_nil_of_mem
        (List.mem_filter.2 ⟨hb, by simp [Breakpoints.isEnabledFor, henabled]⟩)

/-- A configuration keeps the session and its target, and closes the console where it succeeds.
The program counts as running from its beginning on. -/
theorem configure_keeps {d : Debugger σ} (hwf : d.breakpoints.WellFormed)
    (hsession : d.session.isSome) :
    (configure d).2.session.isSome ∧ (configure d).2.generation = d.generation ∧
      (configure d).2.target = d.target ∧ (configure d).2.phase = .running ∧
      ((configure d).1.isOk → (configure d).2.console.isOpen = false) := by
  obtain ⟨_, d₁, d₂, htells, hcalm, hresult⟩ := configure_spec hwf hsession
  have hopen : d₂.session.isSome := (hcalm.session.trans htells.session).trans hsession
  have hgeneration := hcalm.generation.trans htells.generation
  have htarget := hcalm.target.trans htells.target
  have hphase := hcalm.phase.trans htells.phase
  rcases hresult with ⟨e, heq⟩ | ⟨heq, -⟩ <;> rw [heq]
  · exact ⟨hopen, hgeneration, htarget, hphase, nofun⟩
  · exact ⟨hopen, hgeneration, htarget, hphase, fun _ => rfl⟩

/-- Closing an open session asks the adapter to disconnect. -/
theorem closeSession_asks {d : Debugger σ} (hsession : d.session.isSome) :
    ∃ answer, (closeSession d).2.exchanges =
      .request d.partingRequest answer :: d.exchanges := by
  have hguard : ¬d.session.isNone := by simpa [Option.isSome_iff_ne_none] using hsession
  rw [closeSession_apply, if_neg hguard]
  exact ⟨_, rfl⟩

/-- What comes of a configuration that is begun.  The program counts as running in any case; where
the configuration of an attached program fails, its session is closed. -/
structure Attempts (d : Debugger σ) (outcome : Except Error Unit) (d' : Debugger σ) : Prop where
  asks : ∃ asked parting, d'.exchanges = parting ++ asked.reverse ++ d.exchanges ∧
    d.Configures asked outcome.isOk ∧
    (outcome.isOk ↔ ∀ e ∈ asked,
      (∃ answer, e = .request (Call.threads.on d.generation) answer) ∨ e.isAccepted) ∧
    if outcome.isOk || d.launches then parting = []
    else ∃ answer, parting = [.request d.partingRequest answer]
  console : outcome.isOk → d'.console.isOpen = false
  target : d'.target = d.target
  session : d'.session.isSome = (outcome.isOk || d.launches)
  generation : d'.generation = d.generation
  phase : d'.phase = .running

/-- `run` tries the configuration, and keeps the session where that fails. -/
theorem attempts_run {d : Debugger σ} (hwf : d.breakpoints.WellFormed)
    (hphase : d.phase = .configuring) (hlaunches : d.launches) (hsession : d.session.isSome) :
    Attempts d (configure d).1 (Debugger.run d).2 := by
  obtain ⟨asked, hasked, hconfigures⟩ := configure_asks hwf hsession d.phase
  obtain ⟨hopen, hgeneration, htarget, hrunning, hclosed⟩ := configure_keeps hwf hsession
  rw [run_apply, if_pos ⟨hphase, hlaunches⟩]
  refine ⟨⟨asked, [], hasked, hconfigures, hconfigures.iff_isAccepted, ?_⟩, hclosed, htarget, ?_,
    hgeneration, hrunning⟩
  · rw [if_pos (by rw [hlaunches, Bool.or_true])]
  · rw [hopen, hlaunches, Bool.or_true]

/-- An attached program is configured as soon as the adapter is ready. -/
theorem attempts_onInitialized {d : Debugger σ} (hwf : d.breakpoints.WellFormed)
    (hsession : d.session.isSome) (hattaches : d.attaches) :
    Attempts d (configure { d with phase := .configuring }).1 (onInitialized d).2 := by
  obtain ⟨target, htarget, hmode⟩ := exists_target_of_attaches hattaches
  obtain ⟨asked, hasked, hconfigures⟩ := configure_asks hwf hsession .configuring
  obtain ⟨hopen, hgeneration, hkept, hphase, hclosed⟩ :=
    configure_keeps (d := { d with phase := .configuring }) hwf hsession
  have hlaunches := launches_of_attaches hattaches
  rw [onInitialized_of_target htarget, if_neg (Bool.eq_false_iff.1 hmode)]
  rcases hconfigure : configure { d with phase := .configuring } with ⟨e | _, d'⟩ <;>
    rw [hconfigure] at hasked hopen hgeneration hkept hphase hclosed hconfigures
  · have hparting : d'.partingRequest = d.partingRequest := by
      rw [partingRequest, launches, hkept, hgeneration]
      rfl
    have hcloses := closeSession_spec { d' with console :=
      (d'.console.writeLine "Failed to initialize debugging session.").writeLine e.message }
    obtain ⟨answer, hanswer⟩ := closeSession_asks (d := { d' with console :=
      (d'.console.writeLine "Failed to initialize debugging session.").writeLine e.message }) hopen
    refine ⟨⟨asked, [.request d.partingRequest answer], ?_, hconfigures,
      hconfigures.iff_isAccepted, ?_⟩, ?_, hcloses.target.trans hkept, ?_,
      hcloses.generation.trans hgeneration, hcloses.phase.trans hphase⟩
    · rw [List.append_assoc, ← hasked, ← hparting]
      exact hanswer
    · rw [hlaunches]
      exact ⟨answer, rfl⟩
    · intro hsucceeds
      cases hsucceeds
    · rw [hcloses.session, hlaunches]
      rfl
  · exact ⟨⟨asked, [], hasked, hconfigures, hconfigures.iff_isAccepted, rfl⟩, hclosed, hkept, hopen,
      hgeneration, hphase⟩

/-- Which moves begin a configuration. -/
theorem cases_of_configuration? {d : Debugger σ} {move : Move σ} {outcome : Except Error Unit}
    (h : Step.configuration? ⟨d, move⟩ = some outcome) :
    (move = .operate .run ∧ d.phase = .configuring ∧ d.launches ∧ d.session.isSome ∧
        outcome = (configure d).1) ∨
      ∃ connection, move = .handle (.event connection .initialized) ∧ d.isOpen connection ∧
        d.attaches ∧ outcome = (configure { d with phase := .configuring }).1 := by
  unfold Step.configuration? at h
  split at h
  · rename_i hmove
    dsimp only at h hmove
    split_ifs at h with hready
    obtain ⟨hphase, hlaunches, hsession⟩ := hready
    rw [run_apply, if_pos ⟨hphase, hlaunches⟩] at h
    exact .inl ⟨hmove, hphase, hlaunches, hsession, (Option.some.inj h).symm⟩
  · rename_i connection hmove
    dsimp only at h hmove
    split_ifs at h with hready
    exact .inr ⟨connection, hmove, hready.1, hready.2, (Option.some.inj h).symm⟩
  · cases h

/-- A `run` that begins no configuration changes nothing. -/
theorem run_of_not_begun {d : Debugger σ}
    (h : Step.configuration? (⟨d, .operate .run⟩ : Step σ) = none) : (run d).2 = d := by
  rw [run_apply]
  split_ifs with hready
  · have hnone : d.session = none := by
      by_contra hsome
      have hbegun : Step.configuration? ⟨d, .operate .run⟩ = some (run d).1 :=
        if_pos ⟨hready.1, hready.2, Option.isSome_iff_ne_none.2 hsome⟩
      rw [h] at hbegun
      cases hbegun
    rw [configure_of_no_session hnone]
  · rfl

/-- Where readiness begins no configuration, the user is asked to. -/
theorem onInitialized_of_not_begun {d : Debugger σ} {connection : Nat} (hopen : d.isOpen connection)
    (h : Step.configuration? (⟨d, .handle (.event connection .initialized)⟩ : Step σ) = none) :
    (onInitialized d).2 =
      if d.launches then { d with phase := .configuring, console := d.console.openInput }
      else d := by
  rcases Option.eq_none_or_eq_some d.target with htarget | ⟨target, htarget⟩
  · rw [onInitialized_of_no_target htarget, launches, htarget]
    rfl
  rw [onInitialized_of_target htarget, launches_of_target htarget]
  split_ifs with hlaunch
  · rfl
  · have hattaches : d.attaches := by rw [attaches, htarget]; simpa using hlaunch
    have hbegun : Step.configuration? ⟨d, .handle (.event connection .initialized)⟩ =
        some (configure { d with phase := .configuring }).1 := if_pos ⟨hopen, hattaches⟩
    rw [h] at hbegun
    cases hbegun

/-- **Where a configuration is begun, it is tried.** -/
theorem attempts_of_configuration? {d : Debugger σ} (hwf : d.breakpoints.WellFormed)
    {move : Move σ} {outcome : Except Error Unit}
    (h : Step.configuration? ⟨d, move⟩ = some outcome) : Attempts d outcome (move.next d) := by
  rcases cases_of_configuration? h with ⟨rfl, hphase, hlaunches, hsession, rfl⟩ |
    ⟨connection, rfl, hopen, hattaches, rfl⟩
  · exact attempts_run hwf hphase hlaunches hsession
  · have hopen' : d.isOpen (Signal.event connection Event.initialized).generation := hopen
    rw [Move.next, handle_apply, if_pos hopen']
    exact attempts_onInitialized hwf (Bool.and_eq_true_iff.1 hopen).2 hattaches

end Debugger

open Debugger

/-- A launched program that is being configured, with breakpoints in two files. -/
def Script.configuring : List (Move Script) :=
  [ .operate (.launch launched), .handle (.event 1 .initialized),
    .operate (.setBreakpoint "b.c" 3), .operate (.setBreakpoint "a.c" 5),
    .operate (.setBreakpoint "a.c" 4) ]

/-- An environment with the answers of another one, which come only when they are waited for. -/
structure Deferring (σ : Type) where
  environment : σ

instance : Environment (Deferring σ) where
  connect executable deferring :=
    let (outcome, environment) := Environment.connect executable deferring.environment
    (outcome, { environment })
  request asked deferring :=
    let (reply, environment) := Environment.request asked deferring.environment
    (reply, { environment })
  post _ deferring := ((none, {}), deferring)
  start asked deferring :=
    let (arrivals, environment) := Environment.start asked deferring.environment
    (arrivals, { environment })
  readFile path deferring := Environment.readFile path deferring.environment
  canonical? path deferring := Environment.canonical? path deferring.environment

/-- An adapter that refuses the first push. -/
def Script.unwilling : Script where
  entries := [("setBreakpoints", [{ answer := .refusal (.refused "no") }])]

end DebugConsole
