/-
# What calls that are made together come to

Calls that are made together (`Action.sendAll`) are sent in their order, and of those that were sent
at most one fails (`Sent.IsBatch`).  So there are two ways for it to end (`Together`):

| result | asked |
| --- | --- |
| all values, in the order of the calls | all calls, each answered |
| the error of one call | that call, answered; others answered or given up because of it |

In the second case all calls were sent, unless the one that failed is the last that was, because its
answer was there as soon as it was sent (`Environment.AtHand`).  While the calls are made nothing is
put on record, so what holds between their steps is said of the environment and of what has arrived
(`Action.Keeps`, `Action.sendAll_spec`).
-/

import DebugConsole.Debugger.Batch
import DebugConsole.Proofs.Action
import Mathlib.Data.List.Forall2

namespace DebugConsole

open Protocol

variable {σ α : Type}

namespace Sent

variable {atHand : Sent α → Prop} {calls : List (Call α)} {batch : List (Sent α)}

/-- The call at a place among the open ones is the one that gets the answer. -/
theorem answerAt_eq {place : Nat} (h : place < (batch.filter (·.isOpen)).length)
    (answer : Except Error Json) : ∃ before s after, batch = before ++ s :: after ∧ s.isOpen ∧
      (batch.filter (·.isOpen))[place]? = some s ∧
      answerAt answer batch place = before ++ { s with answer := some answer } :: after := by
  induction batch generalizing place with
  | nil => cases h
  | cons s rest ih =>
    rw [answerAt]
    split_ifs with hopen hzero
    · subst hzero
      exact ⟨[], s, rest, rfl, hopen, by rw [List.filter_cons_of_pos hopen]; rfl, rfl⟩
    · obtain ⟨next, rfl⟩ := Nat.exists_eq_succ_of_ne_zero hzero
      rw [List.filter_cons_of_pos hopen] at h ⊢
      obtain ⟨before, t, after, rfl, ht, hplace, heq⟩ := ih (Nat.lt_of_succ_lt_succ h)
      exact ⟨s :: before, t, after, rfl, ht, hplace, congrArg (s :: ·) heq⟩
    · rw [List.filter_cons_of_neg hopen] at h ⊢
      obtain ⟨before, t, after, rfl, ht, hplace, heq⟩ := ih h
      exact ⟨s :: before, t, after, rfl, ht, hplace, congrArg (s :: ·) heq⟩

/-- What was sent of calls that are made together: all of them while none has failed.  At most one
fails, and where not all were sent it is the last, with an answer that was at hand. -/
inductive IsBatch (atHand : Sent α → Prop) (calls : List (Call α)) : List (Sent α) → Prop
  | unfailed {batch : List (Sent α)} (sent : batch.map (·.call) = calls)
      (unfailed : ∀ s ∈ batch, s.failure? = none) : IsBatch atHand calls batch
  | failed {before after : List (Sent α)} {s : Sent α} {e : Error} {unsent : List (Call α)}
      (failure : s.failure? = some e) (others : ∀ t ∈ before ++ after, t.failure? = none)
      (sent : (before ++ s :: after).map (·.call) ++ unsent = calls)
      (last : unsent = [] ∨ after = [] ∧ atHand s) : IsBatch atHand calls (before ++ s :: after)

/-- A call that fails with an answer at hand is the last one. -/
theorem IsBatch.only {s : Sent α} {e : Error} (failure : s.failure? = some e) (hs : atHand s)
    (unsent : List (Call α)) : IsBatch atHand (s.call :: unsent) [s] := by
  rw [← List.nil_append [s]]
  exact .failed failure nofun rfl (.inr ⟨rfl, hs⟩)

/-- A call that was sent before others, and has not failed. -/
theorem IsBatch.cons {s : Sent α} (h : IsBatch atHand calls batch) (hs : s.failure? = none) :
    IsBatch atHand (s.call :: calls) (s :: batch) := by
  cases h with
  | unfailed sent unfailed =>
    exact .unfailed (congrArg (s.call :: ·) sent) (List.forall_mem_cons.2 ⟨hs, unfailed⟩)
  | @failed before after t e unsent failure others sent last =>
    rw [← List.cons_append]
    exact .failed failure (List.forall_mem_cons.2 ⟨hs, others⟩) (congrArg (s.call :: ·) sent) last

/-- An answer to an open call, while none has failed. -/
theorem IsBatch.answer {before after : List (Sent α)} {s : Sent α}
    (sent : (before ++ s :: after).map (·.call) = calls)
    (unfailed : ∀ t ∈ before ++ s :: after, t.failure? = none) (answer : Except Error Json) :
    IsBatch atHand calls (before ++ { s with answer := some answer } :: after) := by
  have hcalls : (before ++ { s with answer := some answer } :: after).map (·.call) = calls := by
    rw [← sent, List.map_append, List.map_append, List.map_cons, List.map_cons]
  have hothers : ∀ t ∈ before ++ after, t.failure? = none := fun t ht =>
    unfailed t <| (List.mem_append.1 ht).elim (List.mem_append_left _) fun ht =>
      List.mem_append_right _ (List.mem_cons_of_mem _ ht)
  cases hfailure : ({ s with answer := some answer } : Sent α).failure? with
  | none =>
    refine .unfailed hcalls fun t ht => ?_
    rcases List.mem_append.1 ht with ht | ht
    · exact hothers t (List.mem_append_left _ ht)
    · rcases List.mem_cons.1 ht with rfl | ht
      · exact hfailure
      · exact hothers t (List.mem_append_right _ ht)
  | some e => exact .failed hfailure hothers ((List.append_nil _).trans hcalls) (.inl rfl)

end Sent

/-! ### How it ends -/

/-- These calls were made and have succeeded with these values. -/
inductive Answered (connection : Nat) : List (Call α) → List Exchange → List α → Prop
  | nil : Answered connection [] [] []
  | cons {call : Call α} {answer : Except Error Json} {value : α} {calls : List (Call α)}
      {exchanges : List Exchange} {values : List α} (success : call.result answer = .ok value)
      (others : Answered connection calls exchanges values) :
      Answered connection (call :: calls) (.request (call.on connection) answer :: exchanges)
        (value :: values)

/-- A call was made and has not failed: it has succeeded, or was given up for a reason. -/
inductive Spared (connection : Nat) (reason : Error) (call : Call α) : Exchange → Prop
  | answered {answer : Except Error Json} {value : α} (success : call.result answer = .ok value) :
      Spared connection reason call (.request (call.on connection) answer)
  | abandoned : Spared connection reason call (.abandoned (call.on connection) reason)

/-- Calls were made together: what was asked, in the order of the calls, and the result.  Where some
were not sent, the one before them failed with an answer that was at hand. -/
inductive Together (atHand : Request → Except Error Json → Prop) (connection : Nat) :
    List (Call α) → List Exchange → Except Error (List α) → Prop
  | answered {calls : List (Call α)} {exchanges : List Exchange} {values : List α}
      (all : Answered connection calls exchanges values) :
      Together atHand connection calls exchanges (.ok values)
  | failed {earlier later unsent : List (Call α)} {call : Call α} {before after : List Exchange}
      {answer : Except Error Json} {e : Error} (failure : call.result answer = .error e)
      (spared : List.Forall₂ (Spared connection e) earlier before)
      (others : List.Forall₂ (Spared connection e) later after)
      (last : unsent = [] ∨ later = [] ∧ atHand (call.on connection) answer) :
      Together atHand connection (earlier ++ call :: later ++ unsent)
        (before ++ .request (call.on connection) answer :: after) (.error e)

section Asked

variable {atHand : Request → Except Error Json → Prop} {connection : Nat} {calls : List (Call α)}
  {exchanges : List Exchange}

/-- Where all calls have succeeded, each was asked for. -/
theorem Answered.forall₂_isOf {values : List α} (h : Answered connection calls exchanges values) :
    List.Forall₂ (Exchange.IsOf connection) calls exchanges := by
  induction h with
  | nil => exact .nil
  | cons success others ih => exact .cons (.request _) ih

/-- A call that was spared was asked for. -/
theorem Spared.isOf {reason : Error} {call : Call α} {e : Exchange}
    (h : Spared connection reason call e) : Exchange.IsOf connection call e := by
  cases h with
  | answered success => exact .request _
  | abandoned => exact .abandoned reason

/-- The calls are asked for in their order, the first one at any rate; the last ones may be
missing. -/
theorem Together.forall₂_isOf {result : Except Error (List α)}
    (h : Together atHand connection calls exchanges result) : ∃ sent, sent <+: calls ∧
      (sent = [] → calls = []) ∧ List.Forall₂ (Exchange.IsOf connection) sent exchanges := by
  cases h with
  | answered all => exact ⟨calls, List.prefix_refl calls, id, all.forall₂_isOf⟩
  | failed failure spared others last =>
    exact ⟨_, List.prefix_append _ _, fun hnone => by simp at hnone,
      List.rel_append (spared.imp fun _ _ => Spared.isOf)
        (.cons (.request _) (others.imp fun _ _ => Spared.isOf))⟩

/-- Nothing is asked but the calls. -/
theorem Together.exists_isOf {result : Except Error (List α)}
    (h : Together atHand connection calls exchanges result) {e : Exchange} (he : e ∈ exchanges) :
    ∃ call ∈ calls, Exchange.IsOf connection call e := by
  obtain ⟨sent, hinitial, -, hsent⟩ := h.forall₂_isOf
  obtain ⟨call, hcall, hof⟩ : ∃ call ∈ sent, Exchange.IsOf connection call e := by
    clear hinitial h
    induction hsent with
    | nil => cases he
    | cons hof _ ih =>
      rcases List.mem_cons.1 he with rfl | he
      · exact ⟨_, List.mem_cons_self, hof⟩
      · obtain ⟨call, hcall, hof⟩ := ih he
        exact ⟨call, List.mem_cons_of_mem _ hcall, hof⟩
  exact ⟨call, hinitial.subset hcall, hof⟩

end Asked

namespace Sent

variable {connection : Nat} {calls : List (Call α)} {batch : List (Sent α)}

/-- What failed has an answer that its call takes for an error. -/
theorem result?_of_failure? {s : Sent α} {e : Error} (h : s.failure? = some e) :
    ∃ answer, s.answer = some answer ∧ s.call.result answer = .error e := by
  unfold failure? result? at h
  cases hanswer : s.answer with
  | none => rw [hanswer] at h; cases h
  | some answer =>
    rw [hanswer] at h
    cases hresult : s.call.result answer with
    | ok value => simp [hresult] at h
    | error e' => simp [hresult] at h; exact ⟨answer, rfl, h ▸ hresult⟩

/-- A call that has not failed is open or has succeeded. -/
theorem cases_of_failure?_none {s : Sent α} (h : s.failure? = none) : s.answer = none ∨
    ∃ answer value, s.answer = some answer ∧ s.call.result answer = .ok value := by
  unfold failure? result? at h
  cases hanswer : s.answer with
  | none => exact .inl rfl
  | some answer =>
    rw [hanswer] at h
    cases hresult : s.call.result answer with
    | ok value => exact .inr ⟨answer, value, rfl, hresult⟩
    | error e => simp [hresult] at h

/-- What has not failed is spared, answered or not. -/
theorem spared_exchange {s : Sent α} (h : s.failure? = none) (reason : Error) :
    Spared connection reason s.call (s.exchange connection reason) := by
  rcases cases_of_failure?_none h with hanswer | ⟨answer, value, hanswer, hresult⟩
  · rw [exchange, exchange?, hanswer]
    exact .abandoned
  · rw [exchange, exchange?, hanswer]
    exact .answered hresult

/-- A batch in which nothing failed is spared as a whole. -/
theorem forall₂_spared (h : ∀ s ∈ batch, s.failure? = none) (reason : Error) :
    List.Forall₂ (Spared connection reason) (batch.map (·.call))
      (batch.map (·.exchange connection reason)) := by
  rw [List.forall₂_map_left_iff, List.forall₂_map_right_iff, List.forall₂_same]
  exact fun s hs => spared_exchange (h s hs) reason

/-- A batch with nothing open and nothing failed is answered as a whole. -/
theorem answered_of_closed (hunfailed : ∀ s ∈ batch, s.failure? = none)
    (hclosed : ∀ s ∈ batch, s.isOpen = false) :
    Answered connection (batch.map (·.call)) (batch.filterMap (·.exchange? connection))
      (batch.filterMap (·.value?)) := by
  induction batch with
  | nil => exact .nil
  | cons s rest ih =>
    obtain ⟨hs, hrest⟩ := List.forall_mem_cons.1 hunfailed
    obtain ⟨hanswered, hothers⟩ := List.forall_mem_cons.1 hclosed
    rcases cases_of_failure?_none hs with hnone | ⟨answer, value, hanswer, hresult⟩
    · rw [isOpen, hnone] at hanswered
      cases hanswered
    · have hexchange : s.exchange? connection = some (.request (s.call.on connection) answer) := by
        rw [exchange?, hanswer]
        rfl
      have hvalue : s.value? = some value := by
        rw [value?, result?, hanswer, Option.map_some, hresult]
      rw [List.map_cons, List.filterMap_cons_some hexchange, List.filterMap_cons_some hvalue]
      exact .cons hresult (ih hrest hothers)

/-- Its answer, if it has one, is one that can be given. -/
def IsGiven (given : Request → Except Error Json → Prop) (connection : Nat) (s : Sent α) : Prop :=
  ∀ answer, s.answer = some answer → given (s.call.on connection) answer

/-- A batch is over when a call has failed or none is open. -/
theorem IsBatch.together {atHand : Request → Except Error Json → Prop}
    (h : IsBatch (IsGiven atHand connection) calls batch)
    (hover : batch.any (·.failure?.isSome) ∨ ∀ s ∈ batch, s.isOpen = false) :
    Together atHand connection calls (conclude connection batch).2
      (conclude connection batch).1 := by
  cases h with
  | unfailed sent unfailed =>
    have hclosed : ∀ s ∈ batch, s.isOpen = false := hover.resolve_left fun hany => by
      obtain ⟨s, hs, hfailed⟩ := List.any_eq_true.1 hany
      rw [unfailed s hs] at hfailed
      cases hfailed
    rw [conclude, List.findSome?_eq_none_iff.2 unfailed, ← sent]
    exact .answered (answered_of_closed unfailed hclosed)
  | @failed before after s e unsent failure others sent last =>
    obtain ⟨hbefore, hafter⟩ := List.forall_mem_append.1 others
    obtain ⟨answer, hanswer, hresult⟩ := result?_of_failure? failure
    have hfirst : (before ++ s :: after).findSome? (·.failure?) = some e := by
      rw [List.findSome?_append, List.findSome?_eq_none_iff.2 hbefore, List.findSome?_cons, failure]
      rfl
    have hexchange : s.exchange connection e = .request (s.call.on connection) answer := by
      rw [exchange, exchange?, hanswer]
      rfl
    have hlast : unsent = [] ∨ after.map (·.call) = [] ∧ atHand (s.call.on connection) answer :=
      last.imp_right fun ⟨hnone, hs⟩ => ⟨by rw [hnone]; rfl, hs answer hanswer⟩
    rw [conclude, hfirst, ← sent]
    dsimp only
    rw [List.map_append, List.map_append, List.map_cons, List.map_cons, hexchange]
    exact .failed hresult (forall₂_spared hbefore e) (forall₂_spared hafter e) hlast

/-- Answers that are on record are those that the calls have. -/
theorem exists_of_request_mem_conclude {asked : Request} {answer : Except Error Json}
    (h : Exchange.request asked answer ∈ (conclude connection batch).2) :
    ∃ s ∈ batch, s.call.on connection = asked ∧ s.answer = some answer := by
  have hof {s : Sent α} (hs : s.exchange? connection = some (.request asked answer)) :
      s.call.on connection = asked ∧ s.answer = some answer := by
    obtain ⟨other, hanswer, heq⟩ := Option.map_eq_some_iff.1 hs
    obtain ⟨rfl, rfl⟩ := Exchange.request.inj heq
    exact ⟨rfl, hanswer⟩
  unfold conclude at h
  split at h
  · obtain ⟨s, hs, heq⟩ := List.mem_map.1 h
    refine ⟨s, hs, hof ?_⟩
    unfold exchange at heq
    cases hexchange : s.exchange? connection with
    | none => rw [hexchange] at heq; cases heq
    | some e => rw [hexchange] at heq; exact congrArg some heq
  · obtain ⟨s, hs, heq⟩ := List.mem_filterMap.1 h
    exact ⟨s, hs, hof heq⟩

end Sent

/-! ### The steps -/

/-- An answer that the environment can have as soon as the request is sent. -/
def Environment.AtHand (σ : Type) [Environment σ] (asked : Request) (answer : Except Error Json) :
    Prop := ∃ environment : σ, (Environment.post asked environment).1.1 = some answer

variable [Environment σ]

namespace Action

open Reaction

/-- What all steps of calls that are made together keep, and what can be said of an answer. -/
structure Keeps (connection : Nat) (calls : List (Call α)) (holds : Debugger σ → Prop)
    (given : Request → Except Error Json → Prop) : Prop where
  post : ∀ call ∈ calls, ∀ d, holds d → holds (post (call.on connection) d).2 ∧
    ∀ answer, (post (call.on connection) d).1 = some answer → given (call.on connection) answer
  await : ∀ first others, (∀ asked ∈ first :: others, ∃ call ∈ calls, call.on connection = asked) →
    ∀ d, holds d → holds (await first others d).2 ∧
      given ((first :: others).get (await first others d).1.1) (await first others d).1.2

section Steps

variable {connection : Nat} {calls : List (Call α)} {holds : Debugger σ → Prop}
  {given : Request → Except Error Json → Prop}

/-- The first call of a batch is written before the others. -/
theorem postEach_cons (connection : Nat) (call : Call α) (rest : List (Call α)) (d : Debugger σ) :
    postEach connection (call :: rest) d =
      let s : Sent α := ⟨call, (post (call.on connection) d).1⟩
      if s.failure?.isSome then ([s], (post (call.on connection) d).2)
      else (s :: (postEach connection rest (post (call.on connection) d).2).1,
        (postEach connection rest (post (call.on connection) d).2).2) := by
  rw [postEach, Reaction.bind_apply]
  dsimp only
  split_ifs <;> rfl

/-- Calls are sent in their order, up to the first that fails at once. -/
theorem postEach_spec (h : Keeps connection calls holds given) {d : Debugger σ} (hd : holds d) :
    Sent.IsBatch (Sent.IsGiven (Environment.AtHand σ) connection) calls
        (postEach connection calls d).1 ∧
      (∀ s ∈ (postEach connection calls d).1, s.IsGiven given connection) ∧
      holds (postEach connection calls d).2 := by
  have hpost := h.post
  clear h
  induction calls generalizing d with
  | nil => exact ⟨.unfailed rfl nofun, nofun, hd⟩
  | cons call rest ih =>
    obtain ⟨hfirst, hrest⟩ := List.forall_mem_cons.1 hpost
    obtain ⟨hposted, hgiven⟩ := hfirst d hd
    obtain ⟨hbatch, hall, hholds⟩ := ih hposted hrest
    rw [postEach_cons]
    dsimp only
    cases hfailure : (⟨call, (post (call.on connection) d).1⟩ : Sent α).failure? with
    | some e =>
      -- the answer was there before the next call could be sent
      have hatHand : Sent.IsGiven (Environment.AtHand σ) connection
          (⟨call, (post (call.on connection) d).1⟩ : Sent α) :=
        fun answer hanswer => ⟨d.environment, hanswer⟩
      exact ⟨.only hfailure hatHand rest, fun s hs => List.mem_singleton.1 hs ▸ hgiven, hposted⟩
    | none =>
      exact ⟨hbatch.cons hfailure, List.forall_mem_cons.2 ⟨hgiven, hall⟩, hholds⟩

/-- Answers are awaited until a call has failed or none is open. -/
theorem awaitEach_spec (h : Keeps connection calls holds given) {count : Nat}
    {batch : List (Sent α)} {d : Debugger σ}
    (hbatch : Sent.IsBatch (Sent.IsGiven (Environment.AtHand σ) connection) calls batch)
    (hgiven : ∀ s ∈ batch, s.IsGiven given connection) (hd : holds d)
    (hcount : (batch.filter (·.isOpen)).length ≤ count) :
    let awaited := (awaitEach connection count batch d).1
    Sent.IsBatch (Sent.IsGiven (Environment.AtHand σ) connection) calls awaited ∧
      (∀ s ∈ awaited, s.IsGiven given connection) ∧
      holds (awaitEach connection count batch d).2 ∧
      (awaited.any (·.failure?.isSome) ∨ ∀ s ∈ awaited, s.isOpen = false) := by
  induction count generalizing batch d with
  | zero =>
    have hnone : batch.filter (·.isOpen) = [] := List.length_eq_zero_iff.1 (Nat.le_zero.1 hcount)
    exact ⟨hbatch, hgiven, hd, .inr fun s hs => by simpa using List.filter_eq_nil_iff.1 hnone s hs⟩
  | succ count ih =>
    rw [awaitEach]
    split_ifs with hany
    · exact ⟨hbatch, hgiven, hd, .inl hany⟩
    cases hopen : batch.filter (·.isOpen) with
    | nil => exact ⟨hbatch, hgiven, hd, .inr fun s hs => by
        simpa using List.filter_eq_nil_iff.1 hopen s hs⟩
    | cons first others =>
    cases hbatch with
    | failed failure others sent last => exact absurd (by simp [failure]) hany
    | unfailed sent unfailed =>
    have hmem : ∀ s ∈ first :: others, s.call ∈ calls := fun s hs =>
      sent ▸ List.mem_map_of_mem (List.mem_filter.1 (hopen ▸ hs)).1
    have hrequests : ∀ asked ∈ (first :: others).map (·.call.on connection),
        ∃ call ∈ calls, call.on connection = asked :=
      List.forall_mem_map.2 fun s hs => ⟨s.call, hmem s hs, rfl⟩
    obtain ⟨hawaited, hanswer⟩ := h.await _ _ hrequests d hd
    dsimp only
    rw [Reaction.bind_apply]
    generalize await (first.call.on connection) (others.map (·.call.on connection)) d = run
      at hawaited hanswer ⊢
    obtain ⟨⟨place, answer⟩, d₁⟩ := run
    have hplace : place.val < (batch.filter (·.isOpen)).length := by
      simpa [hopen] using place.isLt
    obtain ⟨before, s, after, rfl, hs, hat, heq⟩ := Sent.answerAt_eq hplace answer
    -- the place among the open calls is that of the request which was answered
    have hcall : (first.call.on connection :: others.map (·.call.on connection)).get place =
        s.call.on connection := by
      rw [hopen] at hat
      have hget := congrArg (Option.map (·.call.on connection)) hat
      rw [← List.getElem?_map] at hget
      exact (List.getElem_eq_iff _).2 hget
    dsimp only at hawaited hanswer ⊢
    rw [heq]
    refine ih (.answer sent unfailed answer) ?_ hawaited ?_
    · intro t ht other hother
      rcases List.mem_append.1 ht with ht | ht
      · exact hgiven t (List.mem_append_left _ ht) other hother
      · rcases List.mem_cons.1 ht with rfl | ht
        · obtain rfl := Option.some.inj hother
          exact hcall ▸ hanswer
        · exact hgiven t (List.mem_append_right _ (List.mem_cons_of_mem _ ht)) other hother
    · have hclosed : ({ s with answer := some answer } : Sent α).isOpen = false := rfl
      rw [List.filter_append, List.filter_cons_of_pos hs, List.length_append,
        List.length_cons] at hcount
      rw [List.filter_append, List.filter_cons_of_neg (Bool.eq_false_iff.1 hclosed),
        List.length_append]
      omega

/-- **Calls that are made together** all go out before an answer is awaited, but for those after one
that fails as soon as it is sent.  They are put on record when it is over. -/
theorem sendAll_spec {d : Debugger σ} (h : Keeps d.generation calls holds given) (hd : holds d) :
    ∃ d₁ asked result, holds d₁ ∧
      Together (Environment.AtHand σ) d.generation calls asked result ∧
      (∀ request answer, .request request answer ∈ asked → given request answer) ∧
      sendAll calls d = (result, { d₁ with exchanges := asked.reverse ++ d₁.exchanges }) := by
  obtain ⟨hposted, hgiven, hholds⟩ := postEach_spec h hd
  obtain ⟨hbatch, hall, hkept, hover⟩ := awaitEach_spec h hposted hgiven hholds
    (List.length_filter_le (·.isOpen) (postEach d.generation calls d).1)
  refine ⟨_, _, _, hkept, hbatch.together hover, fun request answer hmem => ?_, rfl⟩
  obtain ⟨s, hs, rfl, hanswer⟩ := Sent.exists_of_request_mem_conclude hmem
  exact hall s hs answer hanswer

end Steps
end Action
end DebugConsole
