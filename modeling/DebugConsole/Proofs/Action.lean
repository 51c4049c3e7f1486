/-
# Running actions and reactions

An action is a function of the state it starts in.  The `_apply` lemmas say what
each way to build an action does to a state; with them a proof follows an action
step by step.

`Action.Within R a` says that `a` relates, by `R`, every state with the one it
leaves behind, also where it fails.  Where `R` is a preorder, this is inherited by
all ways to build an action (`within_bind`, `within_tryCatch`, …), so that a
property of a whole operation follows from its requests and assignments.
`Action.WithinSession R a` asks this only of states that have a session, and
`Action.FailsWithin R a` only where the action fails.

Every request is answered by the environment in one of three ways (`Environment.Yields`) and put on
record (`Action.Notes`).
-/

import DebugConsole.Debugger.Batch
import Mathlib.Order.Defs.Unbundled
import Mathlib.Tactic.SplitIfs

namespace DebugConsole

variable {σ α β : Type}

namespace Action

theorem pure_apply (x : α) (d : Debugger σ) : (pure x : Action σ α) d = (.ok x, d) := rfl

theorem throw_apply (e : Error) (d : Debugger σ) :
    (throw e : Action σ α) d = (.error e, d) := rfl

theorem get_apply (d : Debugger σ) : (get : Action σ (Debugger σ)) d = (.ok d, d) := rfl

theorem modify_apply (f : Debugger σ → Debugger σ) (d : Debugger σ) :
    (modify f : Action σ PUnit) d = (.ok ⟨⟩, f d) := rfl

theorem ofExcept_apply (result : Except Error α) (d : Debugger σ) :
    ofExcept result d = (result, d) := rfl

theorem react_apply (r : Reaction σ α) (d : Debugger σ) :
    react r d = (.ok (r d).1, (r d).2) := rfl

/-- The second action starts where the first has left off, unless that failed. -/
theorem bind_apply (a : Action σ α) (f : α → Action σ β) (d : Debugger σ) :
    (a >>= f) d = match a d with
      | (.ok x, d') => f x d'
      | (.error e, d') => (.error e, d') := by
  show (ExceptT.bind a f) d = _
  simp only [ExceptT.bind, ExceptT.mk, bind, StateT.bind]
  rcases a d with ⟨_ | _, _⟩ <;> rfl

/-- A failure is handled in the state that it has left behind. -/
theorem tryCatch_apply (a : Action σ α) (handler : Error → Action σ α) (d : Debugger σ) :
    (tryCatch a handler) d = match a d with
      | (.ok x, d') => (.ok x, d')
      | (.error e, d') => handler e d' := by
  show (ExceptT.tryCatch a handler) d = _
  simp only [ExceptT.tryCatch, ExceptT.mk, bind, StateT.bind]
  rcases a d with ⟨_ | _, _⟩ <;> rfl

/-- What the check for a session says; it changes nothing. -/
theorem requireSession_apply (beforeStart : Bool) (d : Debugger σ) :
    requireSession beforeStart d =
      (if d.session.isNone then .error .noSession
        else if !beforeStart && !d.phase.isStarted then .error .notYetRunning else .ok (), d) := by
  simp only [requireSession, bind_apply, get_apply]
  cases d.session.isNone
  · cases !beforeStart && !d.phase.isStarted <;> rfl
  · rfl

/-- An operation that needs a session fails without one, before it does anything. -/
theorem requireSession_bind_apply (beforeStart : Bool) (f : Unit → Action σ α)
    (d : Debugger σ) : (requireSession beforeStart >>= f) d =
      if d.session.isNone then (.error .noSession, d)
      else if !beforeStart && !d.phase.isStarted then (.error .notYetRunning, d)
      else f () d := by
  rw [bind_apply, requireSession_apply]
  split_ifs <;> rfl

/-- With a session, an operation that may come before the start is carried out. -/
theorem requireSession_bind_of_session {d : Debugger σ} (h : d.session.isSome)
    (f : Unit → Action σ α) : (requireSession true >>= f) d = f () d := by
  have hguard : ¬d.session.isNone := by simpa [Option.isSome_iff_ne_none] using h
  rw [requireSession_bind_apply, if_neg hguard, if_neg (by simp)]

/-- An action relates every state with the one it leaves behind. -/
def Within (R : Debugger σ → Debugger σ → Prop) (a : Action σ α) : Prop := ∀ d, R d (a d).2

/-- An action relates every state that has a session with the one it leaves behind. -/
def WithinSession (R : Debugger σ → Debugger σ → Prop) (a : Action σ α) : Prop :=
  ∀ d, d.session.isSome → R d (a d).2

/-- An action relates every state in which it fails with the one it leaves behind. -/
def FailsWithin (R : Debugger σ → Debugger σ → Prop) (a : Action σ α) : Prop :=
  ∀ d e, (a d).1 = .error e → R d (a d).2

/-- What holds in all states holds in those with a session. -/
theorem Within.inSession {R : Debugger σ → Debugger σ → Prop} {a : Action σ α} (h : Within R a) :
    WithinSession R a := fun d _ => h d

/-- What holds in all states holds in those in which the action fails. -/
theorem Within.fails {R : Debugger σ → Debugger σ → Prop} {a : Action σ α} (h : Within R a) :
    FailsWithin R a := fun d _ _ => h d

/-- A reaction does not fail. -/
theorem failsWithin_react {R : Debugger σ → Debugger σ → Prop} (r : Reaction σ α) :
    FailsWithin R (react r) := fun _ _ h => nomatch h

/-- An assignment leaves behind what it assigns. -/
theorem within_modify {R : Debugger σ → Debugger σ → Prop} {f : Debugger σ → Debugger σ}
    (h : ∀ d, R d (f d)) : Within R (modify f : Action σ PUnit) := h

/-- A reaction that is made part of an action leaves behind the same. -/
theorem within_react {R : Debugger σ → Debugger σ → Prop} {r : Reaction σ α}
    (h : ∀ d, R d (r d).2) : Within R (react r) := h

end Action

namespace Reaction

theorem pure_apply (x : α) (d : Debugger σ) : (pure x : Reaction σ α) d = (x, d) := rfl

theorem get_apply (d : Debugger σ) : (get : Reaction σ (Debugger σ)) d = (d, d) := rfl

/-- The second reaction starts where the first has left off. -/
theorem bind_apply (r : Reaction σ α) (f : α → Reaction σ β) (d : Debugger σ) :
    (r >>= f) d = f (r d).1 (r d).2 := rfl

/-- An action whose failure is a result of the reaction. -/
theorem run_apply (a : Action σ α) (d : Debugger σ) :
    (a.run : Reaction σ (Except Error α)) d = a d := rfl

/-- A reaction relates every state with the one it leaves behind. -/
def Within (R : Debugger σ → Debugger σ → Prop) (r : Reaction σ α) : Prop := ∀ d, R d (r d).2

end Reaction

/-! ### Requests -/

/-- An environment that was asked on a connection is in another state, and this has arrived. -/
inductive Environment.Yields [Environment σ] (connection : Nat) (environment : σ) :
    σ → Arrivals → Prop
  | request (asked : Request) (h : asked.connection = connection) :
      Yields connection environment (Environment.request asked environment).2
        (Environment.request asked environment).1.arrivals
  | post (asked : Request) (h : asked.connection = connection) :
      Yields connection environment (Environment.post asked environment).2
        (Environment.post asked environment).1.2
  | await (first : Request) (others : List Request)
      (h : ∀ asked ∈ first :: others, asked.connection = connection) :
      Yields connection environment (Environment.await first others environment).2
        (Environment.await first others environment).1.2.arrivals

/-- A call as a question on a connection, answered or given up. -/
inductive Exchange.IsOf (connection : Nat) (call : Protocol.Call α) : Exchange → Prop
  | request (answer : Except Error Json) :
      IsOf connection call (.request (call.on connection) answer)
  | abandoned (reason : Error) : IsOf connection call (.abandoned (call.on connection) reason)

/-- Where there is a session, a call may be put on record, whatever has become of it. -/
def Action.Notes (R : Debugger σ → Debugger σ → Prop) (call : Protocol.Call α) : Prop :=
  ∀ (d : Debugger σ) e, d.session.isSome → Exchange.IsOf d.generation call e →
    R d { d with exchanges := e :: d.exchanges }

/-! ### Preorders are inherited -/

section Preorder

variable {R : Debugger σ → Debugger σ → Prop} [IsPreorder (Debugger σ) R]

namespace Action

theorem within_pure (x : α) : Within R (pure x : Action σ α) := fun d => refl_of R d

theorem within_throw (e : Error) : Within R (throw e : Action σ α) := fun d => refl_of R d

theorem within_get : Within R (get : Action σ (Debugger σ)) := fun d => refl_of R d

theorem within_ofExcept (result : Except Error α) : Within R (ofExcept result : Action σ α) :=
  fun d => refl_of R d

theorem within_requireSession (beforeStart : Bool) :
    Within R (requireSession beforeStart : Action σ Unit) := fun d => by
  rw [requireSession_apply]
  exact refl_of R d

/-- Two actions are related where each of them is. -/
theorem within_bind {a : Action σ α} {f : α → Action σ β} (ha : Within R a)
    (hf : ∀ x, Within R (f x)) : Within R (a >>= f) := fun d => by
  have h₁ := ha d
  rw [bind_apply]
  rcases h : a d with ⟨_ | x, d'⟩ <;> rw [h] at h₁
  · exact h₁
  · exact trans_of R h₁ (hf x d')

/-- After the check for a session there is one. -/
theorem within_requireSession_bind {beforeStart : Bool} {f : Unit → Action σ α}
    (h : WithinSession R (f ())) : Within R (requireSession beforeStart >>= f) := fun d => by
  rw [requireSession_bind_apply]
  split_ifs with hsession
  · exact refl_of R d
  · exact refl_of R d
  · exact h d (by simpa [Option.isSome_iff_ne_none] using hsession)

/-- The same with a session, which the first action must leave open. -/
theorem withinSession_bind (hsession : ∀ {d d'}, R d d' → d'.session.isSome = d.session.isSome)
    {a : Action σ α} {f : α → Action σ β} (ha : WithinSession R a)
    (hf : ∀ x, WithinSession R (f x)) : WithinSession R (a >>= f) := fun d hd => by
  have h₁ := ha d hd
  rw [bind_apply]
  rcases h : a d with ⟨_ | x, d'⟩ <;> rw [h] at h₁
  · exact h₁
  · exact trans_of R h₁ (hf x d' (hsession h₁ ▸ hd))

/-- Where two actions fail, the first one may have succeeded before. -/
theorem failsWithin_bind {a : Action σ α} {f : α → Action σ β} (ha : Within R a)
    (hf : ∀ x, FailsWithin R (f x)) : FailsWithin R (a >>= f) := fun d e he => by
  have h₁ := ha d
  rw [bind_apply] at he ⊢
  rcases h : a d with ⟨_ | x, d'⟩ <;> rw [h] at h₁ he
  · exact h₁
  · exact trans_of R h₁ (hf x d' e he)

/-- A handler starts where the failed action has left off. -/
theorem within_tryCatch {a : Action σ α} {handler : Error → Action σ α} (ha : Within R a)
    (hh : ∀ e, Within R (handler e)) : Within R (tryCatch a handler) := fun d => by
  have h₁ := ha d
  rw [tryCatch_apply]
  rcases h : a d with ⟨e | _, d'⟩ <;> rw [h] at h₁
  · exact trans_of R h₁ (hh e d')
  · exact h₁

end Action

namespace Reaction

theorem within_pure (x : α) : Within R (pure x : Reaction σ α) := fun d => refl_of R d

theorem within_get : Within R (get : Reaction σ (Debugger σ)) := fun d => refl_of R d

/-- Two reactions are related where each of them is. -/
theorem within_bind {r : Reaction σ α} {f : α → Reaction σ β} (hr : Within R r)
    (hf : ∀ x, Within R (f x)) : Within R (r >>= f) :=
  fun d => trans_of R (hr d) (hf _ _)

end Reaction
end Preorder
end DebugConsole
