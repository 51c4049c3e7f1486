/-
# What is typed and what the adapter is told

`print` and `variables` take the rest of their line as one text.  The line was cut into words
before, and they join these again, so the adapter is told the text that was typed if and only if it
is evenly spaced:

| typed | `print` asks for the value of | `variables` asks for the scopes named |
| --- | --- | --- |
| single spaces between words | what was typed | what was typed |
| anything else | `Text.rejoined` of it | `Text.rejoined` of it |
-/

import DebugConsole.Proofs.Commands
import DebugConsole.Proofs.Guards
import DebugConsole.Proofs.Reencoding
import DebugConsole.Proofs.Scopes
import DebugConsole.Proofs.Words

namespace DebugConsole

open Protocol

variable {σ α : Type}

/-! ### Requests in their order -/

/-- Calls were made in their order, the first one at any rate; the last ones may be missing. -/
inductive Attempted (connection : Nat) : List (Call α) → List Exchange → Prop
  | none : Attempted connection [] []
  | last {call : Call α} {rest : List (Call α)} {e : Exchange} (made : e.IsOf connection call) :
      Attempted connection (call :: rest) [e]
  | next {call : Call α} {rest : List (Call α)} {e : Exchange} {exchanges : List Exchange}
      (made : e.IsOf connection call) (others : Attempted connection rest exchanges) :
      Attempted connection (call :: rest) (e :: exchanges)

/-- What was sent of a batch, in its order, is an attempt at it. -/
theorem Attempted.of_isPrefix {connection : Nat} {sent calls : List (Call α)}
    {exchanges : List Exchange} (hinitial : sent <+: calls) (hsome : sent = [] → calls = [])
    (h : List.Forall₂ (Exchange.IsOf connection) sent exchanges) :
    Attempted connection calls exchanges := by
  induction h generalizing calls with
  | nil =>
    rw [hsome rfl]
    exact .none
  | @cons call e rest exchanges made others ih =>
    obtain ⟨later, rfl⟩ := hinitial
    rcases rest with _ | ⟨second, rest⟩
    · cases others
      exact .last made
    · exact .next made (ih (List.prefix_append _ later) nofun)

namespace Debugger

/-- The value of an expression was asked for, and nothing else. -/
def Evaluates (expression : String) (d d' : Debugger σ) : Prop :=
  ∃ asked answer arguments, d'.exchanges = .request asked answer :: d.exchanges ∧
    asked.command = "evaluate" ∧
    asked.arguments.bind EvaluateArguments.ofJson? = some arguments ∧
    arguments.expression = expression

/-- One evaluation evaluates one expression. -/
theorem Evaluates.unique {expression other : String} {d d' : Debugger σ}
    (h : Evaluates expression d d') (hother : Evaluates other d d') : expression = other := by
  obtain ⟨asked, answer, arguments, hexchanges, -, harguments, rfl⟩ := h
  obtain ⟨asked', answer', arguments', hexchanges', -, harguments', rfl⟩ := hother
  obtain ⟨rfl, rfl⟩ := Exchange.request.inj (List.cons.inj (hexchanges.symm.trans hexchanges')).1
  rw [Option.some.inj (harguments.symm.trans harguments')]

/-- The variables of the scopes with a name were asked for, scope by scope, and nothing else. -/
def Chooses (name : String) (scopes : List Scope) (d d' : Debugger σ) : Prop :=
  ∃ asked, d'.exchanges = asked.reverse ++ d.exchanges ∧
    Attempted d.generation ((scopes.filter (·.isChosen (some name))).map (·.fetch)) asked

end Debugger

namespace Action

variable [Environment σ]

/-- Calls that are made together are made in their order. -/
theorem sendAll_attempted (calls : List (Call α)) (d : Debugger σ) :
    ∃ asked, (sendAll calls d).2.exchanges = asked.reverse ++ d.exchanges ∧
      Attempted d.generation calls asked := by
  obtain ⟨environment, session, asked, result, -, -, htogether, heq⟩ := sendAll_apply calls d
  obtain ⟨sent, hinitial, hsome, hsent⟩ := htogether.forall₂_isOf
  rw [heq]
  exact ⟨asked, rfl, .of_isPrefix hinitial hsome hsent⟩

end Action

namespace Debugger

open DebugConsole.Action

variable [Environment σ]

/-- With a current frame, or none on an empty stack, an expression is evaluated. -/
theorem evaluates_evaluate {d : Debugger σ} {frame : Option StackFrame}
    (hframe : (currentFrame d).1 = .ok frame) (expression : String) :
    Evaluates expression (currentFrame d).2 (evaluate expression d).2 := by
  have hchecked := checks_currentFrame.requireSession_apply hframe
  rcases hrun : currentFrame d with ⟨result, d₁⟩
  rw [hrun] at hframe
  obtain rfl : result = .ok frame := hframe
  obtain ⟨environment, session, answer, -, -, hsend⟩ := send_apply (Call.evaluate
    { expression, frameId := frame.map (·.id), context := some "repl" }) d₁
  rw [evaluate, bind_apply, hchecked]
  dsimp only
  rw [bind_apply, hrun]
  dsimp only
  rw [hsend]
  exact ⟨_, answer, _, rfl, rfl, EvaluateArguments.retrieves.read_write _, rfl⟩

/-- Where the adapter has listed its scopes, those with a name are asked for. -/
theorem chooses_scopeContents {d d₂ : Debugger σ} {frame : StackFrame} {scopes : List Scope}
    (hframe : (currentFrame d).1 = .ok (some frame))
    (hscopes : send (Call.scopes { frameId := frame.id }) (currentFrame d).2 = (.ok scopes, d₂))
    (name : String) :
    Chooses name scopes d₂ (scopeContents (some name) d).2 ∧
      ((∀ s ∈ scopes, s.name ≠ name) →
        (scopeContents (some name) d).1 = .error (.scopeNotFound name)) := by
  have hchecked := checks_currentFrame.requireSession_apply hframe
  rcases hrun : currentFrame d with ⟨result, d₁⟩
  rw [hrun] at hframe hscopes
  obtain rfl : result = .ok (some frame) := hframe
  rw [scopeContents, bind_apply, hchecked]
  dsimp only
  rw [bind_apply, hrun]
  dsimp only at hscopes ⊢
  rw [bind_apply, hscopes]
  dsimp only
  rw [bind_apply, ofExcept_apply, scopesToFetch_some]
  split_ifs with hnone
  · exact ⟨⟨[], rfl, by rw [hnone]; exact .none⟩, fun _ => rfl⟩
  · refine ⟨?_, fun hother => absurd (List.filter_eq_nil_iff.2 fun s hs => ?_) hnone⟩
    · obtain ⟨asked, hasked, hattempted⟩ :=
        sendAll_attempted ((scopes.filter (·.isChosen (some name))).map (·.fetch)) d₂
      refine ⟨asked, ?_, hattempted⟩
      dsimp only
      rw [← hasked, bind_apply, List.map_map]
      split <;> rename_i hlists <;> exact congrArg (fun run => run.2.exchanges) hlists.symm
    · simpa [Scope.isChosen] using hother s hs

end Debugger

open Debugger

/-! ### Commands -/

variable [Environment σ]

namespace Builtin

/-- What `print` writes comes after what it asks for. -/
theorem exchanges_print {args : List String} (h : args ≠ []) (d : Debugger σ) :
    (print.run args d).2.exchanges =
      (evaluate (String.intercalate " " args) d).2.exchanges := by
  have hargs : ¬args.isEmpty := by simpa using h
  unfold print
  dsimp only
  rw [if_neg hargs, Action.bind_apply]
  rcases evaluate (String.intercalate " " args) d with ⟨e | value, d'⟩
  · rfl
  · dsimp only
    rw [sayAll_apply]

/-- What `variables` writes comes after what it asks for, and it fails where that fails. -/
theorem showVariables_spec {args : List String} (h : args ≠ []) {d d' : Debugger σ}
    {result : Except Error (List ScopeVariables)}
    (hcontents : scopeContents (some (String.intercalate " " args)) d = (result, d')) :
    (showVariables.run args d).2.exchanges = d'.exchanges ∧
      ∀ e, result = .error e → (showVariables.run args d).1 = .error e := by
  have hargs : ¬args.isEmpty := by simpa using h
  unfold showVariables
  dsimp only
  rw [if_neg hargs, Action.bind_apply, hcontents]
  cases result with
  | error e => exact ⟨rfl, fun other heq => congrArg Except.error (Except.error.inj heq)⟩
  | ok scopes =>
    dsimp only
    rw [sayAll_apply]
    exact ⟨rfl, nofun⟩

end Builtin

/-- What the adapter is asked for where a user types a text behind `print` or `variables`. -/
structure PassesOn (options : CommandOptions) (text passed : String) (d : Debugger σ) : Prop where
  evaluates : ∀ frame, (currentFrame d).1 = .ok frame → Evaluates passed (currentFrame d).2
    ((CommandTable.builtin options).dispatch ("print " ++ text) d).2
  chooses : ∀ frame scopes d₂, (currentFrame d).1 = .ok (some frame) →
    Action.send (Call.scopes { frameId := frame.id }) (currentFrame d).2 = (.ok scopes, d₂) →
    Chooses passed scopes d₂
        ((CommandTable.builtin options).dispatch ("variables " ++ text) d).2 ∧
      ((∀ s ∈ scopes, s.name ≠ passed) →
        ((CommandTable.builtin options).dispatch ("variables " ++ text) d).1 =
          .error (.scopeNotFound passed))

namespace CommandTable

omit [Environment σ] in
/-- The word before a space finds the command, and the other words are its arguments. -/
theorem dispatch_append {table : CommandTable σ} (word : String) (hword : Text.IsWord word)
    {command : Command σ} (hfind : table.find? word = some command) (rest : String) :
    table.dispatch (word ++ " " ++ rest) = command.run (Text.words rest) := by
  rw [dispatch, Text.words_append hword]
  dsimp only
  rw [hfind]

/-- A typed text is passed on with its words a blank apart. -/
theorem passesOn (options : CommandOptions) {text : String} (h : Text.IsTyped text)
    (d : Debugger σ) : PassesOn options text (Text.rejoined text) d := by
  have hprint : (builtin options).dispatch ("print " ++ text) = (Builtin.print : Command σ).run _ :=
    dispatch_append "print" (by decide) rfl text
  have hvariables : (builtin options).dispatch ("variables " ++ text) =
      (Builtin.showVariables : Command σ).run _ :=
    dispatch_append "variables" (by decide) rfl text
  refine ⟨fun frame hframe => ?_, fun frame scopes d₂ hframe hscopes => ?_⟩
  · rw [hprint, Evaluates, Builtin.exchanges_print h.words_ne_nil]
    exact evaluates_evaluate hframe _
  · obtain ⟨hexchanges, herror⟩ := Builtin.showVariables_spec h.words_ne_nil (d := d) rfl
    obtain ⟨hchooses, hmissing⟩ := chooses_scopeContents hframe hscopes (Text.rejoined text)
    rw [hvariables, Chooses, hexchanges]
    exact ⟨hchooses, fun hother => herror _ (hmissing hother)⟩

/-- **What is typed is what the adapter is asked for if and only if it is evenly spaced.** -/
theorem passesOn_iff (options : CommandOptions) {text : String} (h : Text.IsTyped text)
    (d : Debugger σ) : PassesOn options text (Text.rejoined text) d ∧
      (Text.rejoined text = text ↔ Text.IsEvenlySpaced text.toList) ∧
      (∀ frame, (currentFrame d).1 = .ok frame → (Evaluates text (currentFrame d).2
        ((builtin options).dispatch ("print " ++ text) d).2 ↔ Text.IsEvenlySpaced text.toList)) ∧
      ∀ s : Scope, s.name = text →
        (s.isChosen (some (Text.rejoined text)) ↔ Text.IsEvenlySpaced text.toList) := by
  have hpasses := passesOn options h d
  have hiff := Text.rejoined_eq_iff h
  refine ⟨hpasses, hiff, fun frame hframe => ?_, fun s hs => ?_⟩
  · have hevaluates := hpasses.evaluates frame hframe
    rw [← hiff]
    exact ⟨fun hsame => hevaluates.unique hsame, fun heq => by rwa [heq] at hevaluates⟩
  · rw [← hiff, Scope.isChosen, hs, decide_eq_true_iff]
    exact eq_comm

end CommandTable

open CommandTable

/-- Two blanks in a row can be typed. -/
theorem isTyped_doubled : Text.IsTyped "a  b" := by decide

/-- A text with two blanks side by side is passed on with one. -/
theorem CommandTable.passesOn_iff_doubled :
    let d := (Move.steps Script.standing [] (Script.rehearse { frames := Script.usualFrames })).2
    let d' := ((builtin {}).dispatch ("print " ++ "a  b") d).2
    Text.IsTyped "a  b" ∧ Evaluates "a b" (currentFrame d).2 d' ∧
      ¬Evaluates "a  b" (currentFrame d).2 d' := by
  intro d d'
  have hstands : (currentFrame d).1.toOption.isSome := by decide +kernel
  rcases hframe : (currentFrame d).1 with e | frame <;> rw [hframe] at hstands
  · cases hstands
  have hjoined : Text.rejoined "a  b" = "a b" := by decide
  obtain ⟨hpasses, hiff, hexact, -⟩ := passesOn_iff {} isTyped_doubled d
  refine ⟨isTyped_doubled, hjoined ▸ hpasses.evaluates frame hframe, fun hsame => ?_⟩
  have hdoubled := hiff.2 ((hexact frame hframe).1 hsame)
  exact absurd (hjoined.symm.trans hdoubled) (by decide)

/-- What is typed is not always what the adapter is asked for. -/
theorem CommandTable.not_always_verbatim :
    ¬∀ (history : List (Step Script)) (d : Debugger Script), Run history d →
      ∀ (options : CommandOptions) (text : String), Text.IsTyped text → '\n' ∉ text.toList →
      ∀ frame, (currentFrame d).1 = .ok frame →
        Evaluates text (currentFrame d).2 ((builtin options).dispatch ("print " ++ text) d).2 := by
  intro hverbatim
  let run := Move.steps Script.standing [] (Script.rehearse { frames := Script.usualFrames })
  have hrun : Run run.1 run.2 := (Run.start _ _ _).steps _
  have hstands : (currentFrame run.2).1.toOption.isSome := by decide +kernel
  rcases hframe : (currentFrame run.2).1 with e | frame <;> rw [hframe] at hstands
  · cases hstands
  have htyped := hverbatim _ _ hrun {} "a  b" isTyped_doubled (by decide) frame hframe
  have hpassed := (passesOn {} isTyped_doubled run.2).evaluates frame hframe
  exact absurd (hpassed.unique htyped) (by decide)

end DebugConsole
