/-
# What looking at a program comes to

Most operations are made of a few kinds of steps.  A preorder on debuggers that the
steps respect is respected by the operations made of them, so it is enough to say of a
preorder which steps it admits:

| class | steps | operations |
| --- | --- | --- |
| `AdmitsQueries` | queries in a session, questions about paths | asking, stepping, pausing |
| `AdmitsLookUps` | look-ups of texts | sources, where a thread stands |
| `AdmitsSelections` | changes of threads that stop or resume none | selecting |
| `AdmitsViews` | changes of threads that stop none | threads that come and go |
| `AdmitsReports` | changes of threads, console and live phase | resuming, reports of the adapter |

Each class takes in the one before, but for look-ups: a text is obtained and kept in one step, so
that a preorder may depend on either, and a file is not read for anything else.  Requests are
admitted only where there is a session, which every operation makes sure of first.

Calls are of many kinds, so which of them may be put on record is said call by call (`Notes`).
A call that may be put on record may be made alone, and any number of them together
(`inSession_sendAll`), whether they are all answered or some are given up.
-/

import DebugConsole.Debugger.Lifecycle
import DebugConsole.Debugger.Signal
import DebugConsole.Proofs.Together

namespace DebugConsole

open Protocol

variable {σ α : Type}

/-- Does the program run, or stand at some line? -/
def Phase.isLive : Phase → Bool
  | .running => true
  | .stopped => true
  | _ => false

/-- The commands that look at a program or let it go on. -/
def plainCommands : List String :=
  ["threads", "pause", "continue", "next", "stepIn", "stackTrace", "scopes", "variables",
    "evaluate", "source"]

/-- The commands among them that ask for no text. -/
def queryCommands : List String :=
  ["threads", "pause", "continue", "next", "stepIn", "stackTrace", "scopes", "variables",
    "evaluate"]

/-- Queries are plain commands. -/
theorem plainCommands_of_query {command : String} (h : queryCommands.contains command) :
    plainCommands.contains command := by
  have hplain : ∀ command ∈ queryCommands, plainCommands.contains command := by decide
  exact hplain command (by simpa using h)

namespace Threads

/-! ### Changes that neither stop nor resume a thread -/

/-- Which threads run, in their order. -/
def statuses (ts : Threads) : List Bool := ts.list.map (·.running)

/-- Whether all threads run is seen from their statuses. -/
theorem allRunning_eq (ts : Threads) : ts.allRunning = ts.statuses.all id := by
  rw [statuses, List.all_map]
  rfl

/-- Turning to another thread stops and resumes none. -/
theorem statuses_setFocus {ts ts' : Threads} {id : Int64} (h : ts.setFocus id = .ok ts') :
    ts'.statuses = ts.statuses := by
  unfold setFocus at h
  split at h <;> cases h
  rfl

/-- A change that keeps a property of threads keeps it in a list. -/
theorem map_changeFirst {γ : Type} {g : Thread → γ} {f : Thread → Thread}
    (hf : ∀ t, g (f t) = g t) (p : Thread → Bool) (list : List Thread) :
    (changeFirst p f list).map g = list.map g := by
  induction list with
  | nil => rfl
  | cons t rest ih =>
    rw [changeFirst]
    split
    · rw [List.map_cons, List.map_cons, hf]
    · rw [List.map_cons, List.map_cons, ih]

/-- Selecting a frame stops and resumes no thread. -/
theorem statuses_selectFrame {ts ts' : Threads} {id : Int64} {place : UInt64}
    (h : ts.selectFrame id place = .ok ts') : ts'.statuses = ts.statuses := by
  unfold selectFrame update at h
  split at h <;> cases h
  refine map_changeFirst (g := (·.running)) ?_ _ _
  exact fun _ => rfl

/-! ### Changes that stop no thread -/

/-- A change that keeps a property does so wherever all threads have it. -/
theorem all_changeFirst {p : Thread → Bool} {f : Thread → Thread} {q : Thread → Bool}
    (hf : ∀ t, q t → q (f t)) {list : List Thread} (h : list.all q) :
    (changeFirst p f list).all q := by
  induction list with
  | nil => rfl
  | cons t rest ih =>
    obtain ⟨ht, hrest⟩ := Bool.and_eq_true_iff.1 (List.all_cons ▸ h)
    rw [changeFirst]
    split <;> rw [List.all_cons, Bool.and_eq_true_iff]
    · exact ⟨hf t ht, hrest⟩
    · exact ⟨ht, ih hrest⟩

/-- A thread that goes on running may change otherwise. -/
theorem allRunning_update {ts ts' : Threads} {id : Int64} {f : Thread → Thread}
    (hf : ∀ t, t.running → (f t).running) (h : ts.update id f = .ok ts')
    (hall : ts.allRunning) : ts'.allRunning := by
  unfold update at h
  split at h
  · cases h
    exact all_changeFirst hf hall
  · cases h

/-- A thread that runs may be added. -/
theorem allRunning_insert {ts : Threads} {t : Thread} (ht : t.running) (hall : ts.allRunning) :
    (ts.insert t).allRunning := by
  unfold insert
  split
  · exact all_changeFirst (fun _ _ => ht) hall
  · rw [allRunning, List.all_append, Bool.and_eq_true_iff]
    exact ⟨hall, by simpa using ht⟩

/-- A thread may go. -/
theorem allRunning_remove {ts : Threads} (id : Int64) (hall : ts.allRunning) :
    (ts.remove id).allRunning :=
  List.all_eq_true.2 fun t ht => List.all_eq_true.1 hall t (List.mem_filter.1 ht).1

end Threads

variable [Environment σ]

/-! ### Which steps are admitted -/

/-- A preorder that asking respects. -/
class AdmitsQueries (R : Debugger σ → Debugger σ → Prop) : Prop
    extends IsPreorder (Debugger σ) R where
  session : ∀ {d d'}, R d d' → d'.session.isSome = d.session.isSome
  asks : ∀ {d : Debugger σ} {environment arrivals},
    Environment.Yields d.generation d.environment environment arrivals →
      R d { d.receive arrivals with environment }
  notes : ∀ {α : Type} {call : Call α}, queryCommands.contains call.command → Action.Notes R call
  canonical : ∀ path, Action.Within R (Action.canonical path)

/-- A preorder that looking up texts respects. -/
class AdmitsLookUps (R : Debugger σ → Debugger σ → Prop) : Prop extends AdmitsQueries R where
  heldText : ∀ reference, Action.WithinSession R (Debugger.keptLines (.reference reference)
    (Action.send (Call.source { sourceReference := reference })))
  fileText : ∀ path, Action.Within R (Debugger.keptLines (.path path) (Action.readFile path))

/-- A preorder that selecting respects. -/
class AdmitsSelections (R : Debugger σ → Debugger σ → Prop) : Prop extends AdmitsQueries R where
  selection : ∀ {d threads}, threads.statuses = d.threads.statuses → R d { d with threads }

/-- A preorder that looking at a program respects. -/
class AdmitsViews (R : Debugger σ → Debugger σ → Prop) : Prop extends AdmitsQueries R where
  view : ∀ {d threads}, (d.threads.allRunning → threads.allRunning) → R d { d with threads }

instance {R : Debugger σ → Debugger σ → Prop} [AdmitsViews R] : AdmitsSelections R where
  selection hthreads := AdmitsViews.view fun hall => by
    rwa [Threads.allRunning_eq, hthreads, ← Threads.allRunning_eq]

/-- A preorder that what the adapter says of threads respects. -/
class AdmitsReports (R : Debugger σ → Debugger σ → Prop) : Prop extends AdmitsViews R where
  threads : ∀ d threads, R d { d with threads }
  console : ∀ d console, R d { d with console }
  live : ∀ {d phase}, d.phase.isLive → phase.isLive → R d { d with phase }

/-! ### Asking -/

section Queries

variable {R : Debugger σ → Debugger σ → Prop} [AdmitsQueries R]

namespace Action

/-- One step after the other, in a session. -/
theorem inSession_bind {β : Type} {a : Action σ α} {f : α → Action σ β} (ha : WithinSession R a)
    (hf : ∀ x, WithinSession R (f x)) : WithinSession R (a >>= f) :=
  withinSession_bind AdmitsQueries.session ha hf

/-- A call that may be put on record may be made. -/
theorem Notes.send {call : Call α} (h : Notes R call) :
    WithinSession R (send call : Action σ α) := fun d hd => by
  have hasked : R d {
      d.receive (Environment.request (call.on d.generation) d.environment).1.arrivals with
        environment := (Environment.request (call.on d.generation) d.environment).2 } :=
    AdmitsQueries.asks (.request _ rfl)
  exact trans_of R hasked (h _ _ (Option.isSome_map.trans hd) (.request _))

/-- Calls that may be put on record may be made together. -/
theorem inSession_sendAll {calls : List (Call α)}
    (h : ∀ call ∈ calls, Notes (σ := σ) R call) :
    WithinSession R (sendAll calls : Action σ (List α)) := fun d hd => by
  have hkeeps : Keeps d.generation calls
      (fun d' => R d d' ∧ d'.generation = d.generation) fun _ _ => True := {
    post call hcall d' := fun ⟨hrelated, hgeneration⟩ =>
      ⟨⟨trans_of R hrelated (AdmitsQueries.asks (.post _ hgeneration.symm)), hgeneration⟩,
        fun _ _ => trivial⟩
    await first others hrequests d' := fun ⟨hrelated, hgeneration⟩ => by
      have hconnection : ∀ asked ∈ first :: others, asked.connection = d'.generation :=
        fun asked hasked => by
          obtain ⟨call, -, rfl⟩ := hrequests asked hasked
          exact hgeneration.symm
      exact ⟨⟨trans_of R hrelated (AdmitsQueries.asks (.await _ _ hconnection)), hgeneration⟩,
        trivial⟩ }
  obtain ⟨d₁, asked, result, ⟨hrelated, hgeneration⟩, htogether, -, heq⟩ :=
    sendAll_spec hkeeps ⟨refl_of R d, rfl⟩
  -- what was asked is put on record one question after the other
  have hnoted : ∀ new : List Exchange, (∀ e ∈ new, ∃ call ∈ calls, e.IsOf d.generation call) →
      R d { d₁ with exchanges := new ++ d₁.exchanges } := by
    intro new hnew
    induction new with
    | nil => exact hrelated
    | cons e rest ih =>
      obtain ⟨⟨call, hcall, hof⟩, hrest⟩ := List.forall_mem_cons.1 hnew
      exact trans_of R (ih hrest) (h call hcall { d₁ with exchanges := rest ++ d₁.exchanges } e
        ((AdmitsQueries.session hrelated).trans hd) (hgeneration.symm ▸ hof))
  rw [heq]
  exact hnoted _ fun e he => htogether.exists_isOf (List.mem_reverse.1 he)

end Action

/-- Queries may be made. -/
theorem AdmitsQueries.send {call : Call α} (h : queryCommands.contains call.command) :
    Action.WithinSession R (Action.send call : Action σ α) := (AdmitsQueries.notes h).send

namespace Debugger

open DebugConsole.Action

/-- The thread in focus is looked up without a question. -/
theorem within_activeThread : Within R (activeThread : Action σ Thread) := by
  refine within_bind (within_requireSession _) fun _ => within_bind within_get fun d => ?_
  split
  · exact within_pure _
  · exact within_throw _

theorem within_knownThreads : Within R (knownThreads : Action σ Threads) :=
  within_bind (within_requireSession _) fun _ => within_bind within_get fun _ => within_pure _

/-- A stack is asked for. -/
theorem within_stackTrace (threadId levels : Int64) :
    Within R (stackTrace threadId levels : Action σ (List StackFrame)) :=
  within_requireSession_bind (AdmitsQueries.send rfl)

/-- The current frame is found by asking for the stack. -/
theorem within_currentFrame : Within R (currentFrame : Action σ (Option StackFrame)) :=
  within_bind within_activeThread fun _ => within_bind (within_stackTrace _ _) fun _ =>
    within_pure _

/-- Scopes are asked for, and then the variables of the chosen ones. -/
theorem within_scopeContents (scopeName : Option String) :
    Within R (scopeContents scopeName : Action σ (List ScopeVariables)) := by
  refine within_requireSession_bind (inSession_bind within_currentFrame.inSession fun f => ?_)
  cases f with
  | none => exact (within_pure _).inSession
  | some frame =>
    refine inSession_bind (AdmitsQueries.send rfl) fun scopes =>
      inSession_bind (within_ofExcept _).inSession fun chosen =>
        inSession_bind (inSession_sendAll ?_) fun _ => (within_pure _).inSession
    exact List.forall_mem_map.2 fun _ _ => AdmitsQueries.notes rfl

/-- An expression is evaluated in the current frame. -/
theorem within_evaluate (expression : String) :
    Within R (evaluate expression : Action σ EvaluateBody) :=
  within_requireSession_bind (inSession_bind within_currentFrame.inSession fun _ =>
    AdmitsQueries.send rfl)

/-- The thread in focus is asked to pause, if there is one. -/
theorem within_pause : Within R (pause : Action σ Unit) := by
  refine within_requireSession_bind (inSession_bind within_get.inSession fun d => ?_)
  split
  · exact AdmitsQueries.send rfl
  · exact (within_pure _).inSession

/-- A step into what is called is a query. -/
theorem within_stepIn : Within R (stepIn : Action σ Unit) :=
  within_requireSession_bind (inSession_bind within_activeThread.inSession fun _ =>
    AdmitsQueries.send rfl)

theorem within_stepOver : Within R (stepOver : Action σ Unit) :=
  within_requireSession_bind (inSession_bind within_activeThread.inSession fun _ =>
    AdmitsQueries.send rfl)

end Debugger
end Queries

/-! ### Looking up texts -/

namespace SourceTexts

/-- A text is obtained where none is kept, and then kept. -/
theorem fetch_apply {τ : Type} (texts : SourceTexts) (key : Key)
    (source : StateM τ (Except Error String)) (s : τ) :
    texts.fetch (m := StateM τ) key source s =
      match texts.find? key with
      | some lines => ((.ok lines, texts), s)
      | none => match source s with
        | (.ok text, s') => ((.ok (Text.lines text), texts.keep key (Text.lines text)), s')
        | (.error e, s') => ((.error e, texts), s') := by
  unfold fetch
  cases texts.find? key with
  | some lines => rfl
  | none =>
    simp only [bind, StateT.bind]
    rcases source s with ⟨_ | text, s'⟩ <;> rfl

end SourceTexts

section LookUps

variable {R : Debugger σ → Debugger σ → Prop}

namespace Debugger

open DebugConsole.Action

omit [Environment σ] in
/-- A text is obtained where it is not kept yet, and kept unless that fails. -/
theorem keptLines_apply (key : SourceTexts.Key) (source : Action σ String) (d : Debugger σ) :
    keptLines key source d = match d.texts.find? key with
      | some lines => (.ok lines, d)
      | none => match source d with
        | (.ok text, d') =>
          (.ok (Text.lines text), { d' with texts := d.texts.keep key (Text.lines text) })
        | (.error e, d') => (.error e, { d' with texts := d.texts }) := by
  unfold keptLines
  rw [SourceTexts.fetch_apply]
  cases d.texts.find? key with
  | some lines => rfl
  | none => rcases source d with ⟨_ | text, d'⟩ <;> rfl

omit [Environment σ] in
/-- What obtaining a text does is all that a look-up of lines does besides keeping them. -/
theorem related_keptLines [IsPreorder (Debugger σ) R] (hkeep : ∀ d texts, R d { d with texts })
    (key : SourceTexts.Key) {source : Action σ String} {d : Debugger σ}
    (h : R d (source d).2) : R d (keptLines key source d).2 := by
  rw [keptLines_apply]
  cases d.texts.find? key with
  | some lines => exact refl_of R d
  | none =>
    rcases hrun : source d with ⟨_ | text, d'⟩ <;> rw [hrun] at h
    · exact trans_of R h (hkeep d' _)
    · exact trans_of R h (hkeep d' _)

/-- Where it does not matter what is kept, obtaining the texts is all that matters. -/
theorem admitsLookUps_of_keep [AdmitsQueries R] (hkeep : ∀ d texts, R d { d with texts })
    (hsource : ∀ reference, WithinSession R
      (send (Call.source { sourceReference := reference }) : Action σ String))
    (hfile : ∀ path, Within R (readFile path : Action σ String)) : AdmitsLookUps R where
  heldText reference d hd := related_keptLines hkeep _ (hsource reference d hd)
  fileText path d := related_keptLines hkeep _ (hfile path d)

variable [AdmitsLookUps R]

/-- The lines of a source are looked up, whichever kind it is of. -/
theorem within_sourceLines (source : Source) (start length : Nat) :
    Within R (sourceLines source start length : Action σ (List String)) := by
  unfold sourceLines
  split
  · exact within_requireSession_bind (inSession_bind (AdmitsLookUps.heldText _) fun _ =>
      (within_pure _).inSession)
  · exact within_bind (AdmitsLookUps.fileText _) fun _ => within_pure _
  · exact within_pure _

/-- The top of a stack is asked for, and its line looked up. -/
theorem within_topOfStack (threadId : Int64) :
    Within R (topOfStack threadId : Action σ (Option String)) := by
  refine within_bind (within_stackTrace _ _) fun frames => ?_
  split
  · exact within_pure _
  split
  · exact within_pure _
  split
  · exact within_pure _
  refine within_bind (within_tryCatch ?_ fun _ => within_pure _) fun _ => within_pure _
  exact within_bind (within_sourceLines _ _ _) fun _ => within_pure _

end Debugger
end LookUps

/-! ### Selecting -/

section Selections

variable {R : Debugger σ → Debugger σ → Prop} [AdmitsSelections R]

namespace Debugger

open DebugConsole.Action

/-- Where the threads can be changed, none of them is stopped or resumed. -/
theorem within_onThreads {f : Threads → Except Error Threads}
    (hf : ∀ ts ts' : Threads, f ts = .ok ts' → ts'.statuses = ts.statuses) :
    Within R (Action.onThreads f : Action σ Unit) := fun d => by
  simp only [Action.onThreads, bind_apply, get_apply, ofExcept_apply]
  cases hthreads : f d.threads with
  | error e => exact refl_of R d
  | ok threads => exact AdmitsSelections.selection (d := d) (hf _ _ hthreads)

/-- Turning to another thread stops and resumes none. -/
theorem within_focusThread (id : Int64) : Within R (focusThread id : Action σ Unit) :=
  within_bind (within_requireSession _) fun _ => within_onThreads fun _ _ =>
    Threads.statuses_setFocus

/-- Selecting a frame asks whether there is one, and stops and resumes no thread. -/
theorem within_selectFrame (threadId : Int64) (place : UInt64) :
    Within R (selectFrame threadId place : Action σ Unit) := by
  refine within_bind (within_stackTrace _ _) fun frames => ?_
  split
  · exact within_throw _
  · exact within_onThreads fun _ _ => Threads.statuses_selectFrame

end Debugger
end Selections

/-! ### Looking -/

section Views

variable {R : Debugger σ → Debugger σ → Prop} [AdmitsViews R]

namespace Reaction

/-- A change of the threads that stops none of them. -/
theorem within_onThreads {f : Threads → Threads}
    (hf : ∀ ts : Threads, ts.allRunning → (f ts).allRunning) :
    Within R (onThreads f : Reaction σ Unit) :=
  fun d => AdmitsViews.view (d := d) (hf d.threads)

end Reaction

namespace Debugger

open DebugConsole.Action

/-- The adapter lists threads without saying that any of them has stopped. -/
theorem within_refreshThreads : Within R (refreshThreads : Action σ Unit) :=
  within_requireSession_bind (inSession_bind (AdmitsQueries.send rfl) fun _ =>
    Within.inSession (within_react (Reaction.within_onThreads fun _ _ =>
      List.all_map.trans (List.all_eq_true.2 fun _ _ => rfl))))

/-- A thread that starts runs, and one that exits is forgotten. -/
theorem within_onThread (body : ThreadBody) :
    Reaction.Within R (onThread body : Reaction σ Unit) := by
  unfold onThread
  split
  · refine Reaction.within_bind (Reaction.within_onThreads fun _ => Threads.allRunning_insert rfl)
      fun _ => Reaction.within_bind (fun d => within_refreshThreads d) fun _ =>
        Reaction.within_pure _
  · split
    · exact Reaction.within_onThreads fun _ => Threads.allRunning_remove _
    · exact Reaction.within_pure _

end Debugger
end Views

/-! ### Reports of the adapter -/

section Reports

variable {R : Debugger σ → Debugger σ → Prop} [AdmitsReports R]

namespace Debugger

open Reaction

theorem within_onConsole (f : Console → Console) : Within R (onConsole f : Reaction σ Unit) :=
  fun d => AdmitsReports.console d _

/-- Threads that go on make the program live, and the console close. -/
theorem within_noteContinued (threadId : Int64) (allThreads : Bool) :
    Within R (noteContinued threadId allThreads : Reaction σ Unit) := by
  have hthreads (f : Threads → Threads) : Within R (onThreads f : Reaction σ Unit) :=
    fun d => AdmitsReports.threads d _
  have hrest : Within R (do
      let d ← get
      if d.threads.allRunning then
        if d.phase = .stopped then enter .running
        closeInput : Reaction σ Unit) := by
    intro d
    rw [Reaction.bind_apply, Reaction.get_apply]
    split
    · split
      · rename_i hphase
        have hlive : R d { d with phase := .running } :=
          AdmitsReports.live (by rw [hphase]; rfl) rfl
        exact trans_of R hlive (within_onConsole _ _)
      · exact within_onConsole _ d
    · exact refl_of R d
  unfold noteContinued
  split
  · exact within_bind (hthreads _) fun _ => hrest
  · exact within_bind (hthreads _) fun _ => hrest

/-- Resuming asks for it, and notes what the answer says. -/
theorem within_continueRunning : Action.Within R (continueRunning : Action σ Unit) :=
  Action.within_requireSession_bind <|
    Action.inSession_bind (R := R) within_activeThread.inSession fun _ =>
      Action.inSession_bind (AdmitsQueries.send rfl) fun _ =>
        (Action.within_react (within_noteContinued _ _)).inSession

/-- A stop changes threads, phase and console. -/
theorem within_noteStopped (body : StoppedBody) :
    Within R (noteStopped body : Reaction σ Bool) := by
  have hthreads (f : Threads → Threads) : Within R (onThreads f : Reaction σ Unit) :=
    fun d => AdmitsReports.threads d _
  have hrefresh : Within R ((refreshThreads : Action σ Unit).run : Reaction σ _) :=
    fun d => within_refreshThreads d
  have hmark : Within R (do
      onThreads fun ts => ts.markAllStopped.clearAllFrames
      return true : Reaction σ Bool) := within_bind (hthreads _) fun _ => within_pure _
  have hall (id : Int64) : Within R (do
      onThreads (·.ensureKnown id)
      onThreads fun ts => ts.markAllStopped.clearAllFrames
      return true : Reaction σ Bool) := within_bind (hthreads _) fun _ => hmark
  unfold noteStopped
  split
  · refine within_bind within_get fun d => ?_
    dsimp only
    split
    · refine within_bind hrefresh fun _ => ?_
      split
      · exact hall _
      · exact hmark
    · split
      · exact hall _
      · exact hmark
  · split
    · exact within_bind (hthreads _) fun _ => within_bind (hthreads _) fun _ =>
        within_bind (hthreads _) fun _ => within_pure _
    · exact within_bind (within_onConsole _) fun _ => within_pure _

/-- Where a thread stands is looked up and written out. -/
theorem within_showStop [AdmitsLookUps R] (threadId : Option Int64) :
    Within R (showStop threadId : Reaction σ Unit) := by
  refine within_bind within_get fun d => ?_
  split
  · exact within_onConsole _
  · refine within_bind (fun d => AdmitsReports.threads d _) fun _ => ?_
    refine within_bind (fun d => within_topOfStack _ d) fun top => ?_
    split
    · exact within_bind (within_onConsole _) fun _ => within_onConsole _
    · exact within_onConsole _

/-- A report of a stop is noted, and then shown. -/
theorem within_onStopped [AdmitsLookUps R] (body : StoppedBody) :
    Within R (onStopped body : Reaction σ Unit) := by
  have hnote : ∀ firstStop : Bool, Within R (do
      if ← noteStopped body then
        if (← get).phase = .running then enter .stopped
        if firstStop then showStop body.threadId : Reaction σ Unit) := by
    intro firstStop
    have hshow : Within R (if firstStop then showStop body.threadId else pure () :
        Reaction σ Unit) := by
      split
      · exact within_showStop _
      · exact within_pure _
    refine within_bind (within_noteStopped body) fun noted => ?_
    split
    · intro d
      rw [Reaction.bind_apply, Reaction.get_apply]
      dsimp only
      split
      · rename_i hphase
        have hlive : R d { d with phase := .stopped } :=
          AdmitsReports.live (by rw [hphase]; rfl) rfl
        exact trans_of R hlive (hshow _)
      · exact hshow d
    · exact within_pure _
  unfold onStopped
  split
  · exact within_bind (within_onConsole _) fun _ => within_bind within_get fun d => hnote _
  · exact within_bind within_get fun d => hnote _

end Debugger
end Reports
end DebugConsole
