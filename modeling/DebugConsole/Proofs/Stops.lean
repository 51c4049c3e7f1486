/-
# What a stop does

A report of a stop names a thread, or says that all threads have stopped, or both; one that does
neither is ignored, and only the console says so.  A thread that has stopped has no frame selected.

| reported | threads afterwards |
| --- | --- |
| all threads | all of them have stopped; the adapter is asked for them if none is known |
| one thread | that one has stopped, the others are as before |

A thread that is named is known afterwards (`Debugger.Halts`).  Whether the stop is the first one is
told from the threads as they were before it.

| before | focus | console | asked |
| --- | --- | --- | --- |
| all threads run | the named thread, else the first one | open | for one stack at most |
| some thread has stopped | as before | open or not, as before | nothing |
-/

import DebugConsole.Proofs.Rollback
import DebugConsole.Proofs.Statuses

namespace DebugConsole

open Protocol

variable {σ : Type}

/-- Is this a request of a command, answered or not? -/
def Exchange.isFor (command : String) : Exchange → Bool
  | .request asked _ => asked.command = command
  | .abandoned asked _ => asked.command = command
  | _ => false

/-- A text was asked for, or a file was read. -/
def Exchange.IsLookUp (e : Exchange) : Prop :=
  e.isFor "source" ∨ ∃ path outcome, e = .read path outcome

/-- A request has one command. -/
theorem Exchange.isFor_of_ne {e : Exchange} {command other : String} (h : e.isFor command)
    (hne : other ≠ command) : e.isFor other = false := by
  cases e with
  | request asked _ | abandoned asked _ =>
    have hasked : asked.command = command := of_decide_eq_true h
    exact decide_eq_false fun heq => hne (heq.symm.trans hasked)
  | _ => cases h

/-- Looking up a source asks no other command. -/
theorem Exchange.IsLookUp.isFor_eq {e : Exchange} (h : e.IsLookUp) {command : String}
    (hne : command ≠ "source") : e.isFor command = false := by
  rcases h with hsource | ⟨path, outcome, rfl⟩
  · exact Exchange.isFor_of_ne hsource hne
  · rfl

namespace Threads

/-- The threads that are listed, all of them running; none where the list could not be had. -/
def ofAnswer (answer : Except Error (List ThreadInfo)) : List Thread :=
  (answer.toOption.getD []).map fun info => { id := info.id, name := info.name }

/-- Threads fresh from an answer have no selected frame. -/
theorem isTidy_ofAnswer (answer : Except Error (List ThreadInfo)) : IsTidy (ofAnswer answer) :=
  isTidy_of_forall (List.forall_mem_map.2 fun _ _ => rfl)

end Threads

namespace Action

/-- What is done after an action is related to what the action has left behind. -/
theorem related_bind {α β : Type} {R : Debugger σ → Debugger σ → Prop}
    [IsPreorder (Debugger σ) R] (a : Action σ α) {f : α → Action σ β} (hf : ∀ x, Within R (f x))
    (d : Debugger σ) : R (a d).2 ((a >>= f) d).2 := by
  rw [bind_apply]
  rcases a d with ⟨e | x, d'⟩
  · exact refl_of R d'
  · exact hf x d'

end Action

namespace Debugger

instance (allowed : Exchange → Prop) : IsPreorder (Debugger σ) (Asks allowed) where
  refl _ := .of_eq rfl
  trans _ _ _ := .trans

/-- Nothing has happened but that the environment was asked, something has arrived, and texts were
kept. -/
def Reads (d d' : Debugger σ) : Prop := ∃ texts, Waits { d with texts } d'

theorem Waits.reads {d d' : Debugger σ} (h : Waits d d') : Reads d d' := ⟨d.texts, h⟩

instance : IsPreorder (Debugger σ) Reads where
  refl d := (refl_of Waits d).reads
  trans d₁ d₂ d₃ h₁ h₂ := by
    obtain ⟨texts₁, environment, arrived, asked, rfl⟩ := h₁
    obtain ⟨texts₂, h₂⟩ := h₂
    exact ⟨texts₂, trans_of Waits ⟨environment, arrived, asked, rfl⟩ h₂⟩

variable [Environment σ]

instance : AdmitsQueries (Reads (σ := σ)) where
  session h := by
    obtain ⟨texts, environment, arrived, asked, rfl⟩ := h
    exact Option.isSome_map
  asks h := (AdmitsQueries.asks (R := Waits) h).reads
  notes _ d e _ _ := (Waits.of_exchange d e).reads
  canonical path d := (AdmitsQueries.canonical (R := Waits) path d).reads

instance : AdmitsLookUps (Reads (σ := σ)) :=
  admitsLookUps_of_keep (fun _ texts => ⟨texts, refl_of Waits _⟩)
    (fun _ d _ => (Action.waits_send _ d).reads) fun path d => (Action.waits_readFile path d).reads

/-! ### Showing where a thread stands -/

/-- Showing source lines asks for a source at most. -/
theorem looksUp_sourceLines (source : Source) (start length : Nat) :
    Action.Within (Asks Exchange.IsLookUp)
      (sourceLines source start length : Action σ (List String)) := by
  unfold sourceLines
  split
  · exact Action.within_bind (Action.within_requireSession _) fun _ => Action.within_bind
      (fun d => related_keptLines (fun _ _ => .of_eq rfl) _ (.cons rfl (.inl rfl))) fun _ =>
        Action.within_pure _
  · exact Action.within_bind
      (fun d => related_keptLines (fun _ _ => .of_eq rfl) _ (.cons rfl (.inr ⟨_, _, rfl⟩))) fun _ =>
        Action.within_pure _
  · exact Action.within_pure _

/-- A stack trace is one request, if a session is open. -/
theorem stackTrace_asks (threadId levels : Int64) (d : Debugger σ) :
    ∃ traced : List Exchange, (stackTrace threadId levels d).2.exchanges = traced ++ d.exchanges ∧
      traced.length ≤ 1 ∧ ∀ e ∈ traced, e.isFor "stackTrace" := by
  rw [stackTrace, Action.requireSession_bind_apply]
  split_ifs
  · exact ⟨[], rfl, Nat.zero_le 1, nofun⟩
  · exact ⟨[], rfl, Nat.zero_le 1, nofun⟩
  · exact ⟨[_], rfl, Nat.le_refl 1, fun e he => by rw [List.mem_singleton.1 he]; rfl⟩

/-- One stack is asked for at most, and then a line of a text. -/
theorem topOfStack_asks (threadId : Int64) (d : Debugger σ) : ∃ shown traced : List Exchange,
    (topOfStack threadId d).2.exchanges = shown ++ traced ++ d.exchanges ∧ traced.length ≤ 1 ∧
      (∀ e ∈ traced, e.isFor "stackTrace") ∧ ∀ e ∈ shown, e.IsLookUp := by
  obtain ⟨traced, htraced, hlength, hall⟩ := stackTrace_asks threadId 1 d
  have hrest : Asks Exchange.IsLookUp (stackTrace threadId 1 d).2 (topOfStack threadId d).2 := by
    refine Action.related_bind (stackTrace threadId 1) (fun frames => ?_) d
    split
    · exact Action.within_pure _
    split
    · exact Action.within_pure _
    split
    · exact Action.within_pure _
    refine Action.within_bind (Action.within_tryCatch ?_ fun _ => Action.within_pure _) fun _ =>
      Action.within_pure _
    exact Action.within_bind (looksUp_sourceLines _ _ _) fun _ => Action.within_pure _
  obtain ⟨shown, hshown, hlookups⟩ := hrest
  exact ⟨shown, traced, by rw [hshown, htraced, List.append_assoc], hlength, hall, hlookups⟩

/-- What showing a stop does: the thread gets the focus and the console opens. -/
structure ShowsStop (threadId : Option Int64) (new : List Exchange) (d d' : Debugger σ) :
    Prop where
  exchanges : d'.exchanges = new ++ d.exchanges
  unlisted : ∀ e ∈ new, e.isFor "threads" = false
  traced : new.countP (·.isFor "stackTrace") ≤ 1
  phase : d'.phase = d.phase
  threads : d'.threads.list = d.threads.list
  isOpen : d'.console.isOpen
  focus : ∀ id, threadId.or d.threads.firstStopped? = some id → (d.threads.find? id).isSome →
    d'.threads.focusId = some id

/-- A stop is shown with some requests of its own. -/
theorem exists_showStop (threadId : Option Int64) (d : Debugger σ) :
    ∃ new, ShowsStop threadId new d (showStop threadId d).2 := by
  have hopen := isOpen_showStop threadId d
  cases hfocus : threadId.or d.threads.firstStopped? with
  | none =>
    have heq : (showStop threadId d).2 = { d with console := d.console.openInput } := by
      rw [showStop, Reaction.bind_apply, Reaction.get_apply, hfocus]
      rfl
    rw [heq] at hopen ⊢
    refine ⟨[], rfl, nofun, Nat.zero_le 1, rfl, rfl, hopen, fun id hid => ?_⟩
    rw [hfocus] at hid
    cases hid
  | some focus =>
    let d₁ := { d with threads := (d.threads.setFocus focus).toOption.getD d.threads }
    have hd₁ : (Reaction.onThreads (fun ts => (ts.setFocus focus).toOption.getD ts) d).2 = d₁ := rfl
    -- but for the console it is the look-up of the line where the thread stands
    have heq : ∃ console, (showStop threadId d).2 =
        { (topOfStack focus d₁).2 with console } := by
      rw [showStop, Reaction.bind_apply, Reaction.get_apply, hfocus]
      dsimp only
      rw [Reaction.bind_apply, Reaction.bind_apply, Reaction.run_apply, hd₁]
      rcases topOfStack focus d₁ with ⟨_ | _ | line, d₂⟩ <;> exact ⟨_, rfl⟩
    obtain ⟨console, heq⟩ := heq
    obtain ⟨shown, traced, hasked, hlength, htraced, hshown⟩ := topOfStack_asks focus d₁
    obtain ⟨texts, environment, arrived, asked, hread⟩ := within_topOfStack (R := Reads) focus d₁
    have hthreads : (showStop threadId d).2.threads = d₁.threads := by rw [heq, hread]
    refine ⟨shown ++ traced, ?_, fun e he => ?_, ?_, by rw [heq, hread], ?_, hopen,
      fun id hid hknown => ?_⟩
    · rw [heq]
      exact hasked
    · rcases List.mem_append.1 he with he | he
      · exact (hshown e he).isFor_eq (by decide)
      · exact Exchange.isFor_of_ne (htraced e he) (by decide)
    · rw [List.countP_append, List.countP_eq_zero.2 fun e he => by
        rw [(hshown e he).isFor_eq (by decide)]; exact Bool.false_ne_true, Nat.zero_add]
      exact (List.countP_le_length).trans hlength
    · rw [hthreads]
      exact d.threads.list_setFocus focus
    · obtain rfl : focus = id := Option.some.inj (hfocus.symm.trans hid)
      rw [hthreads]
      exact Threads.focusId_setFocus hknown

/-! ### Noting which threads have stopped -/

/-- The threads are asked for, and where none was known they are the ones that are listed. -/
theorem refreshThreads_of_isEmpty {d : Debugger σ} (hsession : d.session.isSome)
    (hempty : d.threads.list = []) : ∃ answer,
      (refreshThreads d).2.phase = d.phase ∧
      (refreshThreads d).2.exchanges =
        .request (Call.threads.on d.generation) answer :: d.exchanges ∧
      (refreshThreads d).2.threads.list = Threads.ofAnswer (Call.threads.result answer) := by
  rw [refreshThreads, Action.requireSession_bind_of_session hsession, Action.bind_apply]
  obtain ⟨environment, session, answer, -, -, hsend⟩ := Action.send_apply Call.threads d
  rw [hsend]
  refine ⟨answer, ?_⟩
  cases Call.threads.result answer with
  | error e => exact ⟨rfl, rfl, hempty⟩
  | ok infos => exact ⟨rfl, rfl, rfl⟩

/-- What a report of a stop does to the list of threads, and which threads were asked for. -/
structure Halts (body : StoppedBody) (generation : Nat) (listed : List Exchange)
    (before after : List Thread) : Prop where
  /-- A thread that is named is known. -/
  known : ∀ id, body.threadId = some id → ∃ t ∈ after, t.id = id
  /-- Where all threads have stopped, all that are known have. -/
  all : body.allThreadsStopped → ∀ t ∈ after, t.running = false ∧ t.selectedFrame = none
  /-- They are those known before with the one that is named, unless none was known before. -/
  kept : body.allThreadsStopped → before ≠ [] →
    listed = [] ∧ after = (Threads.withNamed body.threadId before).map Thread.halted
  /-- Then they are the ones that the adapter lists, with the one that is named. -/
  obtained : body.allThreadsStopped → before = [] → ∃ answer,
    listed = [.request (Call.threads.on generation) answer] ∧
      after = (Threads.withNamed body.threadId
        (Threads.ofAnswer (Call.threads.result answer))).map Thread.halted
  /-- Where only one thread has stopped, that one has, and the others are what they were. -/
  named : body.allThreadsStopped = false → listed = [] ∧ ∃ id, body.threadId = some id ∧
    Threads.ChangesFirst id Thread.halted (Threads.withNamed (some id) before) after

/-- Where all threads have stopped, so have those that are listed, and the one that is named. -/
theorem halts_of_all {body : StoppedBody} (hall : body.allThreadsStopped) {generation : Nat}
    {listed : List Exchange} {before known : List Thread}
    (hkept : before ≠ [] → listed = [] ∧ known = before)
    (hobtained : before = [] → ∃ answer,
      listed = [.request (Call.threads.on generation) answer] ∧
        known = Threads.ofAnswer (Call.threads.result answer)) :
    Halts body generation listed before
      ((Threads.withNamed body.threadId known).map Thread.halted) where
  known id hid := by
    obtain ⟨t, ht, htid⟩ := Threads.exists_mem_withNamed id known
    rw [hid]
    exact ⟨t.halted, List.mem_map_of_mem ht, htid⟩
  all _ := List.forall_mem_map.2 fun _ _ => ⟨rfl, rfl⟩
  kept _ hbefore := (hkept hbefore).imp_right fun heq => by rw [heq]
  obtained _ hbefore := by
    obtain ⟨answer, hlisted, heq⟩ := hobtained hbefore
    exact ⟨answer, hlisted, by rw [heq]⟩
  named hnot := absurd (hnot.symm.trans hall) Bool.false_ne_true

/-- Where one thread is named, it has stopped. -/
theorem halts_of_named {body : StoppedBody} (hall : body.allThreadsStopped = false) {id : Int64}
    (hid : body.threadId = some id) (generation : Nat) (before : List Thread) :
    Halts body generation [] before
      (Threads.changeFirst (·.id = id) Thread.halted (Threads.withNamed (some id) before)) := by
  have hchanges := Threads.changesFirst_changeFirst (f := Thread.halted)
    (Threads.exists_mem_withNamed id before)
  have hnot : ¬body.allThreadsStopped := Bool.eq_false_iff.1 hall
  refine ⟨fun id' hid' => ?_, fun h => absurd h hnot, fun h => absurd h hnot,
    fun h => absurd h hnot, fun _ => ⟨rfl, id, hid, hchanges⟩⟩
  obtain ⟨left, t, right, -, ht, -, hafter⟩ := hchanges
  obtain rfl : id = id' := Option.some.inj (hid.symm.trans hid')
  exact ⟨t.halted, by rw [hafter]; simp, ht⟩

/-- **Taking note of a stop** halts the threads that it is about, and asks for the threads only where
none is known. -/
theorem exists_noteStopped {body : StoppedBody}
    (hnoted : body.threadId.isSome ∨ body.allThreadsStopped) {d : Debugger σ}
    (hsession : d.session.isSome) (htidy : Threads.IsTidy d.threads.list) : ∃ d₁ list listed,
      noteStopped body d = (true, { d₁ with threads := { d₁.threads with list } }) ∧
      (d.threads.list ≠ [] → d₁ = d) ∧ d₁.phase = d.phase ∧
      d₁.exchanges = listed ++ d.exchanges ∧
      Halts body d.generation listed d.threads.list list := by
  cases hall : body.allThreadsStopped with
  | false =>
    obtain ⟨id, hid⟩ := Option.isSome_iff_exists.1
      (hnoted.resolve_right (by rw [hall]; exact Bool.false_ne_true))
    refine ⟨d, _, [], ?_, fun _ => rfl, rfl, rfl, halts_of_named hall hid _ _⟩
    rw [noteStopped_of_named hall hid]
    dsimp only
    rw [Threads.halt_eq, Threads.ensureKnown_eq]
  | true =>
    -- whichever list it is, all of it stands then, with the thread that is named
    have hnamed (ts : Threads) (hts : Threads.IsTidy ts.list) :
        (body.threadId.elim ts ts.ensureKnown).markAllStopped.clearAllFrames =
          { ts with list := (Threads.withNamed body.threadId ts.list).map Thread.halted } := by
      have hknown : body.threadId.elim ts ts.ensureKnown =
          { ts with list := Threads.withNamed body.threadId ts.list } := by
        cases body.threadId with
        | none => rfl
        | some id => exact ts.ensureKnown_eq id
      rw [hknown]
      exact Threads.haltAll_eq (hts.withNamed _)
    have hnoted := noteStopped_of_all hall d
    dsimp only at hnoted
    cases hlist : d.threads.list with
    | nil =>
      -- none is known: those that are listed are asked for first
      have hempty : d.threads.isEmpty := by rw [Threads.isEmpty, hlist]; rfl
      obtain ⟨answer, hphase, hexchanges, hthreads⟩ := refreshThreads_of_isEmpty hsession hlist
      have hlisted : Threads.IsTidy (refreshThreads d).2.threads.list := by
        rw [hthreads]
        exact Threads.isTidy_ofAnswer _
      rw [if_pos hempty, hnamed _ hlisted] at hnoted
      exact ⟨_, _, _, hnoted, fun hne => absurd rfl hne, hphase, hexchanges,
        halts_of_all hall (fun hne => absurd rfl hne) fun _ => ⟨answer, rfl, hthreads⟩⟩
    | cons t rest =>
      have hempty : ¬d.threads.isEmpty := by
        rw [Threads.isEmpty, hlist]
        exact Bool.false_ne_true
      rw [if_neg hempty, hnamed _ htidy] at hnoted
      exact ⟨_, _, [], hnoted, fun _ => rfl, rfl, rfl,
        halts_of_all hall (fun _ => ⟨rfl, hlist⟩) fun hnil => absurd hnil (List.cons_ne_nil t rest)⟩

/-- All that halting the threads asks for is the list of threads. -/
theorem Halts.isFor {body : StoppedBody} {generation : Nat} {listed : List Exchange}
    {before after : List Thread} (h : Halts body generation listed before after) :
    ∀ e ∈ listed, e.isFor "threads" := by
  intro e he
  cases hall : body.allThreadsStopped with
  | false =>
    rw [(h.named hall).1] at he
    cases he
  | true =>
    by_cases hbefore : before = []
    · obtain ⟨answer, hlisted, -⟩ := h.obtained hall hbefore
      rw [hlisted] at he
      rw [List.mem_singleton.1 he]
      rfl
    · rw [(h.kept hall hbefore).1] at he
      cases he

/-- The thread that a first stop is shown for: the one that is named, else the first one. -/
theorem Halts.shown_eq {body : StoppedBody} {generation : Nat} {listed : List Exchange}
    {before : List Thread} {ts : Threads} (h : Halts body generation listed before ts.list) :
    body.threadId.or ts.firstStopped? = body.threadId.or (ts.list.head?.map (·.id)) := by
  cases hid : body.threadId with
  | some id => rfl
  | none =>
    have hall : body.allThreadsStopped := by
      rw [← Bool.not_eq_false]
      intro hnot
      obtain ⟨-, id, hsome, -⟩ := h.named hnot
      rw [hid] at hsome
      cases hsome
    have hstopped := h.all hall
    rw [Option.none_or, Option.none_or, Threads.firstStopped?]
    cases hlist : ts.list with
    | nil => rfl
    | cons t rest =>
      have ht : t.running = false := (hstopped t (by rw [hlist]; exact List.mem_cons_self)).1
      rw [List.find?_cons_of_pos (by rw [ht]; rfl), List.head?_cons]

/-- It is known. -/
theorem Halts.shown_known {body : StoppedBody} {generation : Nat} {listed : List Exchange}
    {before : List Thread} {ts : Threads} (h : Halts body generation listed before ts.list)
    {id : Int64} (hid : body.threadId.or (ts.list.head?.map (·.id)) = some id) :
    (ts.find? id).isSome := by
  rw [Threads.find?_isSome_iff]
  rcases Option.or_eq_some_iff.1 hid with hnamed | ⟨-, hhead⟩
  · exact h.known id hnamed
  · obtain ⟨t, ht, htid⟩ := Option.map_eq_some_iff.1 hhead
    exact ⟨t, List.mem_of_mem_head? ht, htid⟩

/-! ### Stops -/

/-- The description of a stop is shown first. -/
def describing (body : StoppedBody) (d : Debugger σ) : Debugger σ :=
  { d with console := body.description.elim d.console fun line => d.console.writeLine line }

/-- A stop is noted first, and shown only where all threads were running. -/
theorem onStopped_apply (body : StoppedBody) (d : Debugger σ) : (onStopped body d).2 =
    let noted := noteStopped body (describing body d)
    if noted.1 then
      let entered := { noted.2 with
        phase := if noted.2.phase = .running then .stopped else noted.2.phase }
      if d.threads.allRunning then (showStop body.threadId entered).2 else entered
    else noted.2 := by
  -- whether this is the first stop is told after the description, which leaves the threads alone
  have hnote (d₀ : Debugger σ) (hthreads : d₀.threads = d.threads) : ((do
      let firstStop := (← get).threads.allRunning
      if ← noteStopped body then
        if (← get).phase = .running then Reaction.enter .stopped
        if firstStop then showStop body.threadId : Reaction σ Unit) d₀).2 =
      let noted := noteStopped body d₀
      if noted.1 then
        let entered := { noted.2 with
          phase := if noted.2.phase = .running then .stopped else noted.2.phase }
        if d.threads.allRunning then (showStop body.threadId entered).2 else entered
      else noted.2 := by
    rw [Reaction.bind_apply, Reaction.get_apply, hthreads]
    dsimp only
    rw [Reaction.bind_apply]
    split
    · rw [Reaction.bind_apply, Reaction.get_apply]
      dsimp only
      split <;> cases d.threads.allRunning <;> rfl
    · rfl
  unfold onStopped describing
  cases body.description with
  | none => exact hnote d rfl
  | some line => exact hnote { d with console := d.console.writeLine line } rfl

/-- What a report of a stop does that names a thread or says that all threads have stopped. -/
structure TakesStop (body : StoppedBody) (new : List Exchange) (d d' : Debugger σ) : Prop where
  exchanges : d'.exchanges = new ++ d.exchanges
  halts : Halts body d.generation (new.filter (·.isFor "threads")) d.threads.list d'.threads.list
  phase : d'.phase = if d.phase.isLive then .stopped else d.phase
  /-- No more than one stack is asked for. -/
  traced : new.countP (·.isFor "stackTrace") ≤ 1
  /-- On a first stop the console is open, and the focus is on the thread that is named, else on
  the first one. -/
  first : d.threads.allRunning → d'.console.isOpen ∧
    ∀ id, body.threadId.or (d'.threads.list.head?.map (·.id)) = some id →
      d'.threads.focusId = some id
  /-- If some thread has stopped before, nothing else changes than the list of threads, the phase
  and what is written; nothing is asked. -/
  later : d.threads.allRunning = false → ∃ list phase text, d' = { d with
    threads := { d.threads with list }, phase, console := { d.console with text } }

/-- Until it is shown, a stop changes the threads and the phase, and the description is written. -/
theorem onStopped_eq {body : StoppedBody} (hnoted : body.threadId.isSome ∨ body.allThreadsStopped)
    {d : Debugger σ} (hsession : d.session.isSome) (htidy : Threads.IsTidy d.threads.list) :
    ∃ d₁ listed, (onStopped body d).2 =
        (if d.threads.allRunning then (showStop body.threadId d₁).2 else d₁) ∧
      d₁.exchanges = listed ++ d.exchanges ∧
      Halts body d.generation listed d.threads.list d₁.threads.list ∧
      d₁.phase = (if d.phase.isLive then .stopped else d.phase) ∧
      (d.threads.list ≠ [] → ∃ list phase text, d₁ = { d with
        threads := { d.threads with list }, phase, console := { d.console with text } }) := by
  obtain ⟨d₁, list, listed, heq, hsame, hphase, hlisted, hhalts⟩ :=
    exists_noteStopped hnoted (d := describing body d) hsession htidy
  refine ⟨{ d₁ with
    threads := { d₁.threads with list }
    phase := if d₁.phase = .running then .stopped else d₁.phase }, listed, ?_, hlisted, hhalts, ?_,
    fun hlist => ?_⟩
  · rw [onStopped_apply, heq]
    rfl
  · dsimp only
    rw [hphase]
    show (if d.phase = .running then Phase.stopped else d.phase) = _
    cases d.phase <;> rfl
  · obtain rfl := hsame hlist
    unfold describing
    cases body.description <;> exact ⟨_, _, _, rfl⟩

omit [Environment σ] in
/-- A later stop is noted without being shown. -/
theorem takesStop_of_later {body : StoppedBody} {d d₁ : Debugger σ} {listed : List Exchange}
    (hlater : d.threads.allRunning = false) (hlisted : d₁.exchanges = listed ++ d.exchanges)
    (hhalts : Halts body d.generation listed d.threads.list d₁.threads.list)
    (hphase : d₁.phase = if d.phase.isLive then .stopped else d.phase)
    (hsame : d.threads.list ≠ [] → ∃ list phase text, d₁ = { d with
      threads := { d.threads with list }, phase, console := { d.console with text } }) :
    TakesStop body [] d d₁ := by
  have hlist : d.threads.list ≠ [] := by
    intro hnil
    rw [Threads.allRunning, hnil] at hlater
    cases hlater
  have hsame := hsame hlist
  have hasked : d₁.exchanges = d.exchanges := by
    obtain ⟨_, _, _, rfl⟩ := hsame
    rfl
  obtain rfl : listed = [] := List.self_eq_append_left.1 (hasked.symm.trans hlisted)
  exact ⟨hasked, hhalts, hphase, Nat.zero_le 1,
    fun hfirst => absurd (hlater.symm.trans hfirst) Bool.false_ne_true, fun _ => hsame⟩

omit [Environment σ] in
/-- The first stop is noted and then shown. -/
theorem takesStop_of_first {body : StoppedBody} {d d₁ d' : Debugger σ}
    {listed shown : List Exchange} (hfirst : d.threads.allRunning)
    (hlisted : d₁.exchanges = listed ++ d.exchanges)
    (hhalts : Halts body d.generation listed d.threads.list d₁.threads.list)
    (hphase : d₁.phase = if d.phase.isLive then .stopped else d.phase)
    (hshow : ShowsStop body.threadId shown d₁ d') : TakesStop body (shown ++ listed) d d' := by
  have hfilter : (shown ++ listed).filter (·.isFor "threads") = listed := by
    have hshown : shown.filter (·.isFor "threads") = [] := by
      simpa using hshow.unlisted
    rw [List.filter_append, hshown, List.nil_append]
    exact List.filter_eq_self.2 hhalts.isFor
  have huntraced : listed.countP (·.isFor "stackTrace") = 0 := by
    refine List.countP_eq_zero.2 fun e he => ?_
    rw [Exchange.isFor_of_ne (hhalts.isFor e he) (by decide)]
    exact Bool.false_ne_true
  refine ⟨?_, ?_, hshow.phase.trans hphase, ?_, fun _ => ⟨hshow.isOpen, fun id hid => ?_⟩,
    fun hlater => absurd (hlater.symm.trans hfirst) Bool.false_ne_true⟩
  · rw [hshow.exchanges, hlisted, List.append_assoc]
  · rw [hfilter, hshow.threads]
    exact hhalts
  · rw [List.countP_append, huntraced]
    exact hshow.traced
  · rw [hshow.threads] at hid
    exact hshow.focus id (hhalts.shown_eq.trans hid) (hhalts.shown_known hid)

/-- **Every stop that names a thread or all of them is taken**, the first or a later one. -/
theorem takesStop_onStopped {body : StoppedBody}
    (hnoted : body.threadId.isSome ∨ body.allThreadsStopped) {d : Debugger σ}
    (hsession : d.session.isSome) (htidy : Threads.IsTidy d.threads.list) :
    ∃ new, TakesStop body new d (onStopped body d).2 := by
  obtain ⟨d₁, listed, heq, hlisted, hhalts, hphase, hsame⟩ := onStopped_eq hnoted hsession htidy
  rw [heq]
  cases hrunning : d.threads.allRunning with
  | false => exact ⟨[], takesStop_of_later hrunning hlisted hhalts hphase hsame⟩
  | true =>
    obtain ⟨shown, hshow⟩ := exists_showStop body.threadId d₁
    exact ⟨shown ++ listed, takesStop_of_first hrunning hlisted hhalts hphase hshow⟩

/-- A stop that names none changes what is on the console and nothing else. -/
theorem onStopped_of_ignored {body : StoppedBody} (hid : body.threadId = none)
    (hall : body.allThreadsStopped = false) (d : Debugger σ) :
    ∃ text, (onStopped body d).2 = { d with console := { d.console with text } } := by
  rw [onStopped_apply, noteStopped_of_ignored hall hid, describing]
  cases body.description <;> exact ⟨_, rfl⟩

end Debugger
end DebugConsole
