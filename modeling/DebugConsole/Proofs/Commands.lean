/-
# Commands as moves

A command is made of operations and of lines that are written, so whatever holds of
all runs holds of a console: `Debugger.Reaches allowed d d'` says that allowed moves
lead from one debugger to the other, and `reaches_dispatch` that a line of the user
does that, whatever it says.

`restart` is the only command that closes a session.  All others are made of steady
moves (`Move.isSteady`), which keep the session and, without one, the prompt
(`Debugger.Keeps`).
-/

import DebugConsole.Proofs.Agreement
import DebugConsole.Proofs.Precedence

namespace DebugConsole

variable {σ α : Type}

/-- An operation that opens and closes no session. -/
def Operation.isSteady : Operation → Bool
  | .launch _ => false
  | .relaunch => false
  | .close => false
  | _ => true

/-- A move of the user that opens and closes no session. -/
def Move.isSteady : Move σ → Bool
  | .operate operation => operation.isSteady
  | .write _ => true
  | _ => false

namespace Debugger

variable [Environment σ]

/-- Allowed moves lead from one debugger to another. -/
def Reaches (allowed : Move σ → Bool) (d d' : Debugger σ) : Prop :=
  ∃ moves : List (Move σ), (∀ move ∈ moves, allowed move) ∧ d.leadTo moves = d'

instance (allowed : Move σ → Bool) : IsPreorder (Debugger σ) (Reaches allowed) where
  refl _ := ⟨[], fun _ hmem => absurd hmem List.not_mem_nil, rfl⟩
  trans _ _ _ h₁ h₂ := by
    obtain ⟨moves₁, hall₁, rfl⟩ := h₁
    obtain ⟨moves₂, hall₂, rfl⟩ := h₂
    refine ⟨moves₁ ++ moves₂, fun move hmem => ?_, List.foldl_append⟩
    rcases List.mem_append.1 hmem with hmem | hmem
    · exact hall₁ move hmem
    · exact hall₂ move hmem

/-- A single move that is allowed. -/
theorem Reaches.next {allowed : Move σ → Bool} (move : Move σ) (h : allowed move)
    (d : Debugger σ) : Reaches allowed d (move.next d) :=
  ⟨[move], fun _ hmem => List.mem_singleton.1 hmem ▸ h, rfl⟩

/-- Where more moves are allowed, all is reached that was. -/
theorem Reaches.mono {allowed allowed' : Move σ → Bool} {d d' : Debugger σ}
    (h : Reaches allowed d d') (hle : ∀ move, allowed move → allowed' move) :
    Reaches allowed' d d' := by
  obtain ⟨moves, hall, hlead⟩ := h
  exact ⟨moves, fun move hmem => hle move (hall move hmem), hlead⟩

/-- What a relation says of every allowed move it says of all of them together. -/
theorem Reaches.relate {allowed : Move σ → Bool} {R : Debugger σ → Debugger σ → Prop}
    [IsPreorder (Debugger σ) R] {P : Debugger σ → Prop} (hP : ∀ d d', P d → R d d' → P d')
    (h : ∀ d move, P d → allowed move → R d (move.next d)) {d d' : Debugger σ} (hd : P d)
    (hreaches : Reaches allowed d d') : R d d' := by
  obtain ⟨moves, hall, rfl⟩ := hreaches
  induction moves generalizing d with
  | nil => exact refl_of R d
  | cons move rest ih =>
    have hmove := h d move hd (hall move List.mem_cons_self)
    exact trans_of R hmove
      (ih (hP d _ hd hmove) fun other hmem => hall other (List.mem_cons_of_mem _ hmem))

end Debugger

/-! ### The commands -/

namespace Builtin

open Debugger

variable [Environment σ]

/-- An operation that is part of a command. -/
theorem steady_of_operation (operation : Operation) (h : operation.isSteady) {a : Action σ α}
    (ha : ∀ d, (a d).2 = operation.act d) :
    Action.Within (Reaches Move.isSteady) a := fun d => by
  rw [ha]
  exact Reaches.next (.operate operation) h d

/-- Text on the console is written by steady moves. -/
theorem steady_sayAll (lines : List String) :
    Action.Within (Reaches Move.isSteady) (sayAll lines : Action σ Unit) := by
  induction lines with
  | nil => exact Action.within_pure _
  | cons line rest ih =>
    have hsay : Action.Within (Reaches Move.isSteady)
        (Action.react (Reaction.say line) : Action σ Unit) :=
      fun d => Reaches.next (.write (line ++ "\n")) rfl d
    exact Action.within_bind hsay fun _ => ih

omit [Environment σ] in
/-- Lines are written one after the other. -/
theorem sayAll_apply (lines : List String) (d : Debugger σ) :
    sayAll lines d = (.ok (), { d with
      console := lines.foldl (fun console line => console.writeLine line) d.console }) := by
  induction lines generalizing d with
  | nil => rfl
  | cons line rest ih =>
    have hsay : (Action.react (Reaction.say line) : Action σ Unit) d =
        (.ok (), { d with console := d.console.writeLine line }) := rfl
    have hnext : sayAll (line :: rest) d =
        (Action.react (Reaction.say line) >>= fun _ => sayAll rest) d := rfl
    rw [hnext, Action.bind_apply, hsay]
    exact ih _

omit [Environment σ] in
/-- An argument is read, or the usage of the command is the error; nothing changes. -/
theorem argument_apply (usage : String) (read : String → Option α) (args : List String)
    (d : Debugger σ) : argument usage read args d = match args.head?.bind read with
      | some value => (.ok value, d)
      | none => (.error (.usage usage), d) := by
  unfold argument
  cases args.head?.bind read <;> rfl

/-- Reading an argument takes no move. -/
theorem steady_argument (usage : String) (read : String → Option α) (args : List String) :
    Action.Within (Reaches Move.isSteady) (argument usage read args : Action σ α) := by
  unfold argument
  split
  · exact Action.within_pure _
  · exact Action.within_throw _

theorem steady_activeThread :
    Action.Within (Reaches Move.isSteady) (activeThread : Action σ Thread) :=
  steady_of_operation .activeThread rfl fun _ => rfl

theorem steady_currentFrame :
    Action.Within (Reaches Move.isSteady) (currentFrame : Action σ (Option Protocol.StackFrame)) :=
  steady_of_operation .currentFrame rfl fun _ => rfl

/-- `backtrace` looks at the stack and writes it out. -/
theorem steady_backtrace (levels : Int64) (args : List String) :
    Action.Within (Reaches Move.isSteady) ((backtrace levels : Command σ).run args) := by
  refine Action.within_bind steady_activeThread fun thread => ?_
  refine Action.within_bind (steady_of_operation (.stackTrace thread.id levels) rfl fun _ => rfl)
    fun frames => ?_
  split
  · exact steady_sayAll _
  · exact steady_sayAll _

/-- `thread` selects a thread and shows where it stands. -/
theorem steady_thread (args : List String) :
    Action.Within (Reaches Move.isSteady) ((thread : Command σ).run args) := by
  unfold thread
  dsimp only
  split
  · refine Action.within_bind (steady_argument _ _ _) fun id => ?_
    exact Action.within_bind (steady_of_operation (.focusThread id) rfl fun _ => rfl) fun _ =>
      steady_sayAll _
  · refine Action.within_bind (steady_of_operation .knownThreads rfl fun _ => rfl) fun threads => ?_
    split
    · exact steady_sayAll _
    · exact steady_sayAll _

/-- `frame` selects a frame and shows it. -/
theorem steady_frame (args : List String) :
    Action.Within (Reaches Move.isSteady) ((frame : Command σ).run args) := by
  unfold frame
  dsimp only
  split
  · refine Action.within_bind (steady_argument _ _ _) fun place => ?_
    refine Action.within_bind steady_activeThread fun thread => ?_
    refine Action.within_bind
      (steady_of_operation (.selectFrame thread.id place) rfl fun _ => rfl) fun _ => ?_
    refine Action.within_bind steady_activeThread fun thread => ?_
    refine Action.within_bind steady_currentFrame fun current => ?_
    split
    · exact steady_sayAll _
    · exact steady_sayAll _
  · refine Action.within_bind steady_activeThread fun thread => ?_
    refine Action.within_bind steady_currentFrame fun current => ?_
    split
    · exact steady_sayAll _
    · exact steady_sayAll _

/-- `variables` looks at the scopes and writes them out. -/
theorem steady_showVariables (args : List String) :
    Action.Within (Reaches Move.isSteady) ((showVariables : Command σ).run args) :=
  Action.within_bind (steady_of_operation (.scopeContents _) rfl fun _ => rfl) fun _ =>
    steady_sayAll _

/-- `print` has an expression evaluated and writes its value. -/
theorem steady_print (args : List String) :
    Action.Within (Reaches Move.isSteady) ((print : Command σ).run args) := by
  have hprint (expression : String) : Action.Within (Reaches Move.isSteady) (do
      let value ← evaluate expression
      sayAll [expression ++ " = " ++ value.result ++ typeSuffix value.typeName] :
        Action σ Unit) :=
    Action.within_bind (steady_of_operation (.evaluate expression) rfl fun _ => rfl) fun _ =>
      steady_sayAll _
  unfold print
  dsimp only
  split
  · exact Action.within_bind (Action.within_throw _) fun _ => hprint _
  · exact hprint _

/-- `list` looks up lines and writes them out. -/
theorem steady_list (count : Nat) (args : List String) :
    Action.Within (Reaches Move.isSteady) ((list count : Command σ).run args) := by
  have hlines (source : Protocol.Source) (current start : Nat) :
      Action.Within (Reaches Move.isSteady) (do
        let lines ← sourceLines source start count
        if lines.isEmpty then sayAll ["No source lines in range"]
        else sayAll (sourceRows current start lines) : Action σ Unit) := by
    refine Action.within_bind
      (steady_of_operation (.sourceLines source start count) rfl fun _ => rfl) fun lines => ?_
    split
    · exact steady_sayAll _
    · exact steady_sayAll _
  refine Action.within_bind steady_currentFrame fun frame => ?_
  split
  · split
    · dsimp only
      split
      · exact hlines _ _ _
      · exact Action.within_bind (steady_argument _ _ _) fun given => hlines _ _ _
    · exact Action.within_throw _
  · exact Action.within_throw _

theorem steady_breakpointIndex (args : List String) :
    Action.Within (Reaches Move.isSteady) (breakpointIndex args : Action σ Nat) :=
  Action.within_bind (steady_argument _ _ _) fun _ => Action.within_pure _

/-- A breakpoint is set, and the console says which. -/
theorem steady_setBreakpointAt (path : String) (line : UInt32) :
    Action.Within (Reaches Move.isSteady) (setBreakpointAt path line : Action σ Unit) := by
  refine Action.within_bind (steady_of_operation (.canonical path) rfl fun _ => rfl) fun found => ?_
  refine Action.within_bind (steady_of_operation (.setBreakpoint found line) rfl fun _ => rfl)
    fun _ => ?_
  exact steady_sayAll _

/-- `breakpoint` changes the user's breakpoints, whatever its arguments. -/
theorem steady_breakpoint (args : List String) :
    Action.Within (Reaches Move.isSteady) ((breakpoint : Command σ).run args) := by
  have hlist : Action.Within (Reaches Move.isSteady) (do
      let breakpoints := (← get).breakpoints
      if breakpoints.isEmpty then sayAll ["No breakpoints set"]
      else sayAll ("Breakpoints:" :: breakpoints.list.map breakpointRow) : Action σ Unit) := by
    refine Action.within_bind Action.within_get fun d => ?_
    dsimp only
    split
    · exact steady_sayAll _
    · exact steady_sayAll _
  have henable (index : Nat) (enabled : Bool) (done : String) :
      Action.Within (Reaches Move.isSteady) (do
        setEnabled index enabled
        sayAll ["Breakpoint " ++ toString index ++ done] : Action σ Unit) :=
    Action.within_bind (steady_of_operation (.setEnabled index enabled) rfl fun _ => rfl) fun _ =>
      steady_sayAll _
  unfold breakpoint
  dsimp only
  split
  · exact hlist
  · exact hlist
  · exact Action.within_bind (steady_breakpointIndex _) fun index => henable index true _
  · exact Action.within_bind (steady_breakpointIndex _) fun index => henable index false _
  · refine Action.within_bind (steady_breakpointIndex _) fun index => ?_
    exact Action.within_bind (steady_of_operation (.deleteBreakpoint index) rfl fun _ => rfl)
      fun _ => steady_sayAll _
  · split
    · exact steady_setBreakpointAt _ _
    · exact Action.within_throw _
  · exact Action.within_throw _

/-- **Every command but `restart` is made of steady moves.** -/
theorem steady_command {options : CommandOptions} {command : Command σ}
    (h : command ∈ all options ++ [help (all options)]) :
    command = restart ∨ ∀ args, Action.Within (Reaches Move.isSteady) (command.run args) := by
  simp only [all, List.cons_append, List.nil_append, List.mem_cons, List.not_mem_nil,
    or_false] at h
  rcases h with rfl | rfl | rfl | rfl | rfl | rfl | rfl | rfl | rfl | rfl | rfl | rfl | rfl | rfl
  · exact .inr fun _ => steady_of_operation .run rfl fun _ => rfl
  · exact .inr fun _ => steady_of_operation .resume rfl fun _ => rfl
  · exact .inr fun _ => steady_of_operation .stepOver rfl fun _ => rfl
  · exact .inr fun _ => steady_of_operation .stepIn rfl fun _ => rfl
  · exact .inr fun _ => steady_of_operation .pause rfl fun _ => rfl
  · exact .inl rfl
  · exact .inr (steady_backtrace _)
  · exact .inr steady_thread
  · exact .inr steady_frame
  · exact .inr steady_showVariables
  · exact .inr steady_print
  · exact .inr (steady_list _)
  · exact .inr steady_breakpoint
  · exact .inr fun _ => steady_sayAll _

end Builtin

/-! ### Lines -/

namespace CommandTable

variable [Environment σ]

/-- **A line of the user starts the target again, or makes steady moves.** -/
theorem dispatch_builtin (options : CommandOptions) (line : String) :
    (builtin options : CommandTable σ).dispatch line = Debugger.relaunch ∨
      Action.Within (Debugger.Reaches Move.isSteady)
        ((builtin options : CommandTable σ).dispatch line) := by
  rw [dispatch]
  split
  · exact .inr (Action.within_pure _)
  · split
    · rename_i command hfind
      rcases Builtin.steady_command (mem_of_find? hfind) with rfl | hsteady
      · exact .inl rfl
      · exact .inr (hsteady _)
    · exact .inr (Action.within_throw _)

end CommandTable

/-! ### What steady moves keep -/

namespace Debugger

variable [Environment σ]

/-- The session goes on, or there is none and the prompt stays as it is. -/
structure Keeps (d d' : Debugger σ) : Prop where
  session : d'.session.isSome = d.session.isSome
  target : d'.target = d.target
  shutdownRequested : d'.shutdownRequested = d.shutdownRequested
  refusals : d'.refusals = d.refusals
  prompt : d.session = none → d'.console.isOpen = d.console.isOpen
  wellFormed : d.breakpoints.WellFormed → d'.breakpoints.WellFormed

instance : IsPreorder (Debugger σ) Keeps where
  refl _ := ⟨rfl, rfl, rfl, rfl, fun _ => rfl, id⟩
  trans d₁ d₂ _ h₁ h₂ := {
    session := h₂.session.trans h₁.session
    target := h₂.target.trans h₁.target
    shutdownRequested := h₂.shutdownRequested.trans h₁.shutdownRequested
    refusals := h₂.refusals.trans h₁.refusals
    prompt := fun hnone => by
      have hnone₂ : d₂.session = none := by simpa [hnone] using h₁.session
      rw [h₂.prompt hnone₂, h₁.prompt hnone]
    wellFormed := fun hwf => h₂.wellFormed (h₁.wellFormed hwf) }

/-- What lasts keeps the session, if the prompt stays as it is without one. -/
theorem Stays.keeps {d d' : Debugger σ} (h : Stays d d')
    (hprompt : d.session = none → d'.console.isOpen = d.console.isOpen) : Keeps d d' where
  session := h.session
  target := h.target
  shutdownRequested := h.shutdownRequested
  refusals := h.refusals_eq
  prompt := hprompt
  wellFormed hwf := h.breakpoints ▸ hwf

/-- What leaves the console alone keeps the session. -/
theorem Calm.keeps {d d' : Debugger σ} (h : Calm d d') : Keeps d d' :=
  h.toStays.keeps fun _ => by rw [h.console]

/-- Changes of breakpoints keep the session. -/
theorem Edits.keeps {d d' : Debugger σ} (h : Edits d d') : Keeps d d' where
  session := h.session
  target := h.target
  shutdownRequested := h.shutdownRequested
  refusals := h.unconnected.refusals_eq
  prompt _ := by rw [h.console]
  wellFormed := h.wellFormed

/-- A configuration keeps the session, whether it succeeds or not. -/
theorem keeps_configure {d : Debugger σ} (hwf : d.breakpoints.WellFormed) :
    Keeps d (configure d).2 := by
  cases hsession : d.session with
  | none =>
    rw [configure_of_no_session hsession]
    exact refl_of Keeps d
  | some session =>
    have hsome : d.session.isSome := by rw [hsession]; rfl
    obtain ⟨pushed, d₁, d₂, htells, hcalm, hresult⟩ := configure_spec hwf hsome
    have hconfigured : Keeps { d with phase := .running } d₂ :=
      trans_of Keeps htells.edits.keeps hcalm.keeps
    -- the prompt is closed at the end, but there is a session
    have hclosed (console : Console) : Keeps d { d₂ with console } := {
      session := hconfigured.session
      target := hconfigured.target
      shutdownRequested := hconfigured.shutdownRequested
      refusals := hconfigured.refusals
      prompt := fun hnone => absurd (hnone.symm.trans hsession) nofun
      wellFormed := hconfigured.wellFormed }
    rcases hresult with ⟨e, hrun⟩ | ⟨hrun, _⟩
    · rw [hrun]
      exact hclosed d₂.console
    · rw [hrun]
      exact hclosed _

/-- So does `run`. -/
theorem keeps_run {d : Debugger σ} (hwf : d.breakpoints.WellFormed) :
    Keeps d (Debugger.run d).2 := by
  rw [run_apply]
  split_ifs
  · exact keeps_configure hwf
  · exact refl_of Keeps d

/-- Without a session nothing is resumed. -/
theorem continueRunning_of_no_session {d : Debugger σ} (h : d.session = none) :
    (continueRunning d).2 = d := by
  rw [continueRunning, Action.requireSession_bind_apply, h]
  rfl

/-- **A steady move keeps the session and, without one, the prompt.** -/
theorem keeps_next {move : Move σ} (h : move.isSteady) {d : Debugger σ}
    (hwf : d.breakpoints.WellFormed) : Keeps d (move.next d) := by
  cases move using Move.casesPlain with
  | plain move hplain =>
    rcases move with operation | text | _ | _ | _ | _ | _
    · by_cases hresume : operation = .resume
      · subst hresume
        refine (within_continueRunning (R := Stays) d).keeps fun hnone => ?_
        rw [continueRunning_of_no_session hnone]
      · exact (Operation.within_act_of_ne (R := Quiet) hplain hresume d).keeps
    · exact (Stays.of_console d _).keeps fun _ => rfl
    · cases h
    · cases h
    · cases h
    · cases h
    · cases h
  | run => exact keeps_run hwf
  | setBreakpoint path line => exact (edits_setBreakpoint path line d).keeps
  | setEnabled index enabled => exact (edits_setEnabled index enabled d).keeps
  | deleteBreakpoint index => exact (edits_deleteBreakpoint index d).keeps
  | _ => cases h

/-- **Steady moves keep the session.** -/
theorem Reaches.keeps {d d' : Debugger σ} (h : Reaches Move.isSteady d d')
    (hwf : d.breakpoints.WellFormed) : Keeps d d' :=
  Reaches.relate (P := fun d => d.breakpoints.WellFormed)
    (fun _ _ hwf hkeeps => hkeeps.wellFormed hwf)
    (fun _ _ hwf hsteady => keeps_next hsteady hwf) hwf h

end Debugger
end DebugConsole
