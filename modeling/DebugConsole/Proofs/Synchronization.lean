/-
# What pushing breakpoints does

`Debugger.Tells pushed d d'` is the specification of everything that sends
breakpoints to an adapter: `pushed` are the pushes made, oldest first.  Each asks for
the enabled lines of its path on the newest connection, the breakpoints learn from
those answers that are taken over (`Push.taken`), and nothing else changes.

| operation | pushes | succeeds |
| --- | --- | --- |
| `pushPath path` | one, of this path | if it is accepted |
| `pushAllPaths` | one for each path with enabled breakpoints, in their order | if all are |

All paths are pushed before an answer is waited for, so they are all pushed even if one of them is
refused; only a push that fails while there are more to be made keeps those from being made.

Adding, toggling and deleting a breakpoint changes the list and then pushes one path, so
whatever pushes leave alone these leave alone as well (`Debugger.Edits`).
-/

import DebugConsole.Proofs.Frame

namespace DebugConsole

open Protocol

variable {σ : Type} [Environment σ]

namespace Debugger

/-- Only the environment, what has arrived, the breakpoints and the list of questions differ. -/
structure Steady (d d' : Debugger σ) : Prop where
  console : d'.console = d.console
  target : d'.target = d.target
  session : d'.session.isSome = d.session.isSome
  generation : d'.generation = d.generation
  phase : d'.phase = d.phase
  capabilities : d'.capabilities = d.capabilities
  threads : d'.threads = d.threads
  texts : d'.texts = d.texts
  suppressed : d'.suppressed = d.suppressed
  shutdownRequested : d'.shutdownRequested = d.shutdownRequested
  unconnected : Asks (·.isConnect = false) d d'
  flow : Flows d d'

instance : IsPreorder (Debugger σ) Steady where
  refl _ := ⟨rfl, rfl, rfl, rfl, rfl, rfl, rfl, rfl, rfl, rfl, .of_eq rfl, refl_of Flows _⟩
  trans _ _ _ h₁ h₂ := {
    console := h₂.console.trans h₁.console
    target := h₂.target.trans h₁.target
    session := h₂.session.trans h₁.session
    generation := h₂.generation.trans h₁.generation
    phase := h₂.phase.trans h₁.phase
    capabilities := h₂.capabilities.trans h₁.capabilities
    threads := h₂.threads.trans h₁.threads
    texts := h₂.texts.trans h₁.texts
    suppressed := h₂.suppressed.trans h₁.suppressed
    shutdownRequested := h₂.shutdownRequested.trans h₁.shutdownRequested
    unconnected := h₁.unconnected.trans h₂.unconnected
    flow := trans_of Flows h₁.flow h₂.flow }

/-- A single request leaves the session steady. -/
theorem steady_send {α : Type} (call : Call α) :
    Action.Within Steady (Action.send call : Action σ α) := fun d => by
  obtain ⟨environment, session, answer, hsession, hflow, heq⟩ := Action.send_apply call d
  rw [heq]
  exact ⟨rfl, rfl, hsession, rfl, rfl, rfl, rfl, rfl, rfl, rfl, .cons rfl rfl, hflow⟩

/-- A push of the enabled breakpoints of its path, as they are, on the newest connection. -/
def IsFaithful (d : Debugger σ) (push : Push) : Prop :=
  push.connection = d.generation ∧
    push.lines = (d.breakpoints.enabledFor push.path).map (·.line)

/-- These pushes were made, oldest first, and their answers taken over. -/
structure Tells (pushed : List Push) (d d' : Debugger σ) : Prop extends Steady d d' where
  faithful : ∀ push ∈ pushed, d.IsFaithful push
  pushes : d'.pushes = pushed.reverse ++ d.pushes
  breakpoints : d'.breakpoints = (Push.taken pushed).foldl Breakpoints.learn d.breakpoints

/-- What adapters answer changes nothing that the user has decided. -/
theorem Tells.sameIntent {pushed : List Push} {d d' : Debugger σ} (h : Tells pushed d d') :
    d.breakpoints.SameIntent d'.breakpoints := by
  rw [h.breakpoints]
  exact .foldl_learn ..

/-! ### Before the answers are taken over -/

/-- These pushes were made, oldest first, and the breakpoints are still what they were. -/
structure Sends (pushed : List Push) (d d' : Debugger σ) : Prop extends Steady d d' where
  faithful : ∀ push ∈ pushed, d.IsFaithful push
  pushes : d'.pushes = pushed.reverse ++ d.pushes
  breakpoints : d'.breakpoints = d.breakpoints

/-- **A request for one path is one push**, with the answer it got. -/
theorem send_setBreakpoints {d : Debugger σ} {bs : Breakpoints} (hbs : d.breakpoints = bs)
    (path : String) : ∃ push : Push, push.path = path ∧
      Sends [push] d (Action.send (Call.setBreakpoints (bs.argumentsFor path)) d).2 ∧
      (Action.send (Call.setBreakpoints (bs.argumentsFor path)) d).1 = push.answer := by
  subst hbs
  obtain ⟨environment, session, answer, hsession, hflow, heq⟩ :=
    Action.send_apply (Call.setBreakpoints (d.breakpoints.argumentsFor path)) d
  have hpush := Exchange.push?_argumentsFor d.breakpoints path d.generation answer
  rw [heq]
  refine ⟨_, rfl, ⟨?_, fun push hmem => ?_, List.filterMap_cons_some hpush, rfl⟩, rfl⟩
  · exact ⟨rfl, rfl, hsession, rfl, rfl, rfl, rfl, rfl, rfl, rfl, .cons rfl rfl, hflow⟩
  · rw [List.mem_singleton.1 hmem]
    exact ⟨rfl, rfl⟩

/-- What pushes of several paths come to: all were made and answered, or one was not. -/
def Concludes (paths : List String) (pushed : List Push) :
    Except Error (List (List Descriptor)) → Prop
  | .ok answers => pushed.map (·.path) = paths ∧ pushed.map (·.answer) = answers.map .ok
  | .error _ => ∃ push ∈ pushed, push.isAnswered = false

omit [Environment σ] in
/-- What was asked for paths is pushes of their enabled breakpoints. -/
theorem faithful_of_forall₂ {d : Debugger σ} {paths : List String} {asked : List Exchange}
    (h : List.Forall₂ (fun path e => Exchange.IsOf d.generation
      (Call.setBreakpoints (d.breakpoints.argumentsFor path)) e) paths asked) :
    (asked.filterMap Exchange.push?).map (·.path) = paths ∧
      ∀ push ∈ asked.filterMap Exchange.push?, d.IsFaithful push := by
  induction h with
  | nil => exact ⟨rfl, nofun⟩
  | cons hof _ ih =>
    obtain ⟨answer, hpush⟩ := hof.exists_push?
    rw [List.filterMap_cons_some hpush]
    exact ⟨congrArg (_ :: ·) ih.1, List.forall_mem_cons.2 ⟨⟨rfl, rfl⟩, ih.2⟩⟩

omit [Environment σ] in
/-- Pushes that were all answered have these answers. -/
theorem answers_of_answered {bs : Breakpoints} {connection : Nat} {paths : List String}
    {asked : List Exchange} {answers : List (List Descriptor)}
    (h : Answered connection (paths.map fun path => Call.setBreakpoints (bs.argumentsFor path))
      asked answers) :
    (asked.filterMap Exchange.push?).map (·.answer) = answers.map .ok := by
  induction paths generalizing asked answers with
  | nil => cases h with | nil => rfl
  | cons path rest ih =>
    cases h with
    | @cons _ answer value _ exchanges values success others =>
      show ((.request ((Call.setBreakpoints (bs.argumentsFor path)).on connection) answer ::
        exchanges).filterMap Exchange.push?).map (·.answer) = _
      rw [List.filterMap_cons_some (Exchange.push?_argumentsFor bs path connection answer),
        List.map_cons, List.map_cons, ih others, success]

/-- Paths are pushed together. -/
theorem sendAll_argumentsFor (paths : List String) (d : Debugger σ) :
    ∃ pushed : List Push, Sends pushed d (Action.sendAll (paths.map fun path =>
        Call.setBreakpoints (d.breakpoints.argumentsFor path)) d).2 ∧
      pushed.map (·.path) <+: paths ∧
      Concludes paths pushed (Action.sendAll (paths.map fun path =>
        Call.setBreakpoints (d.breakpoints.argumentsFor path)) d).1 := by
  obtain ⟨environment, session, asked, result, hsession, hflow, htogether, heq⟩ :=
    Action.sendAll_apply (paths.map fun path =>
      Call.setBreakpoints (d.breakpoints.argumentsFor path)) d
  -- what was asked, answered or given up, are requests for the first of the paths
  obtain ⟨sent, hsent, -, hasked⟩ := htogether.forall₂_isOf
  obtain ⟨made, hmade, rfl⟩ := List.prefix_map_iff.1 hsent
  obtain ⟨hpaths, hfaithful⟩ := faithful_of_forall₂ (List.forall₂_map_left_iff.1 hasked)
  have hconnect : ∀ e ∈ asked, e.isConnect = false := fun e he => by
    obtain ⟨_, -, hof⟩ := htogether.exists_isOf he
    exact hof.isConnect_eq_false
  rw [heq]
  refine ⟨asked.filterMap Exchange.push?, ⟨⟨rfl, rfl, hsession, rfl, rfl, rfl, rfl, rfl, rfl, rfl,
    ⟨asked.reverse, rfl, fun e he => hconnect e (List.mem_reverse.1 he)⟩, hflow⟩, hfaithful, ?_,
    rfl⟩, hpaths ▸ hmade, ?_⟩
  · show (asked.reverse ++ d.exchanges).filterMap Exchange.push? = _
    rw [List.filterMap_append, List.filterMap_reverse]
    rfl
  generalize hcalls : (paths.map fun path =>
    Call.setBreakpoints (d.breakpoints.argumentsFor path)) = calls at htogether
  cases htogether with
  | answered all =>
    subst hcalls
    have hall := List.forall₂_map_left_iff.1 all.forall₂_isOf
    exact ⟨(faithful_of_forall₂ hall).1, answers_of_answered all⟩
  | @failed _ _ _ call _ _ answer e failure spared others last =>
    -- the call that has failed is a push without an answer
    have hmem : call ∈ paths.map fun path =>
        Call.setBreakpoints (d.breakpoints.argumentsFor path) := by
      rw [hcalls]
      simp
    obtain ⟨path, -, rfl⟩ := List.mem_map.1 hmem
    refine ⟨_, List.mem_filterMap.2 ⟨_, List.mem_append_right _ List.mem_cons_self,
      Exchange.push?_argumentsFor d.breakpoints path d.generation answer⟩, ?_⟩
    rw [Push.isAnswered, failure]
    rfl

/-! ### Taking the answers over -/

omit [Environment σ] in
/-- Reconciling an answer changes the breakpoints or fails over their number. -/
theorem reconcile_apply (path : String) (indices : List Nat) (descriptors : List Descriptor)
    (d : Debugger σ) : reconcile path indices descriptors d =
      match d.breakpoints.reconcile path indices descriptors with
      | .ok breakpoints => (.ok (), { d with breakpoints })
      | .error e => (.error e, d) := by
  simp only [reconcile, Action.bind_apply, Action.get_apply, Action.ofExcept_apply]
  cases d.breakpoints.reconcile path indices descriptors <;> rfl

/-- The answer to a push is taken over just if the push is accepted. -/
theorem reconcile_learn {bs : Breakpoints} {push : Push} {descriptors : List Descriptor}
    (hanswer : push.answer = .ok descriptors)
    (hlines : push.lines.length = (bs.enabledFor push.path).length) :
    match bs.reconcile push.path ((bs.enabledFor push.path).map (·.index)) descriptors with
    | .ok breakpoints => push.accepted?.isSome ∧ breakpoints = bs.learn push
    | .error _ => push.accepted? = none := by
  have hindices : ((bs.enabledFor push.path).map (·.index)).length = push.lines.length := by
    rw [List.length_map, hlines]
  by_cases hlength : descriptors.length = push.lines.length
  · have haccepted : push.accepted? = some descriptors :=
      Push.accepted?_eq_some.2 ⟨hanswer, hlength⟩
    rw [Breakpoints.reconcile, if_pos (hlength.trans hindices.symm), Breakpoints.learn,
      haccepted]
    exact ⟨rfl, rfl⟩
  · have hrefused : push.accepted? = none := by
      rw [Push.accepted?, hanswer]
      exact if_neg hlength
    rw [Breakpoints.reconcile, if_neg (fun h => hlength (h.trans hindices)), hrefused]

/-- Pushes whose answers are taken in tell what the adapter holds. -/
theorem Sends.tells {pushed : List Push} {d d' : Debugger σ} (h : Sends pushed d d')
    {breakpoints : Breakpoints}
    (hlearned : breakpoints = (Push.taken pushed).foldl Breakpoints.learn d.breakpoints) :
    Tells pushed d { d' with breakpoints } where
  toSteady := ⟨h.console, h.target, h.session, h.generation, h.phase, h.capabilities, h.threads,
    h.texts, h.suppressed, h.shutdownRequested, h.unconnected, h.flow⟩
  faithful := h.faithful
  pushes := h.pushes
  breakpoints := hlearned

/-- Where nothing is taken over, the breakpoints stay what they were. -/
theorem Sends.tells_of_taken_eq_nil {pushed : List Push} {d d' : Debugger σ}
    (h : Sends pushed d d') (htaken : Push.taken pushed = []) : Tells pushed d d' :=
  h.tells (by rw [htaken, h.breakpoints]; rfl)

/-- **Pushing one path.**  One push is made, and it succeeds if it is accepted. -/
theorem pushPath_spec (path : String) (d : Debugger σ) :
    ∃ push : Push, push.path = path ∧ Tells [push] d (pushPath path d).2 ∧
      ((pushPath path d).1 = .ok () ↔ push.accepted?.isSome) := by
  obtain ⟨push, rfl, hsends, hanswer⟩ := send_setBreakpoints (d := d) rfl path
  refine ⟨push, rfl, ?_⟩
  have htaken := Push.taken_singleton push
  simp only [pushPath, Action.bind_apply, Action.get_apply]
  rcases hsend : Action.send (Call.setBreakpoints (d.breakpoints.argumentsFor push.path)) d with
    ⟨answer, d₁⟩
  rw [hsend] at hsends hanswer
  have hlines : push.lines.length = (d.breakpoints.enabledFor push.path).length := by
    rw [(hsends.faithful push (List.mem_singleton_self push)).2, List.length_map]
  cases answer with
  | error e =>
    have hrefused : push.accepted? = none := by rw [Push.accepted?, ← hanswer]
    rw [hrefused, Option.isSome_none, if_neg Bool.false_ne_true] at htaken
    exact ⟨hsends.tells_of_taken_eq_nil htaken, by simp [hrefused]⟩
  | ok descriptors =>
    have hlearn := reconcile_learn hanswer.symm hlines
    simp only [reconcile_apply]
    rw [hsends.breakpoints]
    cases hreconcile : d.breakpoints.reconcile push.path
        ((d.breakpoints.enabledFor push.path).map (·.index)) descriptors with
    | error e =>
      rw [hreconcile] at hlearn
      rw [hlearn, Option.isSome_none, if_neg Bool.false_ne_true] at htaken
      exact ⟨hsends.tells_of_taken_eq_nil htaken, by simp [hlearn]⟩
    | ok breakpoints =>
      rw [hreconcile] at hlearn
      rw [if_pos hlearn.1] at htaken
      exact ⟨hsends.tells (by rw [htaken, hlearn.2]; rfl), by simp [hlearn.1]⟩

/-! ### Several paths -/

/-- What is known of an answered push: its path, the breakpoints it is about, its descriptors. -/
def IsEntry (bs : Breakpoints) (push : Push) (entry : (String × List Nat) × List Descriptor) :
    Prop :=
  entry.1 = (push.path, (bs.enabledFor push.path).map (·.index)) ∧ push.answer = .ok entry.2 ∧
    push.lines.length = (bs.enabledFor push.path).length

/-- What is learned of one path leaves the entries of the others as they are. -/
theorem IsEntry.learn {bs : Breakpoints} (hwf : bs.WellFormed) (learned : Push) {push : Push}
    {entry : (String × List Nat) × List Descriptor} (h : IsEntry bs push entry) :
    IsEntry (bs.learn learned) push entry := by
  have hindex := (Breakpoints.SameIntent.learn bs learned).map_index_enabledFor hwf push.path
  have hlength := congrArg List.length hindex
  rw [List.length_map, List.length_map] at hlength
  exact ⟨by rw [hindex, h.1], h.2.1, by rw [hlength, h.2.2]⟩

omit [Environment σ] in
/-- Answers are taken over up to the first that is not accepted. -/
theorem reconcileAll_spec {pushed : List Push}
    {entries : List ((String × List Nat) × List Descriptor)} {d : Debugger σ}
    (hwf : d.breakpoints.WellFormed)
    (h : List.Forall₂ (IsEntry d.breakpoints) pushed entries) :
    (reconcileAll entries d).2 = { d with breakpoints :=
        (pushed.takeWhile (·.accepted?.isSome)).foldl Breakpoints.learn d.breakpoints } ∧
      ((reconcileAll entries d).1 = .ok () ↔ ∀ push ∈ pushed, push.accepted?.isSome) := by
  induction pushed generalizing d entries with
  | nil =>
    obtain rfl := List.forall₂_nil_left_iff.1 h
    exact ⟨rfl, iff_of_true rfl fun _ hmem => absurd hmem List.not_mem_nil⟩
  | cons push rest ih =>
    obtain ⟨entry, others, ⟨hkey, hanswer, hlines⟩, hrest, rfl⟩ := List.forall₂_cons_left_iff.1 h
    obtain ⟨⟨path, indices⟩, descriptors⟩ := entry
    obtain ⟨rfl, rfl⟩ := Prod.mk.inj hkey
    have hlearn := reconcile_learn hanswer hlines
    simp only [reconcileAll, Action.bind_apply, reconcile_apply]
    cases hreconcile : d.breakpoints.reconcile push.path
        ((d.breakpoints.enabledFor push.path).map (·.index)) descriptors with
    | error e =>
      rw [hreconcile] at hlearn
      simp [hlearn]
    | ok breakpoints =>
      rw [hreconcile] at hlearn
      obtain ⟨haccepted, rfl⟩ := hlearn
      have hothers := hrest.imp fun _ _ hentry => hentry.learn hwf push
      obtain ⟨hstate, hresult⟩ := ih (d := { d with breakpoints := d.breakpoints.learn push })
        ((Breakpoints.SameIntent.learn _ push).wellFormed hwf) hothers
      refine ⟨by rw [hstate]; simp [haccepted], hresult.trans ?_⟩
      simp [haccepted]

/-- Each push of a batch is the entry of its own path and answer. -/
theorem forall₂_isEntry {bs : Breakpoints} {pushed : List Push} {answers : List (List Descriptor)}
    (hanswers : pushed.map (·.answer) = answers.map .ok)
    (hlines : ∀ push ∈ pushed, push.lines.length = (bs.enabledFor push.path).length) :
    List.Forall₂ (IsEntry bs) pushed ((pushed.map fun push =>
      (push.path, (bs.enabledFor push.path).map (·.index))).zip answers) := by
  induction pushed generalizing answers with
  | nil => exact .nil
  | cons push rest ih =>
    cases answers with
    | nil => simp at hanswers
    | cons descriptors others =>
      obtain ⟨hanswer, hothers⟩ := List.cons.inj hanswers
      refine .cons ⟨rfl, hanswer, hlines push List.mem_cons_self⟩ ?_
      exact ih hothers fun other hmem => hlines other (List.mem_cons_of_mem _ hmem)

/-- The calls of a push of all paths, path by path. -/
theorem map_setBreakpoints_enabledByPath (bs : Breakpoints) :
    (bs.enabledByPath.map fun group => Call.setBreakpoints (bs.argumentsFor group.1)) =
      (bs.enabledByPath.map (·.1)).map fun path => Call.setBreakpoints (bs.argumentsFor path) := by
  rw [List.map_map]
  rfl

/-- The pushes of all paths with enabled breakpoints. -/
theorem sendAll_setBreakpoints {d d' : Debugger σ}
    {result : Except Error (List (List Descriptor))}
    (h : Action.sendAll (d.breakpoints.enabledByPath.map fun group =>
      Call.setBreakpoints (d.breakpoints.argumentsFor group.1)) d = (result, d')) :
    ∃ pushed : List Push, Sends pushed d d' ∧
      pushed.map (·.path) <+: d.breakpoints.enabledByPath.map (·.1) ∧
      Concludes (d.breakpoints.enabledByPath.map (·.1)) pushed result := by
  obtain ⟨pushed, hsends, hprefix, hcase⟩ :=
    sendAll_argumentsFor (d.breakpoints.enabledByPath.map (·.1)) d
  rw [← map_setBreakpoints_enabledByPath, h] at hsends hcase
  exact ⟨pushed, hsends, hprefix, hcase⟩

/-- What is taken over after all pushes were answered. -/
theorem forall₂_isEntry_enabledByPath {bs : Breakpoints} {pushed : List Push}
    {answers : List (List Descriptor)}
    (hpaths : pushed.map (·.path) = bs.enabledByPath.map (·.1))
    (hanswers : pushed.map (·.answer) = answers.map .ok)
    (hlines : ∀ push ∈ pushed, push.lines.length = (bs.enabledFor push.path).length) :
    List.Forall₂ (IsEntry bs) pushed
      ((bs.enabledByPath.map fun group => (group.1, group.2.map (·.index))).zip answers) := by
  have hgroups : ∀ group ∈ bs.enabledByPath, (group.1, group.2.map (·.index)) =
      (group.1, (bs.enabledFor group.1).map (·.index)) := fun group hmem => by
    rw [Breakpoints.eq_enabledFor_of_mem_enabledByPath hmem]
  have hkeys : (pushed.map fun push => (push.path, (bs.enabledFor push.path).map (·.index))) =
      bs.enabledByPath.map fun group => (group.1, (bs.enabledFor group.1).map (·.index)) := by
    simpa [Function.comp_def] using
      congrArg (List.map fun path => (path, (bs.enabledFor path).map (·.index))) hpaths
  rw [List.map_congr_left hgroups, ← hkeys]
  exact forall₂_isEntry hanswers hlines

/-- **Pushing all paths.**  Paths are pushed in their order; all of them are pushed and accepted
where this succeeds. -/
theorem pushAllPaths_spec {d : Debugger σ} (hwf : d.breakpoints.WellFormed) :
    ∃ pushed : List Push, Tells pushed d (pushAllPaths d).2 ∧
      pushed.map (·.path) <+: d.breakpoints.enabledByPath.map (·.1) ∧
      ((pushAllPaths d).1 = .ok () ↔
        pushed.map (·.path) = d.breakpoints.enabledByPath.map (·.1) ∧
          ∀ push ∈ pushed, push.accepted?.isSome) := by
  rcases hsend : Action.sendAll (d.breakpoints.enabledByPath.map fun group =>
    Call.setBreakpoints (d.breakpoints.argumentsFor group.1)) d with ⟨result, d'⟩
  obtain ⟨pushed, hsends, hprefix, hcase⟩ := sendAll_setBreakpoints hsend
  refine ⟨pushed, ?_⟩
  simp only [pushAllPaths, Action.bind_apply, Action.get_apply, hsend]
  cases result with
  | error e =>
    obtain ⟨push, hmem, hunanswered⟩ := hcase
    -- one push without an answer is enough for none to be taken over
    have htaken : Push.taken pushed = [] :=
      if_neg fun hall => Bool.false_ne_true
        (hunanswered.symm.trans (List.all_eq_true.1 hall push hmem))
    refine ⟨hsends.tells_of_taken_eq_nil htaken, hprefix, ?_⟩
    refine iff_of_false (by simp) fun h => Bool.false_ne_true ?_
    exact hunanswered.symm.trans (Push.isAnswered_of_accepted (h.2 push hmem))
  | ok answers =>
    obtain ⟨hpaths, hanswers⟩ := hcase
    have hlines : ∀ push ∈ pushed,
        push.lines.length = (d.breakpoints.enabledFor push.path).length := fun push hmem => by
      rw [(hsends.faithful push hmem).2, List.length_map]
    have hall : pushed.all (·.isAnswered) := by
      rw [List.all_eq_true]
      intro push hmem
      have hanswer : push.answer ∈ answers.map .ok := hanswers ▸ List.mem_map_of_mem hmem
      obtain ⟨descriptors, _, heq⟩ := List.mem_map.1 hanswer
      rw [Push.isAnswered, ← heq]
      rfl
    -- answers are taken over in the order of the paths, up to the first miscounted one
    have hentries := forall₂_isEntry_enabledByPath hpaths hanswers hlines
    rw [← hsends.breakpoints] at hwf hentries
    obtain ⟨hstate, hresult⟩ := reconcileAll_spec hwf hentries
    rw [hsends.breakpoints] at hstate hresult
    refine ⟨?_, hprefix, hresult.trans ⟨fun haccepted => ⟨hpaths, haccepted⟩, And.right⟩⟩
    simp only [hstate]
    exact hsends.tells (by rw [Push.taken, if_pos hall])

/-! ### Operations on breakpoints -/

omit [Environment σ] in
theorem onBreakpoints_apply (f : Breakpoints → Breakpoints) (d : Debugger σ) :
    onBreakpoints f d = ((), { d with breakpoints := f d.breakpoints }) := rfl

/-- A breakpoint gets the next number where there is a session, and is pushed where the program was
started; it stays if that fails. -/
theorem setBreakpoint_apply (path : String) (line : UInt32) (d : Debugger σ) :
    setBreakpoint path line d =
      let index := d.breakpoints.lastIndex + 1
      let added := { d with breakpoints := d.breakpoints.add path line }
      if d.session.isSome then
        if d.phase.isStarted then
          match pushPath path added with
          | (.ok (), d') => (.ok (index, (d'.breakpoints.find? index).bind (·.message)), d')
          | (.error e, d') => (.error e, d')
        else (.ok (index, some pendingMessage), added)
      else (.error .noSession, d) := by
  rw [setBreakpoint]
  split_ifs with hsession hstarted
  · rw [Action.requireSession_bind_of_session hsession]
    simp only [Action.bind_apply, Action.react_apply, Action.get_apply, onBreakpoints_apply]
    rw [if_neg (by simp [hstarted]), Action.bind_apply]
    cases pushPath path { d with breakpoints := d.breakpoints.add path line } with
    | mk result d' => cases result <;> rfl
  · rw [Action.requireSession_bind_of_session hsession]
    simp only [Action.bind_apply, Action.react_apply, Action.get_apply, onBreakpoints_apply]
    rw [if_pos (by simp [hstarted])]
    rfl
  · rw [Action.requireSession_bind_apply, if_pos (by simpa using hsession)]

/-- What setting a breakpoint leaves behind. -/
theorem setBreakpoint_state (path : String) (line : UInt32) (d : Debugger σ) :
    (setBreakpoint path line d).2 =
      let added := { d with breakpoints := d.breakpoints.add path line }
      if d.session.isSome then
        if d.phase.isStarted then (pushPath path added).2 else added
      else d := by
  rw [setBreakpoint_apply]
  dsimp only
  split_ifs
  · rcases pushPath path { d with breakpoints := d.breakpoints.add path line } with
      ⟨_ | _, _⟩ <;> rfl
  · rfl
  · rfl

/-- An enabling or disabling is pushed, and undone where that fails. -/
theorem setEnabled_apply (index : Nat) (enabled : Bool) (d : Debugger σ) :
    (setEnabled index enabled d).2 = d ∨
      ∃ b, d.breakpoints.find? index = some b ∧ b.enabled ≠ enabled ∧ d.session.isSome ∧
        d.phase.isStarted ∧
        let changed := { d with
          breakpoints := d.breakpoints.modify index fun b => { b with enabled } }
        setEnabled index enabled d =
          match pushPath b.path changed with
          | (.ok (), d') => (.ok (), d')
          | (.error e, d') => (.error e, { d' with
            breakpoints := d'.breakpoints.modify index fun b =>
              { b with enabled := !enabled } }) := by
  rw [setEnabled, Action.requireSession_bind_apply]
  split_ifs with hsession hguard
  · exact .inl rfl
  · exact .inl rfl
  have hactive : d.session.isSome := by simpa [Option.isSome_iff_ne_none] using hsession
  have hstarted : d.phase.isStarted := by simpa using hguard
  simp only [Action.bind_apply, Action.get_apply, Action.ofExcept_apply]
  rw [Breakpoints.get]
  cases hfind : d.breakpoints.find? index with
  | none => exact .inl rfl
  | some b =>
    dsimp only
    split_ifs with henabled
    · exact .inl rfl
    refine .inr ⟨b, rfl, henabled, hactive, hstarted, ?_⟩
    simp only [Action.bind_apply, Action.react_apply, onBreakpoints_apply, Action.tryCatch_apply,
      Action.throw_apply]
    cases pushPath b.path { d with
      breakpoints := d.breakpoints.modify index fun b => { b with enabled } } with
    | mk result d' => cases result <;> rfl

/-- What an enabling or disabling leaves behind. -/
theorem setEnabled_cases (index : Nat) (enabled : Bool) (d : Debugger σ) :
    (setEnabled index enabled d).2 = d ∨
      ∃ b, d.breakpoints.find? index = some b ∧ b.enabled ≠ enabled ∧ d.session.isSome ∧
        d.phase.isStarted ∧
        let changed := { d with
          breakpoints := d.breakpoints.modify index fun b => { b with enabled } }
        (setEnabled index enabled d).2 =
          match pushPath b.path changed with
          | (.ok (), d') => d'
          | (.error _, d') => { d' with
            breakpoints := d'.breakpoints.modify index fun b =>
              { b with enabled := !enabled } } := by
  refine (setEnabled_apply index enabled d).imp_right ?_
  rintro ⟨b, hfind, henabled, hactive, hstarted, heq⟩
  refine ⟨b, hfind, henabled, hactive, hstarted, ?_⟩
  dsimp only at heq ⊢
  rw [heq]
  rcases pushPath b.path { d with
    breakpoints := d.breakpoints.modify index fun b => { b with enabled } } with ⟨_ | _, _⟩ <;> rfl

/-- In a started program a breakpoint is taken out, and what is left of its path is pushed. -/
theorem deleteBreakpoint_state (index : Nat) (d : Debugger σ) :
    (deleteBreakpoint index d).2 =
      if d.session.isSome ∧ d.phase.isStarted then
        match d.breakpoints.delete index with
        | .ok (b, breakpoints) => (pushPath b.path { d with breakpoints }).2
        | .error _ => d
      else d := by
  rw [deleteBreakpoint, Action.requireSession_bind_apply]
  split_ifs with hsession hready hguard hready hready
  · exact absurd hready.1 (by simpa [Option.isSome_iff_ne_none] using hsession)
  · rfl
  · exact absurd hready.2 (by simpa using hguard)
  · rfl
  · simp only [Action.bind_apply, Action.get_apply, Action.ofExcept_apply]
    cases d.breakpoints.delete index <;> rfl
  · refine absurd ⟨?_, ?_⟩ hready
    · simpa [Option.isSome_iff_ne_none] using hsession
    · simpa using hguard

/-- What a deletion leaves behind. -/
theorem deleteBreakpoint_cases (index : Nat) (d : Debugger σ) :
    (deleteBreakpoint index d).2 = d ∨
      ∃ b breakpoints, d.breakpoints.delete index = .ok (b, breakpoints) ∧ d.session.isSome ∧
        d.phase.isStarted ∧
        (deleteBreakpoint index d).2 = (pushPath b.path { d with breakpoints }).2 := by
  rw [deleteBreakpoint_state]
  split_ifs with hready
  · cases hdelete : d.breakpoints.delete index with
    | error e => exact .inl rfl
    | ok deleted => exact .inr ⟨deleted.1, deleted.2, rfl, hready.1, hready.2, rfl⟩
  · exact .inl rfl

/-- Only what pushes may change has changed, and the breakpoints are still in order. -/
structure Edits (d d' : Debugger σ) : Prop extends Steady d d' where
  wellFormed : d.breakpoints.WellFormed → d'.breakpoints.WellFormed

instance : IsPreorder (Debugger σ) Edits where
  refl _ := ⟨refl_of Steady _, id⟩
  trans _ _ _ h₁ h₂ := ⟨trans_of Steady h₁.toSteady h₂.toSteady, h₂.wellFormed ∘ h₁.wellFormed⟩

/-- Telling an adapter is an edit of nothing. -/
theorem Tells.edits {pushed : List Push} {d d' : Debugger σ} (h : Tells pushed d d') :
    Edits d d' := ⟨h.toSteady, h.sameIntent.wellFormed⟩

/-- A change of the breakpoints alone that keeps them in order. -/
theorem Edits.of_breakpoints {d : Debugger σ} {breakpoints : Breakpoints}
    (h : d.breakpoints.WellFormed → breakpoints.WellFormed) : Edits d { d with breakpoints } :=
  ⟨⟨rfl, rfl, rfl, rfl, rfl, rfl, rfl, rfl, rfl, rfl, .of_eq rfl, .of_eq rfl rfl rfl⟩, h⟩

/-- A push to one path edits nothing that is decided by the user. -/
theorem edits_pushPath (path : String) (d : Debugger σ) : Edits d (pushPath path d).2 := by
  obtain ⟨push, _, htells, _⟩ := pushPath_spec path d
  exact htells.edits

/-- Setting a breakpoint edits and pushes one path. -/
theorem edits_setBreakpoint (path : String) (line : UInt32) (d : Debugger σ) :
    Edits d (setBreakpoint path line d).2 := by
  have hadded : Edits d { d with breakpoints := d.breakpoints.add path line } :=
    .of_breakpoints fun hwf => hwf.add path line
  rw [setBreakpoint_state]
  dsimp only
  split_ifs
  · exact trans_of Edits hadded (edits_pushPath path _)
  · exact hadded
  · exact refl_of Edits d

/-- So does enabling or disabling one, also where it is taken back. -/
theorem edits_setEnabled (index : Nat) (enabled : Bool) (d : Debugger σ) :
    Edits d (setEnabled index enabled d).2 := by
  rcases setEnabled_cases index enabled d with heq | ⟨b, _, _, _, _, heq⟩
  · rw [heq]
    exact refl_of Edits d
  have hchanged : Edits d { d with
      breakpoints := d.breakpoints.modify index fun b => { b with enabled } } :=
    .of_breakpoints fun hwf => hwf.modify index fun _ => rfl
  have hpush := trans_of Edits hchanged (edits_pushPath b.path _)
  rw [heq]
  split
  · rename_i d' hrun
    rw [hrun] at hpush
    exact hpush
  · rename_i e d' hrun
    rw [hrun] at hpush
    refine trans_of Edits hpush (.of_breakpoints fun hwf => ?_)
    exact hwf.modify index fun _ => rfl

/-- So does deleting one. -/
theorem edits_deleteBreakpoint (index : Nat) (d : Debugger σ) :
    Edits d (deleteBreakpoint index d).2 := by
  rcases deleteBreakpoint_cases index d with heq | ⟨b, breakpoints, hdelete, _, _, heq⟩
  · rw [heq]
    exact refl_of Edits d
  · have hdeleted : Edits d { d with breakpoints } :=
      .of_breakpoints fun hwf => hwf.delete hdelete
    rw [heq]
    exact trans_of Edits hdeleted (edits_pushPath b.path _)

end Debugger
end DebugConsole
