/-
# Which descriptor a breakpoint gets

A push asks for the enabled breakpoints of a path in the order of their numbers, and the answer is
paired with them by place.  Between them in the list stand disabled breakpoints and breakpoints of
other paths, and each one asked for is looked up again by its number; all the same the descriptor
at a place goes to the breakpoint at that place:

| of a breakpoint | at its place a descriptor with an id | one without |
| --- | --- | --- |
| adapter id | that id | kept |
| verified | as described | yes |
| message | as described | the described one unless empty, else a warning if not verified |
| number, path, line, whether it is enabled | kept | kept |

All other breakpoints stay as they are (`Breakpoints.IsPaired`), and an answer with another number
of descriptors changes none.  This holds of the breakpoints of every run, however they were edited
before the push (`Run.descriptors_paired`).
-/

import DebugConsole.Proofs.Batches
import DebugConsole.Proofs.Listing

namespace DebugConsole

open Protocol

variable {σ : Type}

/-- What a descriptor gives to say of a breakpoint. -/
def Protocol.Descriptor.remark? (descriptor : Descriptor) : Option String :=
  if descriptor.id.isSome then descriptor.message
  else (descriptor.message.filter (· ≠ "")).or
    (if descriptor.verified then none else some unverifiedMessage)

/-- What is said of a breakpoint without an id is the remark of its descriptor. -/
theorem messageWithoutId_eq {descriptor : Descriptor} (h : descriptor.id = none) :
    messageWithoutId descriptor = descriptor.remark? := by
  rw [messageWithoutId, Descriptor.remark?, h]
  cases descriptor.message with
  | none => rfl
  | some message => by_cases hempty : message = "" <;> simp [Option.filter, hempty]

/-- One breakpoint is the other one after a descriptor was taken over for it. -/
structure Breakpoint.Follows (descriptor : Descriptor) (b b' : Breakpoint) : Prop where
  /-- Number, path, line and whether it is enabled are the user's. -/
  intent : b'.intent = b.intent
  adapterId : b'.adapterId = descriptor.id.or b.adapterId
  verified : b'.verified = (descriptor.id.isNone || descriptor.verified)
  message : b'.message = descriptor.remark?

/-- A breakpoint that is described follows its descriptor. -/
theorem Breakpoint.follows_describe (descriptor : Descriptor) (b : Breakpoint) :
    Follows descriptor b (b.describe descriptor) := by
  refine ⟨b.intent_describe descriptor, ?_, ?_, ?_⟩ <;> rw [describe]
  all_goals cases hid : descriptor.id with
  | some id => simp [Descriptor.remark?, hid]
  | none => simp [messageWithoutId_eq hid]

namespace Breakpoints

variable {bs : Breakpoints} {path : String} {descriptors : List Descriptor}

/-- Before and after an answer for a path was taken over, place by place. -/
structure IsPaired (path : String) (descriptors : List Descriptor) (bs bs' : Breakpoints) :
    Prop where
  /-- All breakpoints are where they were, with number, path, line and whether they are enabled. -/
  sameIntent : bs.SameIntent bs'
  /-- The enabled breakpoints of the path stand in the order of their numbers. -/
  ordered : (bs.list.filter (isEnabledFor path)).Pairwise (·.index < ·.index)
  /-- At every place the descriptor goes to the breakpoint. -/
  paired : ∀ (place : Nat) (b : Breakpoint) (descriptor : Descriptor),
    (bs.list.filter (isEnabledFor path))[place]? = some b → descriptors[place]? = some descriptor →
    ∃ b', (bs'.list.filter (isEnabledFor path))[place]? = some b' ∧ b.Follows descriptor b'
  /-- Disabled breakpoints, and those of other paths, are what they were. -/
  others : bs'.list.filter (!isEnabledFor path ·) = bs.list.filter (!isEnabledFor path ·)

/-- Under different keys every value is found under the key at its place. -/
theorem find?_zip {keys : List Nat} (hnodup : keys.Nodup) {place key : Nat}
    {descriptor : Descriptor} (hkey : keys[place]? = some key)
    (hvalue : descriptors[place]? = some descriptor) :
    (keys.zip descriptors).find? (·.1 = key) = some (key, descriptor) := by
  induction keys generalizing place descriptors with
  | nil => cases hkey
  | cons first rest ih =>
    obtain ⟨hnew, hrest⟩ := List.nodup_cons.1 hnodup
    cases descriptors with
    | nil => cases hvalue
    | cons head others =>
      cases place with
      | zero =>
        obtain rfl := Option.some.inj hkey
        obtain rfl := Option.some.inj hvalue
        exact List.find?_cons_of_pos (decide_eq_true rfl)
      | succ place =>
        have hne : first ≠ key := fun heq => hnew (heq ▸ List.mem_of_getElem? hkey)
        rw [List.zip_cons_cons, List.find?_cons_of_neg (by simpa using hne)]
        exact ih hrest hkey hvalue

/-- The breakpoint at a place is described by the descriptor at the place. -/
theorem WellFormed.describeBy_of_place (h : bs.WellFormed) {place : Nat} {b : Breakpoint}
    {descriptor : Descriptor} (hb : (bs.list.filter (isEnabledFor path))[place]? = some b)
    (hdescriptor : descriptors[place]? = some descriptor) :
    b.describeBy (((bs.enabledFor path).map (·.index)).zip descriptors) =
      b.describe descriptor := by
  have hkey : ((bs.enabledFor path).map (·.index))[place]? = some b.index := by
    rw [h.enabledFor_eq, List.getElem?_map, hb]
    rfl
  rw [Breakpoint.describeBy, find?_zip (h.nodup_index_enabledFor path) hkey hdescriptor]

/-- **An answer is paired with the breakpoints that were asked for, by place.** -/
theorem WellFormed.isPaired_describeAll (h : bs.WellFormed)
    (hlength : descriptors.length = (bs.enabledFor path).length) :
    bs.IsPaired path descriptors
      (bs.describeAll (((bs.enabledFor path).map (·.index)).zip descriptors)) := by
  let entries := ((bs.enabledFor path).map (·.index)).zip descriptors
  have hkeys : (entries.map (·.1)).Nodup := by
    rw [List.map_fst_zip (by rw [List.length_map, hlength])]
    exact h.nodup_index_enabledFor path
  have hlist : (bs.describeAll entries).list = bs.list.map (·.describeBy entries) :=
    h.list_describeAll hkeys
  -- whether a breakpoint was asked for is decided by the user, so no descriptor changes it
  have hasked (b : Breakpoint) : isEnabledFor path (b.describeBy entries) = isEnabledFor path b :=
    congrArg (fun i : Nat × String × UInt32 × Bool => decide (i.2.1 = path) && i.2.2.2)
      (b.intent_describeBy entries)
  refine ⟨.describeAll bs entries, h.sorted.filter _, ?_, ?_⟩
  · intro place b descriptor hb hdescriptor
    refine ⟨b.describe descriptor, ?_, b.follows_describe descriptor⟩
    rw [hlist, List.filter_map, Function.comp_def]
    simp only [hasked]
    rw [List.getElem?_map, hb, Option.map_some, h.describeBy_of_place hb hdescriptor]
  · rw [hlist, List.filter_map, Function.comp_def]
    simp only [hasked]
    refine (List.map_congr_left fun b hb => ?_).trans (List.map_id _)
    obtain ⟨hmem, hother⟩ := List.mem_filter.1 hb
    exact h.describeBy_of_not_isEnabledFor hmem (by simpa using hother) descriptors

/-- Edits keep the list and its index in order. -/
theorem WellFormed.edit (h : bs.WellFormed) (e : Edit) : (edit e bs).2.WellFormed := by
  cases e with
  | add path line => exact h.add path line
  | delete index =>
    rw [Breakpoints.edit]
    cases hdelete : bs.delete index with
    | error e => exact h
    | ok deleted => exact h.delete hdelete
  | change index change =>
    rw [Breakpoints.edit, update]
    cases bs.find? index with
    | none => exact h
    | some b => exact h.modify index change.apply_keys
  | changeId id change =>
    rw [Breakpoints.edit, updateId]
    cases bs.findId? id with
    | none => exact h
    | some b => exact h.of_keys (map_changeFirst change.apply_keys ..) rfl rfl

theorem WellFormed.replay (h : bs.WellFormed) (edits : List Edit) :
    (Edit.replay Breakpoints.edit edits bs).2.WellFormed := by
  induction edits generalizing bs with
  | nil => exact h
  | cons e rest ih => exact ih (h.edit e)

end Breakpoints

namespace Debugger

variable [Environment σ]

/-- The debugger after edits of its breakpoints that were not pushed. -/
def edited (edits : List Edit) (d : Debugger σ) : Debugger σ :=
  { d with breakpoints := (Edit.replay Breakpoints.edit edits d.breakpoints).2 }

/-- What the adapter answers when it is sent the enabled breakpoints of a path. -/
def answerFor (path : String) (d : Debugger σ) : Except Error (List Descriptor) :=
  (Action.send (Call.setBreakpoints (d.breakpoints.argumentsFor path)) d).1

/-- What comes of a push of a path that is answered with these descriptors. -/
structure PushesPaired (path : String) (descriptors : List Descriptor) (d : Debugger σ) :
    Prop where
  /-- Another number of descriptors is a breach of protocol, and changes no breakpoint. -/
  miscounted : descriptors.length ≠ (d.breakpoints.enabledLines path).length →
    (pushPath path d).1 = .error (.protocol
      (.descriptorCount path descriptors.length (d.breakpoints.enabledLines path).length)) ∧
      (pushPath path d).2.breakpoints = d.breakpoints
  /-- One descriptor for each breakpoint that was asked for goes to that breakpoint. -/
  matched : descriptors.length = (d.breakpoints.enabledLines path).length →
    (pushPath path d).1 = .ok () ∧
      d.breakpoints.IsPaired path descriptors (pushPath path d).2.breakpoints

/-- **A push pairs descriptors with breakpoints by place.** -/
theorem pushesPaired {d : Debugger σ} (hwf : d.breakpoints.WellFormed) {path : String}
    {descriptors : List Descriptor} (h : d.answerFor path = .ok descriptors) :
    d.PushesPaired path descriptors := by
  have hcount : (d.breakpoints.enabledFor path).length =
      (d.breakpoints.enabledLines path).length := by
    rw [← hwf.map_line_enabledFor, List.length_map]
  have hpush : ∃ d₁ : Debugger σ, d₁.breakpoints = d.breakpoints ∧ pushPath path d =
      reconcile path ((d.breakpoints.enabledFor path).map (·.index)) descriptors d₁ := by
    rw [answerFor] at h
    rcases hsend : Action.send (Call.setBreakpoints (d.breakpoints.argumentsFor path)) d with
      ⟨answer, d₁⟩
    rw [hsend] at h
    obtain rfl : answer = .ok descriptors := h
    refine ⟨d₁, congrArg (·.2.breakpoints) hsend.symm, ?_⟩
    simp only [pushPath, Action.bind_apply, Action.get_apply, hsend]
  obtain ⟨d₁, hbefore, heq⟩ := hpush
  rw [reconcile_apply, Breakpoints.reconcile, hbefore, List.length_map, hcount] at heq
  refine ⟨fun hne => ?_, fun hlength => ?_⟩
  · rw [heq, if_neg hne]
    exact ⟨rfl, hbefore⟩
  · rw [heq, if_pos hlength]
    exact ⟨rfl, hwf.isPaired_describeAll (hlength.trans hcount.symm)⟩

/-- In a started program a breakpoint is pushed as soon as it is added, and what is said of it is
read off the breakpoint after that. -/
theorem setBreakpoint_of_pushed {d : Debugger σ} (hsession : d.session.isSome)
    (hphase : d.phase.isStarted) {path : String} {line : UInt32}
    (hpushed : (pushPath path { d with breakpoints := d.breakpoints.add path line }).1 = .ok ()) :
    let d' := (pushPath path { d with breakpoints := d.breakpoints.add path line }).2
    setBreakpoint path line d = (.ok (d.breakpoints.lastIndex + 1,
      (d'.breakpoints.find? (d.breakpoints.lastIndex + 1)).bind (·.message)), d') := by
  rw [setBreakpoint_apply, if_pos hsession, if_pos hphase]
  rcases hpush : pushPath path { d with breakpoints := d.breakpoints.add path line } with
    ⟨result, d'⟩
  rw [hpush] at hpushed
  obtain rfl : result = .ok () := hpushed
  rfl

/-- **What is said of a new breakpoint** in a started program is what the last descriptor gives. -/
theorem setBreakpoint_of_started {d : Debugger σ} (hwf : d.breakpoints.WellFormed)
    (hsession : d.session.isSome) (hphase : d.phase.isStarted) {path : String} {line : UInt32}
    {descriptors : List Descriptor}
    (h : { d with breakpoints := d.breakpoints.add path line }.answerFor path = .ok descriptors)
    (hlength : descriptors.length = (d.breakpoints.enabledLines path).length + 1) :
    ∃ last, descriptors.getLast? = some last ∧ setBreakpoint path line d =
      (.ok (d.breakpoints.lastIndex + 1, last.remark?),
        (pushPath path { d with breakpoints := d.breakpoints.add path line }).2) := by
  let bs := d.breakpoints.add path line
  let new : Breakpoint := { index := d.breakpoints.lastIndex + 1, path, line }
  have hadded : bs.WellFormed := hwf.add path line
  have hcount : descriptors.length = (bs.enabledLines path).length := by
    rw [hlength, Breakpoints.enabledLines_add_self, List.length_append, List.length_singleton]
  obtain ⟨hpushed, hpaired⟩ :=
    (pushesPaired (d := { d with breakpoints := bs }) hadded h).matched hcount
  -- the new breakpoint is the last one of its path, so it gets the last descriptor
  let place := (d.breakpoints.enabledLines path).length
  have hnew : (bs.list.filter (Breakpoints.isEnabledFor path))[place]? = some new := by
    have hplace : place = (d.breakpoints.list.filter (Breakpoints.isEnabledFor path)).length :=
      List.length_map ..
    have hasked : Breakpoints.isEnabledFor path new := by simp [Breakpoints.isEnabledFor, new]
    rw [hplace, show bs.list = d.breakpoints.list ++ [new] from rfl, List.filter_append,
      List.filter_cons_of_pos hasked]
    exact List.getElem?_concat_length
  obtain ⟨last, hlast⟩ : ∃ last, descriptors[place]? = some last :=
    ⟨_, List.getElem?_eq_getElem (by omega)⟩
  obtain ⟨b', hb', hfollows⟩ := hpaired.paired place new last hnew hlast
  have hindex : b'.index = d.breakpoints.lastIndex + 1 := congrArg (·.1) hfollows.intent
  have hfind := (hpaired.sameIntent.wellFormed hadded).find?_of_mem
    (List.mem_of_mem_filter (List.mem_of_getElem? hb'))
  rw [hindex] at hfind
  refine ⟨last, ?_, (setBreakpoint_of_pushed hsession hphase hpushed).trans ?_⟩
  · rw [List.getLast?_eq_getElem?, hlength]
    exact hlast
  · rw [hfind, Option.bind_some, hfollows.message]

end Debugger

open Debugger

variable [Environment σ]

/-- **Every descriptor goes to the breakpoint at its place.**  However the breakpoints of a run were
edited before a push, an answer that can be read is paired by place with the enabled breakpoints of
the path, or it has another number of descriptors and changes none.  What is said of a breakpoint
that is set in a started program is what the last descriptor gives to say. -/
theorem Run.descriptors_paired {history : List (Step σ)} {d : Debugger σ} (h : Run history d)
    (path : String) :
    (∀ (edits : List Edit) (descriptors : List Descriptor),
      (d.edited edits).answerFor path = .ok descriptors →
        (d.edited edits).PushesPaired path descriptors) ∧
    ∀ (line : UInt32) (descriptors : List Descriptor), d.session.isSome → d.phase.isStarted →
      { d with breakpoints := d.breakpoints.add path line }.answerFor path = .ok descriptors →
      descriptors.length = (d.breakpoints.enabledLines path).length + 1 →
        ∃ last, descriptors.getLast? = some last ∧ setBreakpoint path line d =
          (.ok (d.breakpoints.lastIndex + 1, last.remark?),
            (pushPath path { d with breakpoints := d.breakpoints.add path line }).2) := by
  have hwf := h.isTold.wellFormed
  refine ⟨fun edits descriptors hanswer => ?_, fun line descriptors hsession hphase => ?_⟩
  · exact pushesPaired (hwf.replay edits) hanswer
  · exact setBreakpoint_of_started hwf hsession hphase

/-- An adapter that has an id for the first of three breakpoints, once the program runs. -/
def Script.describing : Script where
  entries := [("setBreakpoints", [{}, { answer := .body (Json.object [("breakpoints", .arr
    [ Json.object [("id", .int 7), ("verified", true), ("message", "moved")],
      Json.object [("verified", false), ("message", "")],
      Json.object [("verified", true), ("message", "no code here")] ])]) }])]

/-- A run it speaks of.  The first breakpoint of the path is disabled and two are added before a
push, or one is added with a push of its own. -/
theorem Run.descriptors_paired_scripted :
    let d := (Move.steps
      [ .operate (.launch Script.launched), .handle (.event 1 .initialized),
        .operate (.setBreakpoint "a.c" 3), .operate (.setBreakpoint "a.c" 5), .operate .run ]
      [] (Script.rehearse .describing)).2
    let edits : List Edit :=
      [.change 1 (.enable false), .add "a.c" 7, .add "b.c" 2, .add "a.c" 9]
    (pushPath "a.c" (d.edited edits)).2.breakpoints.list =
        [ { index := 1, path := "a.c", line := 3, enabled := false, verified := true,
            adapterId := some 1 },
          { index := 2, path := "a.c", line := 5, verified := true, adapterId := some 7,
            message := some "moved" },
          { index := 3, path := "a.c", line := 7, verified := true,
            message := some unverifiedMessage },
          { index := 4, path := "b.c", line := 2 },
          { index := 5, path := "a.c", line := 9, verified := true,
            message := some "no code here" } ] ∧
      (setBreakpoint "a.c" 7 d).1.toOption = some (3, some "no code here") ∧
      ∃ descriptors, (d.edited edits).answerFor "a.c" = .ok descriptors ∧
        (d.edited edits).PushesPaired "a.c" descriptors := by
  intro d edits
  have hrun := (Run.start Script.describing {} ["stderr", "telemetry"]).steps
    [ .operate (.launch Script.launched), .handle (.event 1 .initialized),
      .operate (.setBreakpoint "a.c" 3), .operate (.setBreakpoint "a.c" 5), .operate .run ]
  refine ⟨by decide +kernel, by decide +kernel, ?_⟩
  have hanswered : ((d.edited edits).answerFor "a.c").isOk := by decide +kernel
  cases hanswer : (d.edited edits).answerFor "a.c" with
  | ok descriptors => exact ⟨descriptors, rfl, (hrun.descriptors_paired "a.c").1 edits _ hanswer⟩
  | error e =>
    rw [hanswer] at hanswered
    cases hanswered

end DebugConsole
