/-
# How many frames are asked for

A stack trace is asked for down to a place: the selected frame is the last one in it.  The number of
frames is one more than the place, and it is counted in 64-bit words with a sign:

| place | number asked for |
| --- | --- |
| below `2^63 - 1` | one more |
| from `2^63 - 1` to `2^64 - 2` | negative |
| `2^64 - 1` | zero, which asks for all frames |

The user may name any place, but one that is kept was in a stack trace (`Run.levels_exact_iff`), so
that afterwards a wrong number is asked for only if the adapter has listed `2^63` frames.
-/

import DebugConsole.Proofs.Commands
import DebugConsole.Proofs.Evolution

namespace DebugConsole

open Protocol

variable {σ : Type}

/-! ### Numbers of frames -/

/-- How many frames an exchange asks for, if it asks for a stack trace. -/
def Exchange.levels? : Exchange → Option Int
  | .request asked _ | .abandoned asked _ =>
    if asked.command = "stackTrace" then
      (asked.arguments.bind (·.get? "levels")).bind Json.int?
    else none
  | _ => none

/-- The number is one more than the place, up to multiples of `2^64`. -/
theorem toInt_levelsFor (place : UInt64) :
    (levelsFor place).toInt = (place.toNat + 1 : Int).bmod (2 ^ 64) := by
  have hplace : place.toInt64.toInt = (place.toNat : Int).bmod (2 ^ 64) :=
    BitVec.toInt_eq_toNat_bmod _
  rw [levelsFor, Int64.toInt_add, hplace]
  exact Int.bmod_add_bmod

/-- **The number of frames is exact** just for places that leave room for one more in a 64-bit word
with a sign. -/
theorem levelsFor_exact_iff (place : UInt64) :
    (levelsFor place).toInt = place.toNat + 1 ↔ place.toNat + 1 < 2 ^ 63 := by
  have hlt := place.toNat_lt
  rw [toInt_levelsFor, Int.bmod_def]
  split <;> omega

/-- For greater places it is not even positive. -/
theorem levelsFor_pos_iff (place : UInt64) :
    0 < (levelsFor place).toInt ↔ place.toNat + 1 < 2 ^ 63 := by
  have hlt := place.toNat_lt
  rw [toInt_levelsFor, Int.bmod_def]
  split <;> omega

/-- Stack traces down to a place were asked for, and nothing else. -/
structure TracesTo (place : UInt64) (new : List Exchange) (d d' : Debugger σ) : Prop where
  exchanges : d'.exchanges = new ++ d.exchanges
  asked : new ≠ []
  levels : ∀ e ∈ new, e.levels? = some ((place.toNat + 1 : Int).bmod (2 ^ 64))
  /-- The number is as it should be just if it is a 64-bit word with a sign. -/
  exact_iff : ∀ e ∈ new, e.levels? = some (place.toNat + 1 : Int) ↔ place.toNat + 1 < 2 ^ 63
  positive_iff : ∀ e ∈ new, (∃ levels, e.levels? = some levels ∧ 0 < levels) ↔
    place.toNat + 1 < 2 ^ 63

/-- Stack traces that ask for this number of frames go down to the place. -/
theorem TracesTo.of_levels {place : UInt64} {new : List Exchange} {d d' : Debugger σ}
    (hexchanges : d'.exchanges = new ++ d.exchanges) (hasked : new ≠ [])
    (hlevels : ∀ e ∈ new, e.levels? = some (levelsFor place).toInt) : TracesTo place new d d' where
  exchanges := hexchanges
  asked := hasked
  levels e he := by rw [hlevels e he, toInt_levelsFor]
  exact_iff e he := by rw [hlevels e he, Option.some_inj, levelsFor_exact_iff]
  positive_iff e he := by
    rw [hlevels e he, ← levelsFor_pos_iff]
    exact ⟨fun ⟨levels, hsame, hpos⟩ => Option.some.inj hsame ▸ hpos, fun hpos => ⟨_, rfl, hpos⟩⟩

namespace Threads

/-- The thread of which a frame was selected is found with it. -/
theorem find?_selectFrame {ts ts' : Threads} {id : Int64} {place : UInt64}
    (h : ts.selectFrame id place = .ok ts') : ts'.focusId = ts.focusId ∧
      ts'.find? id = (ts.find? id).map fun t => { t with selectedFrame := some place } := by
  unfold selectFrame update at h
  split at h
  · cases h
    exact ⟨rfl, find?_changeFirst (p := (·.id = id))
      (f := fun t => { t with selectedFrame := some place }) (fun _ => rfl) ts.list⟩
  · cases h

/-- A thread that is found by its id has it. -/
theorem find?_of_focus? {ts : Threads} {thread : Thread} (h : ts.focus? = some thread) :
    ts.focusId = some thread.id ∧ ts.find? thread.id = some thread := by
  obtain ⟨id, hfocus, hfind⟩ := Option.bind_eq_some_iff.1 h
  have hid : thread.id = id := by simpa using List.find?_some hfind
  rw [hid]
  exact ⟨hfocus, hfind⟩

end Threads

namespace Debugger

variable [Environment σ]

/-- A stack trace asks for as many frames as it was told to. -/
theorem stackTrace_asks_levels {d : Debugger σ} (hsession : d.session.isSome)
    (hphase : d.phase.isStarted) (threadId levels : Int64) :
    ∃ e, (stackTrace threadId levels d).2.exchanges = e :: d.exchanges ∧
      e.levels? = some levels.toInt := by
  have hguard : ¬d.session.isNone := by simpa [Option.isSome_iff_ne_none] using hsession
  have hstarted : ¬(!false && !d.phase.isStarted) := by simp [hphase]
  rw [stackTrace, Action.requireSession_bind_apply, if_neg hguard, if_neg hstarted]
  have harguments : (StackTraceArguments.toJson { threadId, levels := some levels }).get? "levels" =
      some (.int levels.toInt) := by
    simp [StackTraceArguments.toJson, Json.record, Json.object, Json.get?, Json.Fields.ofList,
      Json.Fields.find?_insert_self, ofInt64]
  obtain ⟨environment, session, answer, -, -, hsend⟩ :=
    Action.send_apply (Call.stackTrace { threadId, levels := some levels }) d
  rw [hsend]
  exact ⟨_, rfl, congrArg (Option.bind · Json.int?) harguments⟩

/-- Whether a frame can be selected is seen from the answer; nothing more is asked. -/
theorem exchanges_selectFrame (threadId : Int64) (place : UInt64) (d : Debugger σ) :
    (selectFrame threadId place d).2.exchanges =
      (stackTrace threadId (levelsFor place) d).2.exchanges := by
  rw [selectFrame, Action.bind_apply]
  rcases stackTrace threadId (levelsFor place) d with ⟨e | frames, d₁⟩
  · rfl
  · dsimp only
    split
    · rfl
    · rw [onThreads_apply]
      split <;> rfl

/-- The current frame is looked up by a stack trace down to the selected place. -/
theorem exchanges_currentFrame {d : Debugger σ} {thread : Thread}
    (hactive : activeThread d = (.ok thread, d)) : (currentFrame d).2.exchanges =
      (stackTrace thread.id (levelsFor (thread.selectedFrame.getD 0)) d).2.exchanges := by
  rw [currentFrame, Action.bind_apply, hactive]
  dsimp only
  rw [Action.bind_apply]
  rcases stackTrace thread.id _ d with ⟨e | frames, d₁⟩ <;> rfl

omit [Environment σ] in
/-- A thread in focus is the active one. -/
theorem activeThread_of_focus? {d : Debugger σ} (hsession : d.session.isSome)
    (hphase : d.phase.isStarted) {thread : Thread} (hfocus : d.threads.focus? = some thread) :
    activeThread d = (.ok thread, d) := by
  rw [activeThread_apply hsession hphase, hfocus]
  rfl

/-- After a frame of the active thread was selected, it is still the active one. -/
theorem activeThread_selectFrame {d : Debugger σ} (hsession : d.session.isSome)
    (hphase : d.phase.isStarted) {thread : Thread} (hfocus : d.threads.focus? = some thread)
    {place : UInt64} (hselected : (selectFrame thread.id place d).1 = .ok ()) :
    let d' := (selectFrame thread.id place d).2
    activeThread d' = (.ok { thread with selectedFrame := some place }, d') ∧
      d'.session.isSome ∧ d'.phase.isStarted := by
  intro d'
  have hkept : Selects d d' := within_selectFrame thread.id place d
  obtain ⟨hfocusId, hfind⟩ := Threads.find?_of_focus? hfocus
  have hopen : d'.session.isSome := hkept.session.trans hsession
  have hstarted : d'.phase.isStarted := by rw [hkept.phase]; exact hphase
  refine ⟨activeThread_of_focus? hopen hstarted ?_, hopen, hstarted⟩
  rcases selectFrame_cases thread.id place d with ⟨e, herror, -⟩ | ⟨_, threads, -, -, hok, -, heq⟩
  · cases hselected.symm.trans herror
  obtain ⟨hsame, hfound⟩ := Threads.find?_selectFrame hok
  rw [show d'.threads = threads from heq, Threads.focus?, hsame, hfocusId, Option.bind_some, hfound,
    hfind]
  rfl

end Debugger

open Debugger

/-! ### What is asked -/

section Asking

variable [Environment σ]

/-- Selecting a frame traces down to it. -/
theorem Debugger.traces_selectFrame {d : Debugger σ} (hsession : d.session.isSome)
    (hphase : d.phase.isStarted) (threadId : Int64) (place : UInt64) :
    ∃ e, TracesTo place [e] d (selectFrame threadId place d).2 := by
  obtain ⟨e, hexchanges, hlevels⟩ :=
    stackTrace_asks_levels hsession hphase threadId (levelsFor place)
  refine ⟨e, .of_levels ((exchanges_selectFrame ..).trans hexchanges) (List.cons_ne_nil e []) ?_⟩
  exact fun other hmem => by rwa [List.mem_singleton.1 hmem]

/-- Looking up the current frame traces down to the selected one. -/
theorem Debugger.traces_currentFrame {d : Debugger σ} (hsession : d.session.isSome)
    (hphase : d.phase.isStarted) {thread : Thread} (hactive : activeThread d = (.ok thread, d)) :
    ∃ e, TracesTo (thread.selectedFrame.getD 0) [e] d (currentFrame d).2 := by
  obtain ⟨e, hexchanges, hlevels⟩ := stackTrace_asks_levels hsession hphase thread.id
    (levelsFor (thread.selectedFrame.getD 0))
  refine ⟨e, .of_levels ((exchanges_currentFrame hactive).trans hexchanges)
    (List.cons_ne_nil e []) ?_⟩
  exact fun other hmem => by rwa [List.mem_singleton.1 hmem]

namespace Builtin

/-- What `frame` writes comes after what it asks for. -/
theorem exchanges_showFrame {d : Debugger σ} {thread : Thread}
    (hactive : activeThread d = (.ok thread, d)) : ((do
      let place := (← Debugger.activeThread).selectedFrame.getD 0
      match ← Debugger.currentFrame with
      | some frame =>
        sayAll ["#" ++ toString place.toNat ++ " " ++ frame.name ++ " at " ++ frameLocation frame]
      | none => sayAll ["No stack frames"] : Action σ Unit) d).2.exchanges =
        (currentFrame d).2.exchanges := by
  rw [Action.bind_apply, hactive]
  dsimp only
  rw [Action.bind_apply]
  rcases currentFrame d with ⟨e | _ | frame, d₁⟩
  · rfl
  · exact congrArg (fun run => run.2.exchanges) (sayAll_apply _ d₁)
  · exact congrArg (fun run => run.2.exchanges) (sayAll_apply _ d₁)

/-- Where `frame` is given a place, it asks for the stack down to it, and does so again to show the
frame. -/
theorem traces_frame {d : Debugger σ} (hsession : d.session.isSome) (hphase : d.phase.isStarted)
    {thread : Thread} (hfocus : d.threads.focus? = some thread) {args : List String}
    {place : UInt64} (hplace : args.head?.bind Text.uint64? = some place) :
    ∃ new, TracesTo place new d (frame.run args d).2 := by
  have hargs : !args.isEmpty := by
    cases args with
    | nil => cases hplace
    | cons arg rest => rfl
  have hactive := activeThread_of_focus? hsession hphase hfocus
  have hselected (hok : (selectFrame thread.id place d).1 = .ok ()) :=
    activeThread_selectFrame hsession hphase hfocus hok
  obtain ⟨e, htraces⟩ := traces_selectFrame hsession hphase thread.id place
  unfold frame
  dsimp only
  rw [if_pos hargs, Action.bind_apply, argument_apply, hplace]
  dsimp only
  rw [Action.bind_apply, hactive]
  dsimp only
  rw [Action.bind_apply]
  rcases hrun : selectFrame thread.id place d with ⟨error | _, d₁⟩ <;>
    rw [hrun] at htraces hselected
  · exact ⟨[e], htraces⟩
  obtain ⟨hactive₁, hopen, hstarted⟩ := hselected rfl
  obtain ⟨e₁, hshown⟩ := traces_currentFrame hopen hstarted hactive₁
  refine ⟨[e₁, e], .of_levels ?_ (List.cons_ne_nil _ _) ?_⟩
  · exact (exchanges_showFrame hactive₁).trans (hshown.exchanges.trans
      (congrArg (e₁ :: ·) htraces.exchanges))
  · rw [toInt_levelsFor]
    intro other hmem
    rcases List.mem_cons.1 hmem with rfl | hmem
    · exact hshown.levels other List.mem_cons_self
    · exact htraces.levels other hmem

end Builtin

/-- The command `frame` traces down to the place that was typed. -/
theorem CommandTable.traces_dispatch (options : CommandOptions) {d : Debugger σ}
    (hsession : d.session.isSome) (hphase : d.phase.isStarted) {thread : Thread}
    (hfocus : d.threads.focus? = some thread) {line word : String} {args : List String}
    {place : UInt64} (hline : Text.words line = word :: args) (hword : word = "frame" ∨ word = "f")
    (hplace : args.head?.bind Text.uint64? = some place) :
    ∃ new, TracesTo place new d ((builtin options).dispatch line d).2 := by
  have hfind : (builtin options : CommandTable σ).find? word = some Builtin.frame := by
    rcases hword with rfl | rfl <;> rfl
  rw [dispatch, hline]
  dsimp only
  rw [hfind]
  exact Builtin.traces_frame hsession hphase hfocus hplace

end Asking

/-! ### Places that are kept -/

namespace Threads

/-- Whatever is selected in the second list was selected in the first, of a thread with the same
id. -/
def SelectsNoMore (before after : List Thread) : Prop :=
  ∀ t ∈ after, t.selectedFrame = none ∨
    ∃ u ∈ before, u.id = t.id ∧ u.selectedFrame = t.selectedFrame

/-- A list selects no more than itself. -/
theorem SelectsNoMore.refl (list : List Thread) : SelectsNoMore list list :=
  fun t ht => .inr ⟨t, ht, rfl, rfl⟩

/-- One change after the other. -/
theorem SelectsNoMore.trans {first second third : List Thread} (h₁ : SelectsNoMore first second)
    (h₂ : SelectsNoMore second third) : SelectsNoMore first third := fun t ht => by
  rcases h₂ t ht with hnone | ⟨u, hu, hid, hsame⟩
  · exact .inl hnone
  · rw [← hid, ← hsame]
    exact h₁ u hu

/-- A change that keeps ids and selections. -/
theorem selectsNoMore_map {f : Thread → Thread} (list : List Thread)
    (hf : ∀ t, (f t).id = t.id ∧ (f t).selectedFrame = t.selectedFrame) :
    SelectsNoMore list (list.map f) :=
  List.forall_mem_map.2 fun t ht => .inr ⟨t, ht, (hf t).1.symm, (hf t).2.symm⟩

/-- A change of one thread that keeps its selection or clears it. -/
theorem selectsNoMore_changeFirst {p : Thread → Bool} {f : Thread → Thread} (list : List Thread)
    (hf : ∀ t, (f t).selectedFrame = none ∨
      (f t).id = t.id ∧ (f t).selectedFrame = t.selectedFrame) :
    SelectsNoMore list (changeFirst p f list) := fun t ht => by
  rcases mem_changeFirst ht with hmem | ⟨u, hu, -, rfl⟩
  · exact .inr ⟨t, hmem, rfl, rfl⟩
  · exact (hf u).imp_right fun hsame => ⟨u, hu, hsame.1.symm, hsame.2.symm⟩

theorem selectsNoMore_update {f : Thread → Thread} (ts : Threads) (id : Int64)
    (hf : ∀ t, (f t).selectedFrame = none ∨
      (f t).id = t.id ∧ (f t).selectedFrame = t.selectedFrame) :
    SelectsNoMore ts.list ((ts.update id f).toOption.getD ts).list := by
  rw [getD_update]
  exact selectsNoMore_changeFirst ts.list hf

/-- A thread more has nothing selected. -/
theorem selectsNoMore_insert (ts : Threads) {t : Thread} (ht : t.selectedFrame = none) :
    SelectsNoMore ts.list (ts.insert t).list := by
  rw [insert]
  split
  · exact selectsNoMore_changeFirst ts.list fun _ => .inl ht
  · intro u hu
    rcases List.mem_append.1 hu with hu | hu
    · exact SelectsNoMore.refl ts.list u hu
    · rw [List.mem_singleton.1 hu]
      exact .inl ht

/-- Where all selections are cleared none is left. -/
theorem selectsNoMore_clearAllFrames (ts : Threads) :
    SelectsNoMore ts.list ts.clearAllFrames.list := by
  have hfold (ids : List Int64) (list : List Thread) : SelectsNoMore list
      (ids.foldl (fun list id => changeFirst (·.id = id) Thread.cleared list) list) := by
    induction ids generalizing list with
    | nil => exact .refl list
    | cons id rest ih => exact (selectsNoMore_changeFirst list fun _ => .inl rfl).trans (ih _)
  rw [clearAllFrames_eq_foldl]
  exact hfold _ _

/-- No change but the selection of a frame selects anything. -/
theorem Change.SelectsNone.selectsNoMore {change : Change} (h : change.SelectsNone)
    (ts : Threads) : SelectsNoMore ts.list (change.apply ts).list := by
  cases change with
  | insert t => exact selectsNoMore_insert ts h
  | remove id => exact fun t ht => SelectsNoMore.refl ts.list t (List.mem_filter.1 ht).1
  | replaceAll list => exact fun t ht => .inl (h t ht)
  | markRunning id => exact selectsNoMore_update ts id fun _ => .inr ⟨rfl, rfl⟩
  | markStopped id => exact selectsNoMore_update ts id fun _ => .inr ⟨rfl, rfl⟩
  | markAllRunning => exact selectsNoMore_map ts.list fun _ => ⟨rfl, rfl⟩
  | markAllStopped => exact selectsNoMore_map ts.list fun _ => ⟨rfl, rfl⟩
  | selectFrame id place => exact h.elim
  | clearFrame id => exact selectsNoMore_update ts id fun _ => .inl rfl
  | clearAllFrames => exact selectsNoMore_clearAllFrames ts
  | setFocus id =>
    rw [apply, list_setFocus]
    exact .refl ts.list

/-- So what was selected later was selected before. -/
theorem Evolves.selectsNoMore {ts ts' : Threads} (h : Evolves ts ts') :
    SelectsNoMore ts.list ts'.list := by
  induction h with
  | refl => exact .refl ts.list
  | forget => exact fun _ ht => nomatch ht
  | change _ change hnone ih => exact ih.trans (hnone.selectsNoMore _)

end Threads

namespace Run

variable [Environment σ]

/-- **A place is only kept where a stack trace has reached down to it.** -/
theorem exists_selected {history : List (Step σ)} {d : Debugger σ} (h : Run history d)
    {t : Thread} (ht : t ∈ d.threads.list) {place : UInt64}
    (hplace : t.selectedFrame = some place) :
    ∃ step ∈ history, step.move = .operate (.selectFrame t.id place) ∧
      ∃ frames, (stackTrace t.id (levelsFor place) step.before).1 = .ok frames ∧
        place.toNat < frames.length := by
  induction h generalizing t with
  | start environment console suppressed => cases ht
  | @step history d hrun move ih =>
    have hearlier {u : Thread} (hu : u ∈ d.threads.list) (hid : u.id = t.id)
        (hsame : u.selectedFrame = t.selectedFrame) :
        ∃ step ∈ ⟨d, move⟩ :: history, step.move = .operate (.selectFrame t.id place) ∧
          ∃ frames, (stackTrace t.id (levelsFor place) step.before).1 = .ok frames ∧
            place.toNat < frames.length := by
      obtain ⟨step, hstep, hmove, hframes⟩ := ih hu (hsame.trans hplace)
      rw [hid] at hmove hframes
      exact ⟨step, List.mem_cons_of_mem _ hstep, hmove, hframes⟩
    rcases threads_next hrun.isTold.wellFormed move with
      hevolves | ⟨id, selected, frames, rfl, hframes, hlength, hthreads⟩
    · rcases hevolves.selectsNoMore t ht with hnone | ⟨u, hu, hid, hsame⟩
      · cases hnone.symm.trans hplace
      · exact hearlier hu hid hsame
    · rw [hthreads, Threads.Change.apply, Threads.selectFrame, Threads.getD_update] at ht
      rcases Threads.mem_changeFirst ht with hmem | ⟨u, -, hid, rfl⟩
      · exact hearlier hmem rfl rfl
      · obtain rfl : selected = place := Option.some.inj hplace
        obtain rfl : u.id = id := of_decide_eq_true hid
        exact ⟨_, List.mem_cons_self, rfl, frames, hframes, hlength⟩

/-- **When the right number of frames is asked for.**  Selecting a frame, asking for the current one
and the command for both ask for one frame more than the place says if and only if that is a 64-bit
word with a sign, and the number they ask for is positive just then.  A place that is kept comes
from an operation that has selected it, and from an answer with more frames than the place says. -/
theorem levels_exact_iff (options : CommandOptions) {history : List (Step σ)} {d : Debugger σ}
    (h : Run history d) (hsession : d.session.isSome) (hphase : d.phase.isStarted) :
    (∀ threadId place, ∃ e, TracesTo place [e] d (selectFrame threadId place d).2) ∧
    (∀ thread, d.threads.focus? = some thread →
      (∃ e, TracesTo (thread.selectedFrame.getD 0) [e] d (currentFrame d).2) ∧
      ∀ line word args place, Text.words line = word :: args → word = "frame" ∨ word = "f" →
        args.head?.bind Text.uint64? = some place →
        ∃ new, TracesTo place new d ((CommandTable.builtin options).dispatch line d).2) ∧
    ∀ t ∈ d.threads.list, ∀ place, t.selectedFrame = some place →
      ∃ step ∈ history, step.move = .operate (.selectFrame t.id place) ∧
        ∃ frames, (stackTrace t.id (levelsFor place) step.before).1 = .ok frames ∧
          place.toNat < frames.length := by
  refine ⟨traces_selectFrame hsession hphase, fun thread hfocus => ⟨?_, ?_⟩,
    fun t ht place hplace => h.exists_selected ht hplace⟩
  · exact traces_currentFrame hsession hphase (activeThread_of_focus? hsession hphase hfocus)
  · exact fun line word args place hline hword hplace =>
      CommandTable.traces_dispatch options hsession hphase hfocus hline hword hplace

/-- A run it speaks of: the second frame is selected, and then the largest place is tried. -/
theorem levels_exact_iff_scripted :
    let run := Move.steps (Script.standing ++ [.operate (.selectFrame 1 1)]) []
      (Script.rehearse { frames := Script.usualFrames })
    let largest : UInt64 := 18446744073709551615
    (∃ e, TracesTo 1 [e] run.2 (currentFrame run.2).2 ∧ e.levels? = some 2) ∧
      (∃ e, TracesTo largest [e] run.2 (selectFrame 1 largest run.2).2 ∧ e.levels? = some 0) ∧
      ∃ new, TracesTo 1 new run.2 ((CommandTable.builtin {}).dispatch "f 1" run.2).2 := by
  intro run largest
  have hrun : Run run.1 run.2 := (Run.start _ _ _).steps _
  have hfocus : run.2.threads.focus? =
      some { id := 1, name := "main", running := false, selectedFrame := some 1 } := by
    decide +kernel
  obtain ⟨hselects, hlooks, -⟩ := hrun.levels_exact_iff {} (by decide +kernel) (by decide +kernel)
  obtain ⟨hcurrent, hcommand⟩ := hlooks _ hfocus
  obtain ⟨e, hshown⟩ := hcurrent
  obtain ⟨e₁, htried⟩ := hselects 1 largest
  refine ⟨⟨e, hshown, (hshown.exact_iff e List.mem_cons_self).2 (by decide)⟩, ⟨e₁, htried, ?_⟩,
    hcommand "f 1" "f" ["1"] 1 (by decide) (.inr rfl) (by decide)⟩
  exact (htried.levels e₁ List.mem_cons_self).trans (by decide)

/-- The right number of frames is not always asked for: for the largest place it is zero. -/
theorem levels_not_always_exact : ¬∀ (history : List (Step Script)) (d : Debugger Script),
    Run history d → d.session.isSome → d.phase.isStarted → ∀ threadId place,
      ∃ e, (selectFrame threadId place d).2.exchanges = e :: d.exchanges ∧
        e.levels? = some (place.toNat + 1 : Int) := by
  intro hexact
  let run := Move.steps Script.standing [] (Script.rehearse { frames := Script.usualFrames })
  have hrun : Run run.1 run.2 := (Run.start _ _ _).steps _
  obtain ⟨e, hexchanges, hlevels⟩ := hexact _ _ hrun (by decide +kernel) (by decide +kernel) 1
    18446744073709551615
  have hasked : (selectFrame 1 18446744073709551615 run.2).2.exchanges.head?.bind
      Exchange.levels? = some 0 := by decide +kernel
  rw [hexchanges] at hasked
  exact absurd (hlevels.symm.trans hasked) (by decide)

end Run
end DebugConsole
