/-
# All paths at once, or one after the other

`pushAllPaths` asks for the breakpoints of every path before it takes over the first answer;
`pushPath` takes over the answer for one path at once.  Where each path has its answer (`Replies`),
both come to the same: every enabled breakpoint of the paths that are taken over is described by the
descriptor at its place, and all others stay as they are (`Breakpoints.takeOver`).

| answers | all at once takes over | one after the other |
| --- | --- | --- |
| one descriptor for each breakpoint | all paths | the same, in any order |
| some path is refused | none | |
| none refused, some miscounted | the paths before the first miscounted one | the same for those |

Breakpoints of different paths have different numbers, so what is taken over for a path depends on
no other path, and the order of the paths does not matter.
-/

import DebugConsole.Proofs.Configuration
import Mathlib.Data.List.TakeWhile

namespace DebugConsole

open Protocol

variable {σ : Type}

/-- How an adapter answers when it is told of the breakpoints of a path. -/
abbrev Replies := String → Except Error Json

namespace Replies

/-- The descriptors in the answer for a path, or why there are none. -/
def descriptors (replies : Replies) (path : String) : Except Error (List Descriptor) :=
  (Call.setBreakpoints { source := .ofPath path }).result (replies path)

/-- Has the answer for a path one descriptor for each of its enabled breakpoints? -/
def fits (replies : Replies) (bs : Breakpoints) (path : String) : Bool :=
  (replies.descriptors path).toOption.any (·.length = (bs.enabledFor path).length)

/-- An answer fits where it is read as one descriptor for each enabled breakpoint. -/
theorem fits_iff {replies : Replies} {bs : Breakpoints} {path : String} :
    replies.fits bs path ↔ ∃ descriptors, replies.descriptors path = .ok descriptors ∧
      descriptors.length = (bs.enabledFor path).length := by
  unfold fits
  cases replies.descriptors path with
  | error e => exact iff_of_false Bool.false_ne_true fun ⟨_, heq, _⟩ => nomatch heq
  | ok descriptors => simp [Except.toOption]

end Replies

/-- Does a request replace the breakpoints of a path, by whatever lines? -/
def Request.IsPushOf (path : String) (asked : Request) : Prop := ∃ connection breakpoints,
  asked = (Call.setBreakpoints { source := .ofPath path, breakpoints }).on connection

/-- An environment in one of these states answers by the replies, whatever lines it is told of and
in whatever order, and is in one of them afterwards. -/
structure IsReplying [Environment σ] (replies : Replies) (holds : σ → Prop) : Prop where
  asked : ∀ {path : String} {asked : Request} {environment : σ}, asked.IsPushOf path →
    holds environment → (Environment.request asked environment).1.answer = replies path ∧
      holds (Environment.request asked environment).2
  posted : ∀ {path : String} {asked : Request} {environment : σ}, asked.IsPushOf path →
    holds environment →
      (∀ answer, (Environment.post asked environment).1.1 = some answer → answer = replies path) ∧
      holds (Environment.post asked environment).2
  awaited : ∀ {first : Request} {others : List Request} {environment : σ},
    (∀ asked ∈ first :: others, ∃ path, asked.IsPushOf path) → holds environment →
      (∀ path, ((first :: others).get (Environment.await first others environment).1.1).IsPushOf
        path → (Environment.await first others environment).1.2.answer = replies path) ∧
      holds (Environment.await first others environment).2

/-! ### What is taken over -/

namespace Breakpoint

/-- Takes over the first descriptor that is given for the number of a breakpoint. -/
def describeBy (entries : List (Nat × Descriptor)) (b : Breakpoint) : Breakpoint :=
  match entries.find? (·.1 = b.index) with
  | some entry => b.describe entry.2
  | none => b

/-- What an adapter says of a breakpoint is nothing the user has said. -/
theorem intent_describeBy (entries : List (Nat × Descriptor)) (b : Breakpoint) :
    (b.describeBy entries).intent = b.intent := by
  unfold describeBy
  split
  · exact intent_describe _ b
  · rfl

/-- Descriptors for different breakpoints are taken over one at a time. -/
theorem describeBy_cons {index : Nat} {descriptor : Descriptor} {rest : List (Nat × Descriptor)}
    (hnew : index ∉ rest.map (·.1)) (b : Breakpoint) :
    (if b.index = index then b.describe descriptor else b).describeBy rest =
      b.describeBy ((index, descriptor) :: rest) := by
  rw [describeBy, describeBy, List.find?_cons]
  by_cases heq : b.index = index
  · have hindex : (b.describe descriptor).index = index :=
      (congrArg (·.1) (b.intent_describe descriptor)).trans heq
    have hnone : rest.find? (·.1 = index) = none :=
      List.find?_eq_none.2 fun entry hentry hsame =>
        hnew (List.mem_map.2 ⟨entry, hentry, of_decide_eq_true hsame⟩)
    simp only [heq, if_true, hindex, hnone, decide_true]
  · simp only [heq, if_false, Ne.symm heq, decide_false]

end Breakpoint

namespace Breakpoints

variable {replies : Replies} {bs : Breakpoints}

/-- The enabled breakpoints of a path by number, with the descriptors at their places. -/
def entriesFor (bs : Breakpoints) (replies : Replies) (path : String) : List (Nat × Descriptor) :=
  ((bs.enabledFor path).map (·.index)).zip ((replies.descriptors path).toOption.getD [])

/-- The enabled breakpoints of these paths are described by the answers, all others stay as they
are. -/
def takeOver (replies : Replies) (paths : List String) (bs : Breakpoints) : Breakpoints :=
  { bs with list := bs.list.map fun b =>
      if b.enabled ∧ b.path ∈ paths then b.describeBy (bs.entriesFor replies b.path) else b }

/-- The order of the paths does not matter. -/
theorem takeOver_congr {paths others : List String} (h : ∀ path, path ∈ paths ↔ path ∈ others) :
    bs.takeOver replies paths = bs.takeOver replies others := by
  simp only [takeOver, h]

/-- Where no path was pushed nothing is taken over. -/
theorem takeOver_nil : bs.takeOver replies [] = bs := by
  simp only [takeOver, List.not_mem_nil, and_false, if_false, List.map_id']

namespace SameIntent

/-- Two lists of breakpoints that go back to one differ at most in the breakpoints themselves. -/
theorem eq_of_list_eq {bs₁ bs₂ : Breakpoints} (h₁ : SameIntent bs bs₁) (h₂ : SameIntent bs bs₂)
    (hlist : bs₁.list = bs₂.list) : bs₁ = bs₂ := by
  obtain ⟨-, hgroups₁, hlast₁⟩ := h₁
  obtain ⟨-, hgroups₂, hlast₂⟩ := h₂
  cases bs₁
  cases bs₂
  cases hlist
  cases hgroups₁.trans hgroups₂.symm
  cases hlast₁.trans hlast₂.symm
  rfl

/-- What is taken over from an adapter changes nothing that the user has said. -/
theorem takeOver (replies : Replies) (paths : List String) (bs : Breakpoints) :
    SameIntent bs (bs.takeOver replies paths) where
  intents := by
    rw [Breakpoints.takeOver, List.map_map]
    refine List.map_congr_left fun b _ => ?_
    rw [Function.comp_apply]
    split_ifs
    · exact b.intent_describeBy _
    · rfl
  groups := rfl
  lastIndex := rfl

/-- Which breakpoint a descriptor is for depends on what the user has said alone. -/
theorem entriesFor_eq {bs' : Breakpoints} (h : SameIntent bs bs') (hwf : bs.WellFormed)
    (path : String) : bs'.entriesFor replies path = bs.entriesFor replies path := by
  rw [entriesFor, entriesFor, h.map_index_enabledFor hwf]

/-- What is taken over does not change how many descriptors a path has to have. -/
theorem length_enabledFor {bs' : Breakpoints} (h : SameIntent bs bs') (hwf : bs.WellFormed)
    (path : String) : (bs'.enabledFor path).length = (bs.enabledFor path).length := by
  simpa using congrArg List.length (h.map_index_enabledFor hwf path)

/-- So does whether an answer fits. -/
theorem fits_eq {bs' : Breakpoints} (h : SameIntent bs bs') (hwf : bs.WellFormed)
    (path : String) : replies.fits bs' path = replies.fits bs path := by
  rw [Replies.fits, Replies.fits, h.length_enabledFor hwf]

end SameIntent

/-- What is taken over for a path depends on no other path. -/
theorem takeOver_takeOver (hwf : bs.WellFormed) {path : String} {paths : List String}
    (hnew : path ∉ paths) :
    (bs.takeOver replies [path]).takeOver replies paths = bs.takeOver replies (path :: paths) := by
  have hsame := SameIntent.takeOver replies [path] bs
  refine (hsame.trans (.takeOver ..)).eq_of_list_eq (.takeOver ..) ?_
  show (bs.takeOver replies [path]).list.map (fun b => if b.enabled ∧ b.path ∈ paths then
    b.describeBy ((bs.takeOver replies [path]).entriesFor replies b.path) else b) = _
  simp only [hsame.entriesFor_eq hwf]
  rw [takeOver, takeOver, List.map_map]
  refine List.map_congr_left fun b _ => ?_
  have hpath : (b.describeBy (bs.entriesFor replies b.path)).path = b.path :=
    congrArg (·.2.1) (b.intent_describeBy _)
  rw [Function.comp_apply]
  by_cases heq : b.path = path
  · by_cases henabled : b.enabled
    · rw [if_pos (show b.enabled ∧ b.path ∈ [path] by simp [henabled, heq]), hpath,
        if_neg fun h => hnew (heq ▸ h.2), if_pos (by simp [henabled, heq])]
    · simp only [henabled, false_and, if_false, Bool.false_eq_true]
  · rw [if_neg (show ¬(b.enabled ∧ b.path ∈ [path]) by simp [heq])]
    simp only [List.mem_cons, heq, false_or]

namespace WellFormed

/-- Descriptors by number describe the breakpoints with these numbers. -/
theorem list_describeAll (h : bs.WellFormed) {entries : List (Nat × Descriptor)}
    (hnodup : (entries.map (·.1)).Nodup) :
    (bs.describeAll entries).list = bs.list.map (·.describeBy entries) := by
  induction entries generalizing bs with
  | nil => exact (List.map_id' bs.list).symm
  | cons entry rest ih =>
    obtain ⟨hnew, hrest⟩ := List.nodup_cons.1 hnodup
    have hmodified : (bs.modify entry.1 (·.describe entry.2)).WellFormed :=
      (SameIntent.modify (Breakpoint.intent_describe entry.2) bs entry.1).wellFormed h
    rw [describeAll, ih hmodified hrest, h.list_modify, List.map_map]
    exact List.map_congr_left fun b _ => b.describeBy_cons hnew

/-- The breakpoints of a path have different numbers. -/
theorem nodup_index_enabledFor (h : bs.WellFormed) (path : String) :
    ((bs.enabledFor path).map (·.index)).Nodup := by
  rw [h.enabledFor_eq]
  exact List.pairwise_map.2 ((h.sorted.filter _).imp fun hlt => hlt.ne)

/-- The answer for a path says nothing of any other breakpoint. -/
theorem describeBy_of_not_isEnabledFor (h : bs.WellFormed) {b : Breakpoint} (hb : b ∈ bs.list)
    {path : String} (hother : isEnabledFor path b = false) (descriptors : List Descriptor) :
    b.describeBy (((bs.enabledFor path).map (·.index)).zip descriptors) = b := by
  have hnone : (((bs.enabledFor path).map (·.index)).zip descriptors).find? (·.1 = b.index) =
      none := by
    refine List.find?_eq_none.2 fun entry hentry hsame => ?_
    have hindex := (List.of_mem_zip hentry).1
    rw [of_decide_eq_true hsame, h.enabledFor_eq] at hindex
    obtain ⟨c, hc, heq⟩ := List.mem_map.1 hindex
    obtain ⟨hc, hfor⟩ := List.mem_filter.1 hc
    obtain rfl := eq_of_index_eq h.sorted hc hb heq
    exact Bool.false_ne_true (hother.symm.trans hfor)
  rw [Breakpoint.describeBy, hnone]

/-- A push of a path takes over an answer that fits. -/
theorem learn_eq (h : bs.WellFormed) {push : Push}
    (hlines : push.lines.length = (bs.enabledFor push.path).length)
    (hanswer : push.answer = replies.descriptors push.path)
    (hfits : replies.fits bs push.path) : bs.learn push = bs.takeOver replies [push.path] := by
  obtain ⟨descriptors, hdescriptors, hlength⟩ := Replies.fits_iff.1 hfits
  have haccepted : push.accepted? = some descriptors :=
    Push.accepted?_eq_some.2 ⟨hanswer.trans hdescriptors, hlength.trans hlines.symm⟩
  have hentries : bs.entriesFor replies push.path =
      ((bs.enabledFor push.path).map (·.index)).zip descriptors := by
    rw [entriesFor, hdescriptors]
    rfl
  have hnodup : ((bs.entriesFor replies push.path).map (·.1)).Nodup := by
    rw [hentries, List.map_fst_zip (by rw [List.length_map, hlength])]
    exact h.nodup_index_enabledFor push.path
  refine (SameIntent.learn bs push).eq_of_list_eq (.takeOver ..) ?_
  rw [learn, haccepted]
  dsimp only
  rw [← hentries, h.list_describeAll hnodup, takeOver]
  refine List.map_congr_left fun b hb => ?_
  cases hfor : isEnabledFor push.path b with
  | true =>
    obtain ⟨hpath, henabled⟩ : b.path = push.path ∧ b.enabled := by
      simpa [isEnabledFor] using hfor
    rw [if_pos ⟨henabled, by simp [hpath]⟩, hpath]
  | false =>
    have hout : ¬(b.enabled ∧ b.path ∈ [push.path]) := by
      rintro ⟨henabled, hpath⟩
      simp [isEnabledFor, henabled, List.mem_singleton.1 hpath] at hfor
    rw [if_neg hout, hentries, h.describeBy_of_not_isEnabledFor hb hfor]

/-- Pushes of different paths take over the answers for all of them. -/
theorem foldl_learn_eq (h : bs.WellFormed) {pushes : List Push}
    (hnodup : (pushes.map (·.path)).Nodup)
    (hlines : ∀ push ∈ pushes, push.lines.length = (bs.enabledFor push.path).length)
    (hanswers : ∀ push ∈ pushes, push.answer = replies.descriptors push.path)
    (hfits : ∀ push ∈ pushes, replies.fits bs push.path) :
    pushes.foldl learn bs = bs.takeOver replies (pushes.map (·.path)) := by
  induction pushes generalizing bs with
  | nil => exact takeOver_nil.symm
  | cons push rest ih =>
    obtain ⟨hnew, hrest⟩ := List.nodup_cons.1 hnodup
    obtain ⟨hline, hlines⟩ := List.forall_mem_cons.1 hlines
    obtain ⟨hanswer, hanswers⟩ := List.forall_mem_cons.1 hanswers
    obtain ⟨hfit, hfits⟩ := List.forall_mem_cons.1 hfits
    have hsame := SameIntent.takeOver replies [push.path] bs
    rw [List.foldl_cons, h.learn_eq hline hanswer hfit, List.map_cons, ← takeOver_takeOver h hnew]
    refine ih (hsame.wellFormed h) hrest (fun other hother => ?_) hanswers fun other hother => ?_
    · rw [hsame.length_enabledFor h, hlines other hother]
    · rw [hsame.fits_eq h, hfits other hother]

end WellFormed
end Breakpoints

namespace Debugger

/-- The push of a path that has its answer. -/
def pushOf (replies : Replies) (d : Debugger σ) (path : String) : Push where
  connection := d.generation
  path := path
  lines := (d.breakpoints.enabledFor path).map (·.line)
  answer := replies.descriptors path

/-- A push has one line for each enabled breakpoint of its path. -/
theorem length_lines_pushOf (replies : Replies) (d : Debugger σ) (path : String) :
    (d.pushOf replies path).lines.length = (d.breakpoints.enabledFor path).length := by
  rw [pushOf, List.length_map]

/-- Such a push is accepted just if the answer fits. -/
theorem isSome_accepted?_pushOf (replies : Replies) (d : Debugger σ) (path : String) :
    (d.pushOf replies path).accepted?.isSome = replies.fits d.breakpoints path := by
  rw [Bool.eq_iff_iff, Option.isSome_iff_exists, Replies.fits_iff]
  refine exists_congr fun descriptors => ?_
  rw [Push.accepted?_eq_some, length_lines_pushOf]
  rfl

/-- No path is pushed twice. -/
theorem nodup_enabledPaths {d : Debugger σ} (hwf : d.breakpoints.WellFormed) :
    d.enabledPaths.Nodup := by
  refine (enabledPaths_spec hwf).1.imp fun hlt => ?_
  rintro rfl
  exact List.lt_irrefl _ hlt

/-- Pushes of paths whose answers fit take all of them over. -/
theorem foldl_learn_pushOf {replies : Replies} {d : Debugger σ} (hwf : d.breakpoints.WellFormed)
    {paths : List String} (hnodup : paths.Nodup)
    (hfits : ∀ path ∈ paths, replies.fits d.breakpoints path) :
    (paths.map (d.pushOf replies)).foldl Breakpoints.learn d.breakpoints =
      d.breakpoints.takeOver replies paths := by
  have hpaths : (paths.map (d.pushOf replies)).map (·.path) = paths := by
    rw [List.map_map]
    exact List.map_id' paths
  have hlearned := hwf.foldl_learn_eq (hpaths.symm ▸ hnodup)
    (List.forall_mem_map.2 fun path _ => d.length_lines_pushOf replies path)
    (List.forall_mem_map.2 fun _ _ => rfl) (List.forall_mem_map.2 hfits)
  rwa [hpaths] at hlearned

end Debugger

/-! ### Pushing -/

open Debugger

variable [Environment σ]

/-- The breakpoints are what they were, and the environment goes on replying. -/
structure Debugger.Awaits (holds : σ → Prop) (d d' : Debugger σ) : Prop where
  breakpoints : d'.breakpoints = d.breakpoints
  environment : holds d'.environment

namespace IsReplying

variable {replies : Replies} {holds : σ → Prop} {d : Debugger σ}

/-- A path that is pushed by itself has its answer. -/
theorem send (h : IsReplying replies holds) (hd : holds d.environment) (bs : Breakpoints)
    (path : String) :
    (Action.send (Call.setBreakpoints (bs.argumentsFor path)) d).1 = replies.descriptors path ∧
      Awaits holds d (Action.send (Call.setBreakpoints (bs.argumentsFor path)) d).2 := by
  have hpush : ((Call.setBreakpoints (bs.argumentsFor path)).on d.generation).IsPushOf path :=
    ⟨_, _, rfl⟩
  obtain ⟨hanswer, hholds⟩ := h.asked hpush hd
  exact ⟨congrArg (Call.setBreakpoints (bs.argumentsFor path)).result hanswer, rfl, hholds⟩

/-- Whatever is asked on the way, paths that are pushed together have their answers. -/
theorem keeps (h : IsReplying replies holds) (d : Debugger σ) (paths : List String) :
    Action.Keeps d.generation (paths.map fun path =>
        Call.setBreakpoints (d.breakpoints.argumentsFor path)) (Awaits holds d)
      fun asked answer => ∀ path, asked.IsPushOf path → answer = replies path where
  post call hcall d' hd' := by
    obtain ⟨path, -, rfl⟩ := List.mem_map.1 hcall
    have hpush : ((Call.setBreakpoints (d.breakpoints.argumentsFor path)).on
      d.generation).IsPushOf path := ⟨_, _, rfl⟩
    exact ⟨⟨hd'.breakpoints, (h.posted hpush hd'.environment).2⟩, fun answer hanswer path hpath =>
      (h.posted hpath hd'.environment).1 answer hanswer⟩
  await first others hrequests d' hd' := by
    have hpushes : ∀ asked ∈ first :: others, ∃ path, asked.IsPushOf path := fun asked hasked => by
      obtain ⟨call, hcall, rfl⟩ := hrequests asked hasked
      obtain ⟨path, -, rfl⟩ := List.mem_map.1 hcall
      exact ⟨path, _, _, rfl⟩
    obtain ⟨hanswer, hholds⟩ := h.awaited hpushes hd'.environment
    exact ⟨⟨hd'.breakpoints, hholds⟩, hanswer⟩

omit [Environment σ] in
/-- Pushes that were all answered by the replies have their descriptors. -/
theorem map_descriptors_eq {bs : Breakpoints} {connection : Nat} {paths : List String}
    {asked : List Exchange} {answers : List (List Descriptor)}
    (h : Answered connection (paths.map fun path => Call.setBreakpoints (bs.argumentsFor path))
      asked answers)
    (hgiven : ∀ request answer, .request request answer ∈ asked →
      ∀ path, request.IsPushOf path → answer = replies path) :
    paths.map replies.descriptors = answers.map .ok := by
  induction paths generalizing asked answers with
  | nil => cases h with | nil => rfl
  | cons path rest ih =>
    cases h with
    | @cons _ answer value _ exchanges values success others =>
      have hanswer : answer = replies path :=
        hgiven _ answer List.mem_cons_self path ⟨_, _, rfl⟩
      subst hanswer
      have hfirst : replies.descriptors path = .ok value := success
      rw [List.map_cons, List.map_cons, hfirst, ih others fun request answer hmem =>
        hgiven request answer (List.mem_cons_of_mem _ hmem)]

/-- All paths are asked about before the first answer is taken over: one of them is refused, or all
are answered. -/
theorem pushAllPaths_cases (h : IsReplying replies holds) (hd : holds d.environment) :
    ∃ d₁, Awaits holds d d₁ ∧
      ((∃ e, ∃ path ∈ d.enabledPaths, replies.descriptors path = .error e ∧
        pushAllPaths d = (.error e, d₁)) ∨
      ∃ answers, d.enabledPaths.map replies.descriptors = answers.map .ok ∧
        pushAllPaths d = reconcileAll ((d.breakpoints.enabledByPath.map fun group =>
          (group.1, group.2.map (·.index))).zip answers) d₁) := by
  obtain ⟨d₁, asked, result, hkept, htogether, hgiven, heq⟩ :=
    Action.sendAll_spec (h.keeps d d.enabledPaths) ⟨rfl, hd⟩
  refine ⟨{ d₁ with exchanges := asked.reverse ++ d₁.exchanges },
    ⟨hkept.breakpoints, hkept.environment⟩, ?_⟩
  simp only [pushAllPaths, Action.bind_apply, Action.get_apply]
  rw [map_setBreakpoints_enabledByPath, ← enabledPaths, heq]
  generalize hmade : (d.enabledPaths.map fun path =>
    Call.setBreakpoints (d.breakpoints.argumentsFor path)) = calls at htogether
  cases htogether with
  | answered all =>
    subst hmade
    exact .inr ⟨_, map_descriptors_eq all hgiven, rfl⟩
  | @failed _ _ _ call _ _ answer e failure spared others last =>
    have hmem : call ∈ d.enabledPaths.map fun path =>
        Call.setBreakpoints (d.breakpoints.argumentsFor path) := by
      rw [hmade]
      simp
    obtain ⟨path, hpath, rfl⟩ := List.mem_map.1 hmem
    have hanswer : answer = replies path := hgiven _ answer
      (List.mem_append_right _ List.mem_cons_self) path ⟨_, _, rfl⟩
    subst hanswer
    exact .inl ⟨e, path, hpath, failure, rfl⟩

/-- A path whose answer fits is taken over. -/
theorem pushPath_of_fits (h : IsReplying replies holds) (hwf : d.breakpoints.WellFormed)
    (hd : holds d.environment) {path : String} (hfits : replies.fits d.breakpoints path) :
    (pushPath path d).1 = .ok () ∧
      (pushPath path d).2.breakpoints = d.breakpoints.takeOver replies [path] ∧
      holds (pushPath path d).2.environment := by
  obtain ⟨hanswer, hsent⟩ := h.send hd d.breakpoints path
  obtain ⟨descriptors, hdescriptors, -⟩ := Replies.fits_iff.1 hfits
  have haccepted := d.isSome_accepted?_pushOf replies path
  have hlines := d.length_lines_pushOf replies path
  -- what is taken over is what is learned of the answer that fits
  have hlearn := reconcile_learn (show (d.pushOf replies path).answer = _ from hdescriptors) hlines
  simp only [pushPath, Action.bind_apply, Action.get_apply]
  rcases hsend : Action.send (Call.setBreakpoints (d.breakpoints.argumentsFor path)) d with
    ⟨answer, d₁⟩
  rw [hsend] at hanswer hsent
  obtain rfl : answer = .ok descriptors := hanswer.trans hdescriptors
  simp only [reconcile_apply]
  rw [hsent.breakpoints]
  rw [show (d.pushOf replies path).path = path from rfl] at hlearn
  cases hreconcile : d.breakpoints.reconcile path ((d.breakpoints.enabledFor path).map (·.index))
      descriptors with
  | error e =>
    rw [hreconcile] at hlearn
    rw [hlearn, hfits] at haccepted
    cases haccepted
  | ok breakpoints =>
    rw [hreconcile] at hlearn
    exact ⟨rfl, hlearn.2.trans (hwf.learn_eq hlines rfl hfits), hsent.environment⟩

/-- **One after the other**, all paths whose answers fit are taken over. -/
theorem forM_pushPath_of_fits (h : IsReplying replies holds) (hwf : d.breakpoints.WellFormed)
    (hd : holds d.environment) {paths : List String} (hnodup : paths.Nodup)
    (hfits : ∀ path ∈ paths, replies.fits d.breakpoints path) :
    (paths.forM pushPath d).1 = .ok () ∧
      (paths.forM pushPath d).2.breakpoints = d.breakpoints.takeOver replies paths := by
  induction paths generalizing d with
  | nil => exact ⟨rfl, Breakpoints.takeOver_nil.symm⟩
  | cons path rest ih =>
    obtain ⟨hnew, hrest⟩ := List.nodup_cons.1 hnodup
    obtain ⟨hfit, hothers⟩ := List.forall_mem_cons.1 hfits
    obtain ⟨hresult, hbreakpoints, hholds⟩ := h.pushPath_of_fits hwf hd hfit
    have hsame := Breakpoints.SameIntent.takeOver replies [path] d.breakpoints
    rw [← Breakpoints.takeOver_takeOver hwf hnew, List.forM, Action.bind_apply]
    rw [← hbreakpoints] at hsame ⊢
    rcases hpush : pushPath path d with ⟨e | _, d₁⟩ <;> rw [hpush] at hresult hholds hsame
    · cases hresult
    · refine ih (hsame.wellFormed hwf) hholds hrest fun other hother => ?_
      rw [hsame.fits_eq hwf, hothers other hother]

/-- **All at once**, where every path is answered, those before the first miscounted one are taken
over. -/
theorem pushAllPaths_of_answered (h : IsReplying replies holds) (hwf : d.breakpoints.WellFormed)
    (hd : holds d.environment)
    (hanswered : ∀ path ∈ d.enabledPaths, (replies.descriptors path).isOk) :
    (pushAllPaths d).2.breakpoints = d.breakpoints.takeOver replies
        (d.enabledPaths.takeWhile (replies.fits d.breakpoints)) ∧
      ((pushAllPaths d).1 = .ok () ↔
        ∀ path ∈ d.enabledPaths, replies.fits d.breakpoints path) := by
  obtain ⟨d₁, hkept, ⟨e, path, hpath, he, -⟩ | ⟨answers, hanswers, heq⟩⟩ := h.pushAllPaths_cases hd
  · have hok := hanswered path hpath
    rw [he] at hok
    cases hok
  -- the pushes are known: each path with the answer that it is given
  let pushed := d.enabledPaths.map (d.pushOf replies)
  have hpaths : pushed.map (·.path) = d.breakpoints.enabledByPath.map (·.1) := by
    rw [List.map_map]
    exact List.map_id' d.enabledPaths
  have hreplies : pushed.map (·.answer) = answers.map .ok := by
    rw [← hanswers, List.map_map]
    rfl
  have hlines : ∀ push ∈ pushed,
      push.lines.length = (d.breakpoints.enabledFor push.path).length :=
    List.forall_mem_map.2 fun path _ => d.length_lines_pushOf replies path
  have hentries := forall₂_isEntry_enabledByPath hpaths hreplies hlines
  have hwf₁ : d₁.breakpoints.WellFormed := hkept.breakpoints ▸ hwf
  rw [← hkept.breakpoints] at hentries
  obtain ⟨hstate, hresult⟩ := reconcileAll_spec hwf₁ hentries
  rw [hkept.breakpoints] at hstate hresult
  -- an answer is accepted just if it fits the list as it was before the batch
  have htaken : pushed.takeWhile (·.accepted?.isSome) =
      (d.enabledPaths.takeWhile (replies.fits d.breakpoints)).map (d.pushOf replies) := by
    rw [List.takeWhile_map]
    congr 2
    funext path
    exact d.isSome_accepted?_pushOf replies path
  have hnodup := nodup_enabledPaths hwf
  rw [heq]
  refine ⟨?_, hresult.trans ?_⟩
  · rw [hstate]
    dsimp only
    rw [htaken]
    exact foldl_learn_pushOf hwf (hnodup.sublist (List.takeWhile_sublist _))
      (List.all_eq_true.1 List.all_takeWhile)
  · rw [List.forall_mem_map]
    exact forall₂_congr fun path _ => by rw [isSome_accepted?_pushOf]

/-- All at once, where some path is refused nothing is taken over. -/
theorem pushAllPaths_of_refused (h : IsReplying replies holds) (hd : holds d.environment)
    {path : String} (hpath : path ∈ d.enabledPaths)
    (hrefused : (replies.descriptors path).isOk = false) :
    (pushAllPaths d).1.isOk = false ∧ (pushAllPaths d).2.breakpoints = d.breakpoints := by
  obtain ⟨d₁, hkept, ⟨e, -, -, -, heq⟩ | ⟨answers, hanswers, -⟩⟩ := h.pushAllPaths_cases hd
  · rw [heq]
    exact ⟨rfl, hkept.breakpoints⟩
  · have hanswer : replies.descriptors path ∈ answers.map .ok :=
      hanswers ▸ List.mem_map_of_mem hpath
    obtain ⟨descriptors, -, hok⟩ := List.mem_map.1 hanswer
    rw [← hok] at hrefused
    cases hrefused

end IsReplying

/-- What pushing all paths at once comes to, against pushing them one after the other. -/
structure Debugger.PushesAlike (replies : Replies) (d : Debugger σ) : Prop where
  /-- Pushed are the paths with enabled breakpoints, in the order of their bytes. -/
  ordered : d.enabledPaths.Pairwise (fun p q => Utf8.encode p < Utf8.encode q) ∧
    ∀ path, path ∈ d.enabledPaths ↔ ∃ b ∈ d.breakpoints.list, b.path = path ∧ b.enabled
  /-- Where every answer fits, all of them are taken over, and pushing the paths one after the
  other, in any order, comes to the same. -/
  accepted : (∀ path ∈ d.enabledPaths, replies.fits d.breakpoints path) →
    (pushAllPaths d).1 = .ok () ∧
      (pushAllPaths d).2.breakpoints = d.breakpoints.takeOver replies d.enabledPaths ∧
      ∀ paths : List String, paths.Perm d.enabledPaths → (paths.forM pushPath d).1 = .ok () ∧
        (paths.forM pushPath d).2.breakpoints = (pushAllPaths d).2.breakpoints
  /-- Where some path is refused, the breakpoints are what they were. -/
  refused : (∃ path ∈ d.enabledPaths, (replies.descriptors path).isOk = false) →
    (pushAllPaths d).1.isOk = false ∧ (pushAllPaths d).2.breakpoints = d.breakpoints
  /-- Where none is refused but some are miscounted, just the paths before the first miscounted one
  are taken over, and pushing those one after the other, in any order, comes to the same. -/
  miscounted : (∀ path ∈ d.enabledPaths, (replies.descriptors path).isOk) →
    ∀ before wrong after, d.enabledPaths = before ++ wrong :: after →
      (∀ path ∈ before, replies.fits d.breakpoints path) →
      replies.fits d.breakpoints wrong = false →
      (pushAllPaths d).1.isOk = false ∧
        (pushAllPaths d).2.breakpoints = d.breakpoints.takeOver replies before ∧
        ∀ paths : List String, paths.Perm before → (paths.forM pushPath d).1 = .ok () ∧
          (paths.forM pushPath d).2.breakpoints = (pushAllPaths d).2.breakpoints

/-- **All at once is as good as one after the other**, for all breakpoints and all answers. -/
theorem Debugger.pushes_alike {replies : Replies} {holds : σ → Prop}
    (h : IsReplying replies holds) {d : Debugger σ} (hwf : d.breakpoints.WellFormed)
    (hd : holds d.environment) : d.PushesAlike replies := by
  have hnodup := nodup_enabledPaths hwf
  -- one after the other, the order does not matter
  have hperm {paths others : List String} (hothers : others.Nodup)
      (hfits : ∀ path ∈ others, replies.fits d.breakpoints path) (hsame : paths.Perm others) :
      (paths.forM pushPath d).1 = .ok () ∧
        (paths.forM pushPath d).2.breakpoints = d.breakpoints.takeOver replies others := by
    rw [← Breakpoints.takeOver_congr fun path => hsame.mem_iff]
    exact h.forM_pushPath_of_fits hwf hd (hsame.nodup_iff.2 hothers) fun path hpath =>
      hfits path (hsame.mem_iff.1 hpath)
  refine ⟨enabledPaths_spec hwf, fun hfits => ?_, fun ⟨path, hpath, hrefused⟩ => ?_,
    fun hanswered before wrong after hpaths hbefore hwrong => ?_⟩
  · have hanswered : ∀ path ∈ d.enabledPaths, (replies.descriptors path).isOk := by
      intro path hpath
      obtain ⟨descriptors, hdescriptors, -⟩ := Replies.fits_iff.1 (hfits path hpath)
      rw [hdescriptors]
      rfl
    obtain ⟨hbreakpoints, hresult⟩ := h.pushAllPaths_of_answered hwf hd hanswered
    rw [List.takeWhile_eq_self_iff.2 hfits] at hbreakpoints
    refine ⟨hresult.2 hfits, hbreakpoints, fun paths hsame => ?_⟩
    rw [hbreakpoints]
    exact hperm hnodup hfits hsame
  · exact h.pushAllPaths_of_refused hd hpath hrefused
  · obtain ⟨hbreakpoints, hresult⟩ := h.pushAllPaths_of_answered hwf hd hanswered
    have hfails : (pushAllPaths d).1.isOk = false := by
      refine Bool.eq_false_iff.2 fun hok => ?_
      have hdone : (pushAllPaths d).1 = .ok () := by
        cases hrun : (pushAllPaths d).1 with
        | ok _ => rfl
        | error e => rw [hrun] at hok; cases hok
      have hfits := hresult.1 hdone wrong (by rw [hpaths]; simp)
      rw [hwrong] at hfits
      cases hfits
    rw [hpaths, List.takeWhile_append_of_pos hbefore, List.takeWhile_cons_of_neg (by simp [hwrong]),
      List.append_nil] at hbreakpoints
    refine ⟨hfails, hbreakpoints, fun paths hsame => ?_⟩
    rw [hbreakpoints]
    have hsub : before.Sublist d.enabledPaths := hpaths ▸ List.sublist_append_left _ _
    exact hperm (hnodup.sublist hsub) hbefore hsame

/-- A scripted adapter without a script for them gives its usual answer for all breakpoints. -/
theorem Script.answers_single {body : Json} {path : String} {asked : Request} {script : Script}
    (hpush : asked.IsPushOf path)
    (h : script.entries = [] ∧ script.usual = [("setBreakpoints", body)]) :
    (Environment.request asked script).1.answer = .ok body ∧
      (Environment.request asked script).2.entries = [] ∧
      (Environment.request asked script).2.usual = [("setBreakpoints", body)] := by
  obtain ⟨connection, breakpoints, rfl⟩ := hpush
  obtain ⟨entries, usual, _, _, _, _⟩ := script
  obtain ⟨rfl, rfl⟩ := h
  exact ⟨rfl, rfl, rfl⟩

/-- A scripted adapter that has one answer for all breakpoints. -/
theorem Script.isReplying (body : Json) : IsReplying (fun _ => .ok body) fun script : Script =>
    script.entries = [] ∧ script.usual = [("setBreakpoints", body)] where
  asked := Script.answers_single
  posted hpush h := by
    obtain ⟨hanswer, hholds⟩ := answers_single hpush h
    exact ⟨fun answer heq => (Option.some.inj heq).symm.trans hanswer, hholds⟩
  awaited hpushes h := by
    obtain ⟨path, hpush⟩ := hpushes _ List.mem_cons_self
    obtain ⟨hanswer, hholds⟩ := answers_single hpush h
    exact ⟨fun _ _ => hanswer, hholds⟩

/-- The answer of an adapter that verifies one breakpoint, however many there are. -/
def Script.single : Json :=
  Json.object [("breakpoints", .arr [Json.object [("id", .int 7), ("verified", true)]])]

/-- Pushes it speaks of: one path has one breakpoint, the other one has two. -/
theorem Debugger.pushes_alike_scripted :
    let breakpoints := ((({} : Breakpoints).add "b.c" 3).add "a.c" 1).add "b.c" 5
    let d : Debugger Script :=
      { environment := { usual := [("setBreakpoints", Script.single)] }, breakpoints }
    let replies : Replies := fun _ => .ok Script.single
    d.enabledPaths = ["a.c", "b.c"] ∧
      d.enabledPaths.map (replies.fits breakpoints) = [true, false] ∧
      (pushAllPaths d).2.breakpoints.list.map (·.verified) = [false, true, false] ∧
      d.PushesAlike replies := by
  intro breakpoints d replies
  have hwf : breakpoints.WellFormed :=
    ((Breakpoints.wellFormed_empty.add "b.c" 3).add "a.c" 1).add "b.c" 5
  exact ⟨by decide +kernel, by decide +kernel, by decide +kernel,
    pushes_alike (Script.isReplying Script.single) hwf ⟨rfl, rfl⟩⟩

end DebugConsole
