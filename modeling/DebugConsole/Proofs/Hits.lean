/-
# The simulated program hits every line once

While it is configured, a simulated adapter notes for each path the lines that were set last.  With
the end of the configuration they all lie ahead, and each time the program is resumed it goes on to
the next one:

| request | lines ahead | where the program stands |
| --- | --- | --- |
| `configurationDone` | those that were set last; a launched program is resumed | as resumed |
| `continue` | the program is resumed | as resumed |
| `next`, `stepIn` | stay | one line further |
| any other, `setBreakpoints` too | stay | stays |

So the program meets the lines of the plan one by one, in the order of their paths and within a path
as they were set, and is over when none is left (`hits_in_order`).
-/

import DebugConsole.Proofs.Answers
import DebugConsole.Proofs.Interchange
import DebugConsole.Proofs.Utf8
import Mathlib.Data.List.Dedup
import Mathlib.Data.List.ReduceOption
import Mathlib.Data.List.Sort

namespace DebugConsole
namespace Simulation

/-! ### The plan -/

/-- What was set last for a path. -/
def lastSetting? (path : String) (messages : List Json) : Option (String × List Nat) :=
  (messages.filterMap setting?).reverse.find? (·.1 = path)

/-- The paths for which lines were set, each one once, in the order of their bytes. -/
def paths (messages : List Json) : List String :=
  ((messages.filterMap setting?).map (·.1)).dedup.insertionSort
    fun p q => Utf8.encode p ≤ Utf8.encode q

/-- The lines that were set last, path by path. -/
def plan (messages : List Json) : List Location :=
  (paths messages).flatMap fun path =>
    (((lastSetting? path messages).map (·.2)).getD []).map (path, ·)

/-- Was the program attached to rather than launched, as far as the last of these requests says? -/
def isAttached (messages : List Json) : Bool :=
  (messages.filterMap command?).reverse.find? (["launch", "attach"].contains ·) = some "attach"

/-- Lines are set for one path, and those of the others stay. -/
theorem mem_setLines {path : String} {lines : List Nat} {breakpoints : List (String × List Nat)}
    (h : breakpoints.Pairwise (·.1 < ·.1)) {entry : String × List Nat} :
    entry ∈ setLines path lines breakpoints ↔
      entry = (path, lines) ∨ entry ∈ breakpoints ∧ entry.1 ≠ path := by
  induction breakpoints with
  | nil => simp [setLines]
  | cons first rest ih =>
    obtain ⟨hfirst, hrest⟩ := List.pairwise_cons.1 h
    have hother (hle : path ≤ first.1) : ∀ entry ∈ rest, entry.1 ≠ path := fun entry hmem =>
      (lt_of_le_of_lt hle (hfirst entry hmem)).ne'
    unfold setLines
    split_ifs with hlt heq
    · have hne : first.1 ≠ path := hlt.ne'
      have := hother hlt.le
      grind
    · have := hother heq.le
      grind
    · grind

/-- Paths stay in their order when lines are set. -/
theorem pairwise_setLines {path : String} {lines : List Nat}
    {breakpoints : List (String × List Nat)} (h : breakpoints.Pairwise (·.1 < ·.1)) :
    (setLines path lines breakpoints).Pairwise (·.1 < ·.1) := by
  induction breakpoints with
  | nil => exact List.pairwise_singleton ..
  | cons first rest ih =>
    obtain ⟨hfirst, hrest⟩ := List.pairwise_cons.1 h
    unfold setLines
    split_ifs with hlt heq
    · exact h.cons (List.forall_mem_cons.2 ⟨hlt, fun entry hmem => hlt.trans (hfirst entry hmem)⟩)
    · exact hrest.cons fun entry hmem => heq ▸ hfirst entry hmem
    · refine (ih hrest).cons fun entry hmem => ?_
      rcases (mem_setLines hrest).1 hmem with rfl | ⟨hmem, -⟩
      · exact lt_of_le_of_ne (not_lt.1 hlt) (Ne.symm heq)
      · exact hfirst entry hmem

/-- The last message counts, if it sets lines of the path. -/
theorem lastSetting?_append (path : String) (messages : List Json) (message : Json) :
    lastSetting? path (messages ++ [message]) =
      ((setting? message).filter (·.1 = path)).or (lastSetting? path messages) := by
  rw [lastSetting?, List.filterMap_append, List.reverse_append, List.find?_append]
  cases h : setting? message with
  | none => rw [List.filterMap_cons_none h]; rfl
  | some set =>
    rw [List.filterMap_cons_some h, Option.filter_some]
    cases hpath : decide (set.1 = path) <;> simp [hpath, lastSetting?]

/-- Lines were set for the paths of the plan. -/
theorem mem_paths_iff (path : String) (messages : List Json) :
    path ∈ paths messages ↔ (lastSetting? path messages).isSome := by
  simp [paths, lastSetting?]

/-- What is noted for the paths is what some messages have set last. -/
structure Tracks (messages : List Json) (breakpoints : List (String × List Nat)) : Prop where
  sorted : breakpoints.Pairwise (·.1 < ·.1)
  mem_iff : ∀ entry, entry ∈ breakpoints ↔ lastSetting? entry.1 messages = some entry

/-- Nothing but the lines of one path change with a message. -/
theorem tracks_after (messages : List Json) : Tracks messages (after messages {}).breakpoints := by
  induction messages using List.reverseRecOn with
  | nil => exact ⟨.nil, fun _ => ⟨nofun, nofun⟩⟩
  | append_singleton messages message ih =>
    rw [after_append, breakpoints_next]
    cases h : setting? message with
    | none =>
      refine ⟨ih.sorted, fun entry => (ih.mem_iff entry).trans ?_⟩
      rw [lastSetting?_append, h]
      rfl
    | some set =>
      refine ⟨pairwise_setLines ih.sorted, fun entry => (mem_setLines ih.sorted).trans ?_⟩
      rw [lastSetting?_append, h, ih.mem_iff, Option.filter_some, Option.or_eq_some_iff]
      by_cases hpath : set.1 = entry.1
      · obtain ⟨path, lines⟩ := set
        obtain rfl : path = entry.1 := hpath
        simp [Prod.ext_iff, eq_comm]
      · have hne : entry ≠ set := fun heq => hpath (heq ▸ rfl)
        simp [hpath, hne, Ne.symm hpath]

/-- The paths with lines are those that some message has set. -/
theorem Tracks.map_fst {messages : List Json} {breakpoints : List (String × List Nat)}
    (h : Tracks messages breakpoints) : breakpoints.map (·.1) = paths messages := by
  have hkeys : (breakpoints.map (·.1)).Pairwise (· < ·) := List.pairwise_map.2 h.sorted
  have hmem (path : String) : path ∈ breakpoints.map (·.1) ↔ path ∈ paths messages := by
    rw [mem_paths_iff, Option.isSome_iff_exists, List.mem_map]
    constructor
    · rintro ⟨entry, hentry, rfl⟩
      exact ⟨entry, (h.mem_iff entry).1 hentry⟩
    · rintro ⟨entry, hentry⟩
      have hpath : entry.1 = path := by simpa using List.find?_some hentry
      exact ⟨entry, (h.mem_iff entry).2 (hpath ▸ hentry), hpath⟩
  have hnodup : (paths messages).Nodup :=
    (List.perm_insertionSort ..).nodup_iff.2 (List.nodup_dedup _)
  have : Std.Total fun p q : String => Utf8.encode p ≤ Utf8.encode q :=
    ⟨fun _ _ => List.le_total _ _⟩
  have : IsTrans String fun p q => Utf8.encode p ≤ Utf8.encode q :=
    ⟨fun _ _ _ => List.le_trans⟩
  refine List.Perm.eq_of_pairwise (fun p q _ _ hpq hqp => ?_)
    (hkeys.imp fun hlt => List.le_of_lt (Utf8.encode_lt_encode hlt))
    (List.pairwise_insertionSort ..)
    ((List.perm_ext_iff_of_nodup (hkeys.imp ne_of_lt) hnodup).2 hmem)
  exact le_antisymm (not_lt.1 fun hlt => List.not_lt.2 hpq (Utf8.encode_lt_encode hlt))
    (not_lt.1 fun hlt => List.not_lt.2 hqp (Utf8.encode_lt_encode hlt))

/-- The lines are met in the order of the plan. -/
theorem Tracks.hits_eq {messages : List Json} {breakpoints : List (String × List Nat)}
    (h : Tracks messages breakpoints) : hits breakpoints = plan messages := by
  rw [plan, ← h.map_fst, List.flatMap_map]
  refine List.flatMap_congr fun entry hentry => ?_
  rw [(h.mem_iff entry).1 hentry]
  rfl

/-- The adapter knows whether it was attached last. -/
theorem attached_after (messages : List Json) :
    (after messages {}).attached = isAttached messages := by
  induction messages using List.reverseRecOn with
  | nil => rfl
  | append_singleton messages message ih =>
    rw [after_append, (effect_next message _).attached, ih, isAttached, isAttached,
      List.filterMap_append, List.reverse_append, List.find?_append]
    cases h : command? message with
    | none => rw [List.filterMap_cons_none h]; rfl
    | some command =>
      rw [List.filterMap_cons_some h]
      by_cases hlaunch : command = "launch"
      · subst hlaunch
        rfl
      by_cases hattach : command = "attach"
      · subst hattach
        rfl
      simp [hlaunch, hattach]

/-! ### Resumptions -/

/-- Is the program resumed with a message, attached to or not? -/
def resumes (attached : Bool) (message : Json) : Bool :=
  command? message = some "continue" ||
    command? message = some "configurationDone" && !attached

/-- The end of the configuration and what follows it, up to the next one. -/
def IsConfigured : List Json → Prop
  | [] => False
  | done :: later => command? done = some "configurationDone" ∧
      ∀ message ∈ later, command? message ≠ some "configurationDone"

/-- What follows the end of a configuration goes on without another one. -/
theorem IsConfigured.of_append {done message : Json} {later : List Json}
    (h : IsConfigured (done :: later ++ [message])) :
    IsConfigured (done :: later) ∧ command? message ≠ some "configurationDone" :=
  ⟨⟨h.1, fun message hmem => h.2 message (List.mem_append_left _ hmem)⟩,
    h.2 message (List.mem_append_right _ List.mem_cons_self)⟩

/-- With each resumption one line less lies ahead. -/
theorem ahead_after {session : List Json} (h : IsConfigured session) (s : Simulation) :
    (after session s).ahead =
      (hits s.breakpoints).drop (session.countP (resumes s.attached)) := by
  induction session using List.reverseRecOn with
  | nil => exact h.elim
  | append_singleton earlier message ih =>
    rw [after_append, (effect_next message _).ahead, List.countP_append, List.countP_singleton]
    cases earlier with
    | nil =>
      have hdone : command? message = some "configurationDone" := h.1
      rw [if_pos hdone, resumes, hdone]
      cases hattached : s.attached <;> simp [after, hattached]
    | cons done later =>
      obtain ⟨hbefore, hother⟩ := h.of_append
      rw [if_neg hother, ih hbefore, resumes, decide_eq_false hother]
      by_cases hcontinue : command? message = some "continue" <;> simp [hcontinue]

/-- The lines that lie ahead when the program is resumed with a message. -/
def aheadFor (message : Json) (s : Simulation) : List Location :=
  if command? message = some "configurationDone" then hits s.breakpoints else s.ahead

/-- Only the end of the configuration depends on whether the program was attached to. -/
theorem aheadFor_after {earlier : List Json} {message : Json} {s : Simulation}
    (hsession : IsConfigured (earlier ++ [message])) (h : resumes s.attached message) :
    resumes (after earlier s).attached message ∧ aheadFor message (after earlier s) =
      (hits s.breakpoints).drop (earlier.countP (resumes s.attached)) := by
  cases earlier with
  | nil => exact ⟨h, if_pos hsession.1⟩
  | cons done later =>
    obtain ⟨hbefore, hother⟩ := hsession.of_append
    rw [resumes, decide_eq_false hother] at h ⊢
    exact ⟨h, (if_neg hother).trans (ahead_after hbefore s)⟩

/-- The events of a resumption that comes to a line, or to the end. -/
def resumption (message : Json) (hit? : Option Location) : List String :=
  (if command? message = some "continue" then ["continued"] else []) ++ outcome hit?

/-- A resumption leads to the next line ahead. -/
theorem resumption_spec {message : Json} {s : Simulation} (h : resumes s.attached message) :
    (next message s).location = (aheadFor message s).head? ∧
      List.Forall₂ IsEvent (resumption message (aheadFor message s).head?)
        (answers message s).tail := by
  rw [resumes, Bool.or_eq_true, Bool.and_eq_true, decide_eq_true_iff, decide_eq_true_iff,
    Bool.not_eq_true'] at h
  rcases h with hcontinue | ⟨hdone, hlaunched⟩
  · obtain ⟨seq, heq, hevents⟩ := perform_continue (argumentsOf message) s
    rw [next, answers, respond_of_command hcontinue, aheadFor, resumption, hcontinue]
    exact ⟨congrArg location heq, hevents⟩
  · obtain ⟨seq, heq, hevents⟩ :=
      perform_configurationDone_of_launched hlaunched (argumentsOf message)
    rw [next, answers, respond_of_command hdone, aheadFor, resumption, hdone]
    exact ⟨congrArg location heq, hevents⟩

/-- The top frame of an answer's body is at a line. -/
def ShowsTop (hit : Location) (body : Json) : Prop :=
  ∃ top more, body.get? "stackFrames" = some (.arr (top :: more)) ∧
    (top.get? "source").bind (·.get? "path") = some (.str hit.1) ∧
    top.get? "line" = some (.int hit.2)

/-- A stack trace has at least one frame. -/
theorem perform_stackTrace (arguments : Json) (s : Simulation) : ∃ n shown,
    shown = (frames s.location).take (n + 1) ∧ perform "stackTrace" arguments s =
      (.ofBody (Json.object
        [("stackFrames", .arr shown), ("totalFrames", .int shown.length)]), s) := by
  have hall : frames s.location = (frames s.location).take (1 + 1) := rfl
  rw [perform]
  rcases (arguments.get? "levels").bind unsigned? with _ | _ | n
  · exact ⟨1, _, hall, rfl⟩
  · exact ⟨1, _, hall, rfl⟩
  · exact ⟨n, _, rfl, rfl⟩

/-- The program's frames are those of the line where it stands. -/
theorem showsTop_stackTrace {s : Simulation} {hit : Location} (h : s.location = some hit)
    (arguments : Json) : ShowsTop hit (perform "stackTrace" arguments s).1.body := by
  obtain ⟨n, shown, hshown, hrun⟩ := perform_stackTrace arguments s
  rw [hrun, Answer.ofBody, ShowsTop, Json.get?_object (by simp)]
  rw [h, frames, List.take_succ_cons] at hshown
  refine ⟨_, _, congrArg (some <| Json.arr ·) hshown, ?_, ?_⟩ <;>
    rw [Json.get?_object (by simp)] <;> rfl

/-- The program is resumed with a message and comes to a line, or to its end: that is what the
events behind the answer say, and stack traces show that line until the program moves on. -/
structure Resumed (hit? : Option Location) (message : Json) (s : Simulation) : Prop where
  events : List.Forall₂ IsEvent (resumption message hit?) (answers message s).tail
  shows : ∀ hit ∈ hit?, ∀ between : List Json,
    (∀ message ∈ between, (command? message).all (!movesOn ·)) →
    ∀ request, command? request = some "stackTrace" →
      ∃ response body, answers request (after between (next message s)) = [response] ∧
        IsResponse request body response ∧ ShowsTop hit body

/-! ### Whole runs -/

/-- The messages up to the first disconnection. -/
def upToDisconnect : List Json → List Json
  | [] => []
  | message :: rest =>
    if command? message = some "disconnect" then [message] else message :: upToDisconnect rest

/-- The messages in some bytes that the adapter takes. -/
def heard (bytes : List UInt8) : List Json :=
  upToDisconnect (inputs (bytes.length + 1) bytes).reduceOption

/-- Messages are answered in their order, up to the first that disconnects. -/
theorem answerAll_eq (limit : Nat) (bytes : List UInt8) {s : Simulation}
    (h : s.disconnected = false) : (answerAll limit bytes s).1 =
      replies (upToDisconnect (inputs limit bytes).reduceOption) s := by
  induction limit generalizing bytes s with
  | zero => rfl
  | succ limit ih =>
    rw [answerAll, inputs]
    cases read bytes with
    | exhausted => rfl
    | impossible => rfl
    | message value rest =>
      have hstate := (effect_next value s).disconnected
      rw [h, Bool.false_or] at hstate
      dsimp only
      rw [List.reduceOption_cons_of_some, upToDisconnect]
      by_cases hpart : command? value = some "disconnect"
      · rw [if_pos hpart, replies, replies, List.append_nil]
        rw [decide_eq_true hpart] at hstate
        exact congrArg Prod.fst (if_pos hstate)
      · rw [if_neg hpart, replies, ← ih rest (hstate.trans (decide_eq_false hpart))]
        rw [decide_eq_false hpart, ← Bool.not_eq_true] at hstate
        exact congrArg Prod.fst (if_neg hstate)

/-- **Every line is hit once, in order.**  After the latest end of the configuration the program is
resumed with it, unless it was attached to, and with each `continue`: it comes to the lines of the
plan one after another, and then to its end each time, whatever else is asked for.  Each request
gets one response, which carries its number, before the events that it causes.  Whatever bytes the
adapter reads, what it sends are these answers, up to a disconnection. -/
theorem hits_in_order :
    (∀ before earlier message, IsConfigured (earlier ++ [message]) →
      resumes (isAttached before) message →
      Resumed (plan before)[earlier.countP (resumes (isAttached before))]? message
        (after (before ++ earlier) {})) ∧
    (∀ message s, IsAnswered message (answers message s)) ∧
    ∀ bytes, (run bytes).1 = replies (heard bytes) {} := by
  refine ⟨fun before earlier message hsession hresumes => ?_, isAnswered_answers,
    fun bytes => answerAll_eq _ bytes rfl⟩
  have hplan := (tracks_after before).hits_eq
  have hafter : after (before ++ earlier) {} = after earlier (after before {}) :=
    List.foldl_append
  rw [← attached_after] at hresumes ⊢
  obtain ⟨hresumes, hahead⟩ := aheadFor_after hsession hresumes
  obtain ⟨hlocation, hevents⟩ := resumption_spec hresumes
  rw [hahead, List.head?_drop, hplan, ← hafter] at hlocation hevents
  refine ⟨hevents, fun hit hhit between hbetween request hrequest => ?_⟩
  have hstays := (location_after hbetween _).trans (hlocation.trans hhit)
  obtain ⟨response, hsent, hresponse⟩ := answers_of_command hrequest _
  exact ⟨response, _, hsent, hresponse, showsTop_stackTrace hstays _⟩

/-- A request. -/
def request (seq : Int) (command : String) (arguments : Json) : Json :=
  Json.object [("seq", .int seq), ("type", "request"), ("command", command),
    ("arguments", arguments)]

/-- The arguments that set lines of a path. -/
def lineArguments (path : String) (lines : List Int) : Json :=
  Json.object [("source", Json.object [("path", path)]),
    ("breakpoints", .arr (lines.map fun line => Json.object [("line", .int line)]))]

/-- Lines of two paths, one of which is set again, with a line twice and one that is too high. -/
def configuration : List Json :=
  [ request 1 "launch" (.obj []),
    request 2 "setBreakpoints" (lineArguments "b.c" [3]),
    request 3 "setBreakpoints" (lineArguments "a.c" [7]),
    request 4 "setBreakpoints" (lineArguments "a.c" [5, 5, 10000]) ]

/-- The program is resumed twice; later lines and a step change nothing of what lies ahead. -/
def session : List Json :=
  [ request 5 "configurationDone" (.obj []),
    request 6 "setBreakpoints" (lineArguments "a.c" [9]),
    request 7 "next" (.obj []),
    request 8 "continue" (.obj []) ]

theorem hits_in_order_scripted :
    let resume := request 9 "continue" (.obj [])
    let s := after (configuration ++ session) {}
    IsConfigured (session ++ [resume]) ∧ resumes (isAttached configuration) resume = true ∧
      Resumed (some ("b.c", 3)) resume s ∧
      ∃ response body, answers (request 11 "stackTrace" (.obj []))
          (after [request 10 "pause" (.obj [])] (next resume s)) = [response] ∧
        IsResponse (request 11 "stackTrace" (.obj [])) body response ∧
        ShowsTop ("b.c", 3) body := by
  intro resume s
  have hplan : (plan configuration)[session.countP (resumes (isAttached configuration))]? =
      some ("b.c", 3) := by decide +kernel
  have hsession : IsConfigured (session ++ [resume]) :=
    ⟨by decide +kernel, by decide +kernel⟩
  have hresumes : resumes (isAttached configuration) resume = true := by decide +kernel
  have hresumed : Resumed (some ("b.c", 3)) resume s :=
    hplan ▸ hits_in_order.1 configuration session resume hsession hresumes
  exact ⟨hsession, hresumes, hresumed, hresumed.shows _ rfl _ (by decide +kernel) _
    (by decide +kernel)⟩

end Simulation
end DebugConsole
