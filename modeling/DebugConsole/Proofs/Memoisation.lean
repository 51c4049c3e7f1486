/-
# A text is obtained once

Texts are looked up under references, where an adapter is asked for them, and under paths, where
files are read.  The adapter and the files may answer differently every time, and fail.

| under this key, since texts were last forgotten | the look-up | asks |
| --- | --- | --- |
| a text was obtained | gives its lines, of several the first one's | nobody |
| none was, and one is obtained now | gives its lines | once |
| none was, and none is obtained now | fails for the same reason and keeps nothing | once |

What was obtained is read off the questions that were asked (`SourceTexts.obtained`), whatever is
kept.  That nothing but the first of it is kept (`Memory.Faithful`) is preserved by every use.
-/

import DebugConsole.Proofs.Sources
import Mathlib.Data.List.Induction

namespace DebugConsole
namespace SourceTexts

/-- A question with its outcome, or that everything was forgotten. -/
inductive Incident where
  | asked (key : Key) (outcome : Except Error String)
  | flushed

/-- The texts that questions have obtained under a key since everything was last forgotten, in their
order; of the incidents the last one comes first. -/
def obtained (key : Key) : List Incident → List String
  | [] => []
  | .flushed :: _ => []
  | .asked k outcome :: log =>
    obtained key log ++ if k = key then outcome.toOption.toList else []

/-- The texts that are kept, and what has happened to them, last first. -/
structure Memory where
  texts : SourceTexts := {}
  log : List Incident := []

/-- A look-up at a time when the adapter and the files answer so. -/
inductive LookUp where
  | reference (reference : Int64) (fetcher : Int64 → Except Error String)
  | path (path : String) (files : String → Except FileProblem String)

/-- A use of the texts. -/
inductive Use where
  | lookUp (l : LookUp)
  | flush

namespace LookUp

def key : LookUp → Key
  | .reference r _ => .reference r
  | .path p _ => .path p

/-- What asking would give. -/
def outcome : LookUp → Except Error String
  | .reference r fetcher => fetcher r
  | .path p files => (files p).mapError (.fileRead p)

/-- Looks up; every question is noted. -/
def apply (memory : Memory) : LookUp → Except Error (List String) × Memory
  | .reference r fetcher =>
    let ((result, texts), log) := memory.texts.byReference (m := StateM (List Incident)) r
      (fun r log => (fetcher r, .asked (.reference r) (fetcher r) :: log)) memory.log
    (result, ⟨texts, log⟩)
  | .path p files =>
    let ((result, texts), log) := memory.texts.byPath (m := StateM (List Incident)) p
      (fun p log => (files p, .asked (.path p) ((files p).mapError (.fileRead p)) :: log))
      memory.log
    (result, ⟨texts, log⟩)

end LookUp

namespace Use

/-- Does a use have to do with a key?  Forgetting has to do with all of them. -/
def concerns (key : Key) : Use → Bool
  | .lookUp l => l.key = key
  | .flush => true

def next (memory : Memory) : Use → Memory
  | .lookUp l => (l.apply memory).2
  | .flush => ⟨SourceTexts.flush, .flushed :: memory.log⟩

end Use

/-- What some uses lead to, in their order. -/
def replay (uses : List Use) : Memory := uses.foldl Use.next {}

/-- One use more comes after the others. -/
theorem replay_concat (uses : List Use) (use : Use) :
    replay (uses ++ [use]) = use.next (replay uses) := List.foldl_concat ..

/-! ### One look-up -/

/-- A text is asked for where none is kept, and kept where it is obtained. -/
theorem LookUp.apply_eq (l : LookUp) (memory : Memory) :
    l.apply memory = match memory.texts.find? l.key with
      | some lines => (.ok lines, memory)
      | none => match l.outcome with
        | .ok text => (.ok (Text.lines text),
            ⟨memory.texts.keep l.key (Text.lines text), .asked l.key l.outcome :: memory.log⟩)
        | .error e => (.error e, ⟨memory.texts, .asked l.key l.outcome :: memory.log⟩) := by
  cases l with
  | reference r fetcher =>
    simp only [apply, byReference, fetch_apply, key, outcome]
    cases memory.texts.find? (.reference r) with
    | some lines => rfl
    | none => cases fetcher r <;> rfl
  | path p files =>
    simp only [apply, byPath, fetch_apply, key, outcome, bind, StateT.bind]
    cases memory.texts.find? (.path p) with
    | some lines => rfl
    | none => cases files p <;> rfl

/-- What is kept under a key are the lines of the first text that was obtained for it. -/
def Memory.Faithful (memory : Memory) : Prop :=
  ∀ key, memory.texts.find? key = (obtained key memory.log).head?.map Text.lines

variable {memory : Memory}

/-- Nothing is asked where a text was obtained. -/
theorem LookUp.apply_of_obtained {l : LookUp} (h : memory.Faithful) {text : String}
    (hfirst : (obtained l.key memory.log).head? = some text) :
    l.apply memory = (.ok (Text.lines text), memory) := by
  rw [apply_eq, h, hfirst, Option.map_some]

/-- Where none was obtained, it is asked for. -/
theorem LookUp.apply_of_obtained_nil {l : LookUp} (h : memory.Faithful)
    (hnone : obtained l.key memory.log = []) :
    l.apply memory = match l.outcome with
      | .ok text => (.ok (Text.lines text),
          ⟨memory.texts.keep l.key (Text.lines text), .asked l.key l.outcome :: memory.log⟩)
      | .error e => (.error e, ⟨memory.texts, .asked l.key l.outcome :: memory.log⟩) := by
  rw [apply_eq, h, hnone, List.head?_nil, Option.map_none]

/-- The result, from what was obtained before. -/
theorem LookUp.apply_fst (h : memory.Faithful) (l : LookUp) :
    (l.apply memory).1 = match obtained l.key memory.log with
      | text :: _ => .ok (Text.lines text)
      | [] => l.outcome.map Text.lines := by
  cases hobtained : obtained l.key memory.log with
  | nil =>
    rw [l.apply_of_obtained_nil h hobtained]
    cases l.outcome <;> rfl
  | cons text others => rw [l.apply_of_obtained h (by rw [hobtained]; rfl)]

/-- The questions that are asked. -/
theorem LookUp.apply_log (h : memory.Faithful) (l : LookUp) :
    (l.apply memory).2.log = if obtained l.key memory.log = [] then
      .asked l.key l.outcome :: memory.log else memory.log := by
  cases hobtained : obtained l.key memory.log with
  | nil =>
    rw [l.apply_of_obtained_nil h hobtained, if_pos rfl]
    cases l.outcome <;> rfl
  | cons text others =>
    rw [l.apply_of_obtained h (by rw [hobtained]; rfl), if_neg (List.cons_ne_nil _ _)]

/-- What a use adds to the texts obtained under a key. -/
theorem obtained_next (h : memory.Faithful) (key : Key) (use : Use) :
    obtained key (use.next memory).log = match use with
      | .flush => []
      | .lookUp l => if l.key = key ∧ obtained key memory.log = [] then
          l.outcome.toOption.toList else obtained key memory.log := by
  cases use with
  | flush => rfl
  | lookUp l =>
    dsimp only [Use.next]
    rw [l.apply_log h]
    by_cases hnone : obtained l.key memory.log = []
    · rw [if_pos hnone, obtained]
      by_cases hkey : l.key = key
      · subst hkey
        rw [hnone, if_pos rfl, if_pos ⟨rfl, rfl⟩, List.nil_append]
      · rw [if_neg hkey, if_neg fun hboth => hkey hboth.1, List.append_nil]
    · rw [if_neg hnone, if_neg]
      rintro ⟨rfl, hboth⟩
      exact hnone hboth

/-- The first text under a key is kept as soon as it is obtained. -/
theorem Memory.Faithful.next (h : memory.Faithful) (use : Use) : (use.next memory).Faithful := by
  intro key
  rw [obtained_next h]
  cases use with
  | flush => rfl
  | lookUp l =>
    dsimp only [Use.next]
    cases hobtained : obtained l.key memory.log with
    | nil =>
      -- nothing is kept under this key yet, and a failure does not change that
      have hempty : memory.texts.find? l.key = none := by rw [h, hobtained]; rfl
      rw [l.apply_of_obtained_nil h hobtained]
      by_cases hkey : l.key = key
      · subst hkey
        rw [if_pos ⟨rfl, hobtained⟩]
        cases l.outcome with
        | ok text => exact find?_keep_self ..
        | error e => exact hempty
      · rw [if_neg fun hboth => hkey hboth.1, ← h]
        cases l.outcome with
        | ok text => exact find?_keep_of_ne hkey ..
        | error e => rfl
    | cons text others =>
      -- what is kept is used, whatever there is to be found now
      rw [l.apply_of_obtained h (by rw [hobtained]; rfl), if_neg, h]
      rintro ⟨rfl, hnone⟩
      rw [hobtained] at hnone
      cases hnone

/-- **After any uses the memory is faithful.** -/
theorem faithful_replay (uses : List Use) : (replay uses).Faithful := by
  induction uses using List.reverseRecOn with
  | nil => exact fun _ => rfl
  | append_singleton uses use ih =>
    rw [replay_concat]
    exact ih.next use

/-! ### Keys apart -/

/-- What is obtained under a key has nothing to do with uses of other keys. -/
theorem obtained_replay_filter (key : Key) (uses : List Use) :
    obtained key (replay (uses.filter (·.concerns key))).log = obtained key (replay uses).log := by
  induction uses using List.reverseRecOn with
  | nil => rfl
  | append_singleton uses use ih =>
    rw [List.filter_append, replay_concat, obtained_next (faithful_replay uses)]
    cases use with
    | flush =>
      have hkept : [Use.flush].filter (·.concerns key) = [.flush] := rfl
      rw [hkept, replay_concat]
      rfl
    | lookUp l =>
      by_cases hkey : l.key = key
      · have hkept : [Use.lookUp l].filter (·.concerns key) = [.lookUp l] :=
          List.filter_cons_of_pos (decide_eq_true hkey)
        rw [hkept, replay_concat, obtained_next (faithful_replay _), ih]
      · have hleft : [Use.lookUp l].filter (·.concerns key) = [] :=
          List.filter_cons_of_neg fun h => hkey (of_decide_eq_true h)
        rw [hleft, List.append_nil, ih]
        exact (if_neg fun hboth => hkey hboth.1).symm

/-! ### Every look-up -/

/-- What a look-up gives is the first text that was obtained. -/
theorem LookUp.first_of_ok (h : memory.Faithful) {l : LookUp} {lines : List String}
    (hok : (l.apply memory).1 = .ok lines) :
    ∃ text, (obtained l.key (l.apply memory).2.log).head? = some text ∧
      lines = Text.lines text := by
  rw [l.apply_fst h] at hok
  rw [l.apply_log h]
  cases hobtained : obtained l.key memory.log with
  | nil =>
    rw [hobtained] at hok
    rw [if_pos rfl, obtained, hobtained, if_pos rfl]
    cases houtcome : l.outcome with
    | ok text =>
      rw [houtcome] at hok
      exact ⟨text, rfl, (Except.ok.inj hok).symm⟩
    | error e =>
      rw [houtcome] at hok
      cases hok
  | cons text others =>
    rw [hobtained] at hok
    rw [if_neg (List.cons_ne_nil _ _), hobtained]
    exact ⟨text, rfl, (Except.ok.inj hok).symm⟩

/-- A look-up that fails has kept nothing, and nothing was obtained before. -/
theorem LookUp.kept_of_error (h : memory.Faithful) {l : LookUp} {e : Error}
    (herror : (l.apply memory).1 = .error e) :
    obtained l.key memory.log = [] ∧ l.outcome = .error e ∧
      (l.apply memory).2.texts = memory.texts := by
  have hfst := l.apply_fst h
  rw [herror] at hfst
  cases hobtained : obtained l.key memory.log with
  | nil =>
    rw [hobtained] at hfst
    cases houtcome : l.outcome with
    | ok text =>
      rw [houtcome] at hfst
      cases hfst
    | error e' =>
      rw [houtcome] at hfst
      obtain rfl := Except.error.inj hfst
      rw [l.apply_of_obtained_nil h hobtained, houtcome]
      exact ⟨rfl, rfl, rfl⟩
  | cons text others =>
    rw [hobtained] at hfst
    cases hfst

/-- A look-up after some uses, its result, and what it leads to. -/
structure Memoised (uses : List Use) (l : LookUp) (result : Except Error (List String))
    (after : Memory) : Prop where
  /-- What is given are the lines of the first text that was obtained, now if not before. -/
  success : ∀ lines, result = .ok lines →
    ∃ text, (obtained l.key after.log).head? = some text ∧ lines = Text.lines text
  /-- A failure is that of asking, and changes nothing that is kept. -/
  failure : ∀ e, result = .error e → obtained l.key (replay uses).log = [] ∧
    l.outcome = .error e ∧ after.texts = (replay uses).texts
  /-- It is asked, once, if and only if nothing was obtained yet. -/
  asked : after.log = if obtained l.key (replay uses).log = [] then
    .asked l.key l.outcome :: (replay uses).log else (replay uses).log
  /-- Uses of other keys make no difference. -/
  apart : result = (l.apply (replay (uses.filter (·.concerns l.key)))).1

/-- **A text is obtained once.**  Whatever was looked up and forgotten before, and whatever there
was and is to be found: a look-up gives the lines of the first text that was obtained under its key
since everything was last forgotten.  It asks just where none was, fails just where that fails, and
then leaves what is kept as it was.  Look-ups under other keys make no difference. -/
theorem memoised (uses : List Use) (l : LookUp) :
    Memoised uses l (l.apply (replay uses)).1 (l.apply (replay uses)).2 := by
  have h := faithful_replay uses
  exact {
    success := fun _ => LookUp.first_of_ok h
    failure := fun _ => LookUp.kept_of_error h
    asked := l.apply_log h
    apart := by rw [l.apply_fst h, l.apply_fst (faithful_replay _), obtained_replay_filter] }

/-- A file that changes is read again only after everything was forgotten. -/
example :
    let written (text : String) : LookUp := .path "/a.c" fun _ => .ok text
    ((written "new").apply (replay [.lookUp (written "old")])).1 = .ok ["old"] ∧
      ((written "new").apply (replay [.lookUp (written "old"), .flush])).1 = .ok ["new"] := by
  constructor <;> rfl

end SourceTexts

/-! ### A debugger's look-ups -/

variable {σ : Type} [Environment σ]

/-- A debugger looks texts up in these two ways, under references by a request to its adapter. -/
theorem Debugger.keptLines_eq (d : Debugger σ) :
    (∀ reference, keptLines (.reference reference)
        (Action.send (Protocol.Call.source { sourceReference := reference })) d =
      let ((result, texts), d) := d.texts.byReference (m := StateM (Debugger σ)) reference
        (fun reference => Action.send (Protocol.Call.source { sourceReference := reference })) d
      (result, { d with texts })) ∧
    ∀ path, keptLines (.path path) (Action.readFile path) d =
      let ((result, texts), d) := d.texts.byPath (m := StateM (Debugger σ)) path
        (fun path d =>
          let outcome := Environment.readFile path d.environment
          (outcome, { d with exchanges := .read path outcome :: d.exchanges })) d
      (result, { d with texts }) :=
  ⟨fun _ => rfl, fun _ => rfl⟩

end DebugConsole
