/-
# What is shown of files after a restart

The text of a file is kept under its path until a session ends.  Files can be looked up without a
session too, and then a target is launched without any session that could end first.  So a text that
was read before a call to launch is shown after it just where it was kept when the call was made and
no session has ended since:

| a text of the file was kept when the call was made | a session has ended since | shown is |
| --- | --- | --- |
| no | — | a text that was read after the call |
| yes | yes, the one that the call found open or a later one | a text that was read after the call |
| yes | no | the text that was kept, whatever the file says now |

What was read is read off the questions that were asked.  `Debugger.Dates` says of the texts that
are kept when they were read, seen from one call; every move preserves it (`Dates.next`).
-/

import DebugConsole.Proofs.Sources
import DebugConsole.Proofs.Succession

namespace DebugConsole

open Protocol

variable {σ α : Type}

/-- Is a source looked up in the file at a path?  A text that an adapter holds goes before it. -/
def Protocol.Source.IsFile (path : String) (source : Source) : Prop :=
  source.reference.filter (· ≠ 0) = none ∧ source.path = some path

/-- No text was read from a file by this question. -/
def Exchange.ReadsNothing (e : Exchange) : Prop := ∀ path text, e ≠ .read path (.ok text)

/-- After everything was dropped nothing is kept. -/
theorem SourceTexts.find?_flush (key : Key) : SourceTexts.flush.find? key = none := rfl

/-! ### Calls and ends of sessions -/

/-- Is a target launched or launched again in a step, because the user says so or it is gone? -/
def Step.calls (step : Step σ) : Bool := step.move.asksForSession || step.move.revives step.before

section

variable [Environment σ]

/-- Does the session end in a step that is open before it? -/
def Step.endsSession (step : Step σ) : Bool :=
  step.before.session.isSome && !step.after.isOpen step.before.generation

/-- The debugger in which the last call to launch, or to launch again, was made, and whether a
session has ended since then, be it the one that was open at that time or a later one. -/
def lastCall? : List (Step σ) → Option (Debugger σ × Bool)
  | [] => none
  | step :: history =>
    if step.calls then some (step.before, step.endsSession)
    else (lastCall? history).map fun (begun, ended) => (begun, ended || step.endsSession)

end

namespace Debugger

/-- A text was read from a file between two debuggers of a run. -/
def ReadBetween (path text : String) (d d' : Debugger σ) : Prop :=
  ∃ new, d'.exchanges = new ++ d.exchanges ∧ .read path (.ok text) ∈ new

/-- Which questions were asked between two debuggers of a run is not open to choice. -/
theorem readBetween_iff {path text : String} {d d' : Debugger σ} {new : List Exchange}
    (h : d'.exchanges = new ++ d.exchanges) :
    ReadBetween path text d d' ↔ .read path (.ok text) ∈ new := by
  refine ⟨fun ⟨other, hother, hread⟩ => ?_, fun hread => ⟨new, h, hread⟩⟩
  rwa [List.append_cancel_right (h.symm.trans hother)]

/-! ### Sparing files -/

/-- No text of a file was read, kept or forgotten. -/
structure Spares (d d' : Debugger σ) : Prop where
  texts : ∀ path, d'.texts.find? (.path path) = d.texts.find? (.path path)
  asks : Asks Exchange.ReadsNothing d d'

/-- What is more, the session goes on. -/
structure SparesOn (d d' : Debugger σ) : Prop extends Spares d d' where
  session : d'.session.isSome = d.session.isSome
  generation : d'.generation = d.generation

instance : IsPreorder (Debugger σ) Spares where
  refl _ := ⟨fun _ => rfl, .of_eq rfl⟩
  trans _ _ _ h₁ h₂ := ⟨fun path => (h₂.texts path).trans (h₁.texts path), h₁.asks.trans h₂.asks⟩

instance : IsPreorder (Debugger σ) SparesOn where
  refl d := ⟨refl_of Spares d, rfl, rfl⟩
  trans _ _ _ h₁ h₂ := {
    toSpares := trans_of Spares h₁.toSpares h₂.toSpares
    session := h₂.session.trans h₁.session
    generation := h₂.generation.trans h₁.generation }

/-- A change of what texts have nothing to do with. -/
theorem Spares.of_eq {d d' : Debugger σ} (htexts : d'.texts = d.texts)
    (hexchanges : d'.exchanges = d.exchanges) : Spares d d' :=
  ⟨fun _ => by rw [htexts], .of_eq hexchanges⟩

/-- A question that reads no file. -/
theorem Spares.of_cons {d d' : Debugger σ} {e : Exchange} (htexts : d'.texts = d.texts)
    (hexchanges : d'.exchanges = e :: d.exchanges) (he : e.ReadsNothing) : Spares d d' :=
  ⟨fun _ => by rw [htexts], .cons hexchanges he⟩

/-- The same, with a session that goes on. -/
theorem SparesOn.of_eq {d d' : Debugger σ} (htexts : d'.texts = d.texts)
    (hexchanges : d'.exchanges = d.exchanges) (hsession : d'.session.isSome = d.session.isSome)
    (hgeneration : d'.generation = d.generation) : SparesOn d d' :=
  ⟨.of_eq htexts hexchanges, hsession, hgeneration⟩

/-! ### When what is kept was read -/

/-- What is kept of files, seen from an earlier debugger since which these questions were asked.
Whether a session has ended since then decides about what was kept before. -/
structure Dates (begun : Debugger σ) (ended : Bool) (new : List Exchange) (d : Debugger σ) :
    Prop where
  exchanges : d.exchanges = new ++ begun.exchanges
  /-- Until a session ends, a file of which a text is kept is not read again. -/
  old : ended = false → ∀ path lines, begun.texts.find? (.path path) = some lines →
    d.texts.find? (.path path) = some lines ∧ ∀ text, .read path (.ok text) ∉ new
  /-- Everything else that is kept was read since. -/
  new : ∀ path lines, ended ∨ begun.texts.find? (.path path) = none →
    d.texts.find? (.path path) = some lines →
    ∃ text, .read path (.ok text) ∈ new ∧ lines = Text.lines text

/-- At first nothing was asked since, and all is as it was. -/
theorem Dates.begin (d : Debugger σ) : Dates d false [] d where
  exchanges := rfl
  old _ _ _ hkept := ⟨hkept, fun _ => List.not_mem_nil⟩
  new _ _ hnone hkept := by
    rcases hnone with hended | hnone
    · cases hended
    · rw [hnone] at hkept
      cases hkept

variable {begun : Debugger σ} {ended : Bool} {new : List Exchange}

/-- What spares files changes nothing about when they were read. -/
theorem Dates.spares {d d' : Debugger σ} (h : Dates begun ended new d) (hspares : Spares d d') :
    ∃ new', Dates begun ended new' d' := by
  obtain ⟨asked, hexchanges, hnothing⟩ := hspares.asks
  have hread {path text : String} : .read path (.ok text) ∉ asked := fun hmem =>
    hnothing _ hmem path text rfl
  refine ⟨asked ++ new, ?_, fun hended path lines hkept => ?_, fun path lines hnone hkept => ?_⟩
  · rw [hexchanges, h.exchanges, List.append_assoc]
  · obtain ⟨hstill, hunread⟩ := h.old hended path lines hkept
    exact ⟨(hspares.texts path).trans hstill, fun text hmem =>
      (List.mem_append.1 hmem).elim hread (hunread text)⟩
  · obtain ⟨text, hmem, hlines⟩ := h.new path lines hnone ((hspares.texts path).symm.trans hkept)
    exact ⟨text, List.mem_append_right _ hmem, hlines⟩

/-- A text is kept as soon as it is read, where none was kept. -/
theorem Dates.keep {d d' : Debugger σ} (h : Dates begun ended new d) {path text : String}
    (hnone : d.texts.find? (.path path) = none)
    (htexts : d'.texts = d.texts.keep (.path path) (Text.lines text))
    (hexchanges : d'.exchanges = .read path (.ok text) :: d.exchanges) :
    Dates begun ended (.read path (.ok text) :: new) d' where
  exchanges := by rw [hexchanges, h.exchanges, List.cons_append]
  old hended other lines hkept := by
    obtain ⟨hstill, hunread⟩ := h.old hended other lines hkept
    have hother : path ≠ other := by
      rintro rfl
      rw [hnone] at hstill
      cases hstill
    have hkey : SourceTexts.Key.path path ≠ .path other := fun heq =>
      hother (SourceTexts.Key.path.inj heq)
    refine ⟨by rw [htexts, SourceTexts.find?_keep_of_ne hkey, hstill], fun text' hmem => ?_⟩
    rcases List.mem_cons.1 hmem with heq | hmem
    · exact hother (Exchange.read.inj heq).1.symm
    · exact hunread text' hmem
  new other lines hunkept hkept := by
    rw [htexts] at hkept
    by_cases hsame : path = other
    · subst hsame
      rw [SourceTexts.find?_keep_self] at hkept
      exact ⟨text, List.mem_cons_self, (Option.some.inj hkept).symm⟩
    · have hkey : SourceTexts.Key.path path ≠ .path other := fun heq =>
        hsame (SourceTexts.Key.path.inj heq)
      rw [SourceTexts.find?_keep_of_ne hkey] at hkept
      obtain ⟨text', hmem, hlines⟩ := h.new other lines hunkept hkept
      exact ⟨text', List.mem_cons_of_mem _ hmem, hlines⟩

/-- Nothing is kept any longer. -/
theorem Dates.forget {d d' : Debugger σ} (h : Dates begun ended new d) (asked : List Exchange)
    (htexts : d'.texts = SourceTexts.flush)
    (hexchanges : d'.exchanges = asked ++ d.exchanges) : Dates begun true (asked ++ new) d' where
  exchanges := by rw [hexchanges, h.exchanges, List.append_assoc]
  old hended := nomatch hended
  new path lines _ hkept := by
    rw [htexts, SourceTexts.find?_flush] at hkept
    cases hkept

/-- The session goes on, and so does `Dates`. -/
structure KeepsDates (d d' : Debugger σ) : Prop where
  session : d'.session.isSome = d.session.isSome
  generation : d'.generation = d.generation
  dates : ∀ {begun ended new}, Dates begun ended new d → ∃ new', Dates begun ended new' d'

instance : IsPreorder (Debugger σ) KeepsDates where
  refl _ := ⟨rfl, rfl, fun h => ⟨_, h⟩⟩
  trans _ _ _ h₁ h₂ := {
    session := h₂.session.trans h₁.session
    generation := h₂.generation.trans h₁.generation
    dates h := by
      obtain ⟨_, h⟩ := h₁.dates h
      exact h₂.dates h }

theorem SparesOn.keepsDates {d d' : Debugger σ} (h : SparesOn d d') : KeepsDates d d' :=
  ⟨h.session, h.generation, fun hd => hd.spares h.toSpares⟩

/-- A change of what texts and questions have nothing to do with. -/
theorem KeepsDates.of_eq {d d' : Debugger σ} (htexts : d'.texts = d.texts)
    (hexchanges : d'.exchanges = d.exchanges) (hsession : d'.session.isSome = d.session.isSome)
    (hgeneration : d'.generation = d.generation) : KeepsDates d d' :=
  (SparesOn.of_eq htexts hexchanges hsession hgeneration).keepsDates

/-- No session ends in what keeps the dates. -/
theorem KeepsDates.dates_or {d d' : Debugger σ} (hkeeps : KeepsDates d d')
    (h : Dates begun ended new d) :
    ∃ new', Dates begun (ended || (d.session.isSome && !d'.isOpen d.generation)) new' d' := by
  have hopen : (d.session.isSome && !d'.isOpen d.generation) = false := by
    rw [isOpen, hkeeps.generation, hkeeps.session]
    cases d.session <;> simp
  rw [hopen, Bool.or_false]
  exact hkeeps.dates h

end Debugger

variable [Environment σ]

open Debugger

/-! ### Questions and look-ups -/

namespace Action

/-- A request reads no file. -/
theorem spares_send (call : Call α) : Within Spares (send call : Action σ α) := fun _ =>
  .of_cons rfl rfl fun _ _ => nofun

/-- A request reads no file, and the session goes on. -/
theorem sparesOn_send (call : Call α) : Within SparesOn (send call : Action σ α) := fun d =>
  ⟨spares_send call d, Option.isSome_map, rfl⟩

omit [Environment σ] in
/-- A call reads no file, whatever becomes of it. -/
theorem sparesOn_notes (call : Call α) : Notes (SparesOn (σ := σ)) call := fun d e _ hof => by
  have hnothing : e.ReadsNothing := by cases hof <;> exact fun _ _ => nofun
  exact ⟨.of_cons rfl rfl hnothing, rfl, rfl⟩

end Action

instance : AdmitsReports (SparesOn (σ := σ)) where
  session h := h.session
  asks _ := .of_eq rfl rfl Option.isSome_map rfl
  notes _ := Action.sparesOn_notes _
  canonical _ _ := ⟨.of_cons rfl rfl fun _ _ => nofun, rfl, rfl⟩
  view _ := .of_eq rfl rfl rfl rfl
  threads _ _ := .of_eq rfl rfl rfl rfl
  console _ _ := .of_eq rfl rfl rfl rfl
  live _ _ := .of_eq rfl rfl rfl rfl

namespace Debugger

open DebugConsole.Action

/-- A text that an adapter holds is kept under a key of its own. -/
theorem spares_keptLines_reference (held : Int64) :
    Within SparesOn (keptLines (.reference held)
      (send (Call.source { sourceReference := held })) : Action σ (List String)) := fun d => by
  have hsent : SparesOn d (send (Call.source { sourceReference := held }) d).2 := sparesOn_send _ d
  rw [keptLines_apply]
  cases d.texts.find? (.reference held) with
  | some lines => exact refl_of SparesOn d
  | none =>
    dsimp only
    rcases hrun : send (Call.source { sourceReference := held }) d with ⟨e | text, d'⟩ <;>
      rw [hrun] at hsent
    · exact ⟨⟨fun _ => rfl, hsent.asks⟩, hsent.session, hsent.generation⟩
    · have hkey (path : String) : SourceTexts.Key.reference held ≠ .path path := nofun
      exact ⟨⟨fun path => SourceTexts.find?_keep_of_ne (hkey path) _ _, hsent.asks⟩,
        hsent.session, hsent.generation⟩

/-- A file is read where no text of it is kept, and then its text is. -/
theorem keptLines_path_cases (path : String) (d : Debugger σ) :
    let kept := keptLines (.path path) (readFile path) d
    (∃ lines, d.texts.find? (.path path) = some lines ∧ kept = (.ok lines, d)) ∨
      d.texts.find? (.path path) = none ∧
        ((∃ text, kept = (.ok (Text.lines text), { d with
            texts := d.texts.keep (.path path) (Text.lines text)
            exchanges := .read path (.ok text) :: d.exchanges })) ∨
          ∃ problem, kept = (.error (.fileRead path problem), { d with
            exchanges := .read path (.error problem) :: d.exchanges })) := by
  dsimp only
  rw [keptLines_apply]
  cases d.texts.find? (.path path) with
  | some lines => exact .inl ⟨lines, rfl, rfl⟩
  | none =>
    refine .inr ⟨rfl, ?_⟩
    simp only [readFile]
    cases Environment.readFile path d.environment with
    | ok text => exact .inl ⟨text, rfl⟩
    | error problem => exact .inr ⟨problem, rfl⟩

/-- The lines of a file are read where none are kept, and kept from then on. -/
theorem keepsDates_keptLines_path (path : String) :
    Within KeepsDates (keptLines (.path path) (readFile path) : Action σ (List String)) :=
  fun d => by
    rcases keptLines_path_cases path d with
      ⟨lines, -, heq⟩ | ⟨hnone, ⟨text, heq⟩ | ⟨problem, heq⟩⟩ <;> rw [heq]
    · exact refl_of KeepsDates d
    · exact ⟨rfl, rfl, fun hd => ⟨_, hd.keep hnone rfl rfl⟩⟩
    · have hspares : Spares d { d with
          exchanges := .read path (.error problem) :: d.exchanges } := .of_cons rfl rfl nofun
      exact (SparesOn.mk hspares rfl rfl).keepsDates

end Debugger

instance : AdmitsReports (KeepsDates (σ := σ)) where
  session h := h.session
  asks _ := .of_eq rfl rfl Option.isSome_map rfl
  notes _ d e hd hof := (Action.sparesOn_notes _ d e hd hof).keepsDates
  canonical path d := (AdmitsQueries.canonical (R := SparesOn) path d).keepsDates
  view _ := .of_eq rfl rfl rfl rfl
  threads _ _ := .of_eq rfl rfl rfl rfl
  console _ _ := .of_eq rfl rfl rfl rfl
  live _ _ := .of_eq rfl rfl rfl rfl

instance : AdmitsLookUps (KeepsDates (σ := σ)) where
  heldText held d _ := (spares_keptLines_reference held d).keepsDates
  fileText := keepsDates_keptLines_path

instance : AdmitsTalk (KeepsDates (σ := σ)) where
  configuring _ d e hd hof := (Action.sparesOn_notes _ d e hd hof).keepsDates
  breakpoints _ _ := .of_eq rfl rfl rfl rfl
  phase _ _ := .of_eq rfl rfl rfl rfl
  shutdown _ _ := .of_eq rfl rfl rfl rfl
  take d := by
    rcases takeSignal_cases d with heq | ⟨session, signal, taken, hsession, -, heq⟩ <;> rw [heq]
    · exact refl_of KeepsDates d
    · exact .of_eq rfl rfl (by rw [hsession]; rfl) rfl
  hear _ _ := .of_eq rfl rfl Option.isSome_map rfl
  elsewhere _ _ := .of_eq rfl rfl rfl rfl

namespace Debugger

open DebugConsole.Action

/-! ### Sessions -/

variable {begun : Debugger σ} {ended : Bool} {new : List Exchange}

/-- Everything is forgotten with the session, and only with one. -/
theorem Dates.closeSession {d : Debugger σ} (h : Dates begun ended new d) :
    ∃ new', Dates begun (ended || d.session.isSome) new' (closeSession d).2 := by
  rw [closeSession_apply]
  split_ifs with hnone
  · obtain hclosed : d.session = none := by simpa using hnone
    rw [hclosed, Option.isSome_none, Bool.or_false]
    exact ⟨new, h⟩
  · obtain hopen : d.session.isSome := by simpa [Option.isSome_iff_ne_none] using hnone
    rw [hopen, Bool.or_true]
    exact ⟨_, h.forget [_] rfl rfl⟩

/-- A session that is opened reads no file. -/
theorem spares_openSession (target : Target) (d : Debugger σ) :
    Spares d (openSession target d).2 := by
  rw [openSession_apply]
  obtain ⟨environment, -, ⟨e, hconnect⟩ | hconnect⟩ := connect_cases target.executable
    { d with console := d.console.closeInput, threads := {} } <;> rw [hconnect]
  · exact .of_cons rfl rfl fun _ _ => nofun
  · have hconnected : Spares d { d with
        console := d.console.closeInput, threads := {}
        environment, session := some {}, generation := d.generation + 1
        exchanges := .connect target.executable (.ok ()) :: d.exchanges } :=
      .of_cons rfl rfl fun _ _ => nofun
    have hintroduced := trans_of Spares hconnected
      (spares_send (Call.introduce (InitializeArguments.ofAdapter target.adapterId)) _)
    dsimp only
    split <;> rename_i hsend <;> rw [hsend] at hintroduced
    · rename_i capabilities d'
      have hkept : Spares d' { d' with capabilities } := .of_eq rfl rfl
      exact trans_of Spares hintroduced hkept
    · exact hintroduced

/-- What was kept outlives a call that finds no session. -/
theorem Dates.relaunch {d : Debugger σ} (h : Dates begun ended new d) (hknown : d.target.isSome) :
    ∃ new', Dates begun (ended || d.session.isSome) new' (relaunch d).2 := by
  obtain ⟨target, htarget⟩ := Option.isSome_iff_exists.1 hknown
  have hphase : Spares d { d with phase := .initializing } := .of_eq rfl rfl
  obtain ⟨_, hprepared⟩ := h.spares hphase
  obtain ⟨_, hclosed⟩ := hprepared.closeSession
  obtain ⟨_, hopened⟩ := hclosed.spares (spares_openSession target _)
  rw [relaunch_of_target htarget]
  split <;> rename_i hopen <;> rw [hopen] at hopened
  · exact hopened.spares (.of_eq rfl rfl)
  · exact ⟨_, hopened⟩

/-- Starting a program reads no file. -/
theorem sparesOn_sendStart (d : Debugger σ) : SparesOn d (Reaction.sendStart d).2 := by
  rcases sendStart_cases d with heq | ⟨session, mode, hsession, -, heq⟩ <;> rw [heq]
  · exact refl_of SparesOn d
  · dsimp only
    exact ⟨.of_cons rfl rfl nofun, by rw [hsession]; rfl, rfl⟩

/-- After a passage the session is still open, or it has ended and everything was forgotten. -/
theorem Passage.dates {d d' : Debugger σ} (hpassage : Passage KeepsDates d d')
    (h : Dates begun ended new d) :
    ∃ new', Dates begun (ended || (d.session.isSome && !d'.isOpen d.generation)) new' d' := by
  cases hpassage with
  | stays hkeeps => exact hkeeps.dates_or h
  | starts heq => exact heq ▸ (sparesOn_sendStart d).keepsDates.dates_or h
  | @closes d₁ before after =>
    have hclosed : d'.isOpen d.generation = false := by
      rw [isOpen, after.session, (closeSession_spec d₁).session]
      exact Bool.and_false _
    obtain ⟨_, hbefore⟩ := before.dates h
    obtain ⟨_, hparted⟩ := hbefore.closeSession
    rw [hclosed, Bool.not_false, Bool.and_true, ← before.session]
    exact after.dates hparted
  | @relaunches d₁ before known after =>
    have hclosed : d'.isOpen d.generation = false := by
      rw [isOpen, after.session, after.generation, Bool.and_eq_false_iff]
      rcases (relaunch_spec known).outcome with ⟨hnone, -, -⟩ | ⟨-, hnext, -⟩
      · exact .inr (by rw [hnone]; rfl)
      · exact .inl (by rw [hnext, before.generation]; simp)
    obtain ⟨_, hbefore⟩ := before.dates h
    obtain ⟨_, hrelaunched⟩ := hbefore.relaunch known
    rw [hclosed, Bool.not_false, Bool.and_true, ← before.session]
    exact after.dates hrelaunched

/-- **When what is kept was read, one move later.** -/
theorem Dates.next {d : Debugger σ} (h : Dates begun ended new d) (move : Move σ) :
    ∃ new', Dates begun (ended || Step.endsSession ⟨d, move⟩) new' (move.next d) := by
  have hprepared : Spares d (move.prepared d) ∧
      (move.prepared d).session = d.session ∧ (move.prepared d).generation = d.generation := by
    unfold Move.prepared
    split
    · exact ⟨.of_eq rfl rfl, rfl, rfl⟩
    · exact ⟨refl_of Spares d, rfl, rfl⟩
  obtain ⟨hspares, hsession, hgeneration⟩ := hprepared
  obtain ⟨_, hbegun⟩ := h.spares hspares
  have hnext := (passage_next move d).dates hbegun
  rwa [hsession, hgeneration] at hnext

end Debugger

/-! ### Runs -/

/-- The debugger that a look-up started from was reached by a run of its own. -/
theorem Run.exists_of_lastCall? {history : List (Step σ)} {d : Debugger σ} (h : Run history d)
    {begun : Debugger σ} {ended : Bool} (hcall : lastCall? history = some (begun, ended)) :
    ∃ earlier, Run earlier begun := by
  induction h generalizing ended with
  | start environment console suppressed => cases hcall
  | @step history d hrun move ih =>
    rw [lastCall?] at hcall
    split at hcall
    · obtain ⟨rfl, -⟩ := Prod.mk.inj (Option.some.inj hcall)
      exact ⟨history, hrun⟩
    · obtain ⟨⟨_, _⟩, hbefore, heq⟩ := Option.map_eq_some_iff.1 hcall
      obtain ⟨rfl, -⟩ := Prod.mk.inj heq
      exact ih hbefore

/-- What is kept is dated from the last call. -/
theorem Run.dates {history : List (Step σ)} {d : Debugger σ} (h : Run history d)
    {begun : Debugger σ} {ended : Bool} (hcall : lastCall? history = some (begun, ended)) :
    ∃ new, Dates begun ended new d := by
  induction h generalizing ended with
  | start environment console suppressed => cases hcall
  | @step history d hrun move ih =>
    rw [lastCall?] at hcall
    split at hcall
    · obtain ⟨rfl, rfl⟩ := Prod.mk.inj (Option.some.inj hcall)
      exact (Dates.begin d).next move
    · obtain ⟨⟨_, _⟩, hbefore, heq⟩ := Option.map_eq_some_iff.1 hcall
      obtain ⟨rfl, rfl⟩ := Prod.mk.inj heq
      obtain ⟨_, hdates⟩ := ih hbefore
      exact hdates.next move

/-- What is kept of a file was read from it. -/
theorem Run.exists_read {history : List (Step σ)} {d : Debugger σ} (h : Run history d)
    {path : String} {lines : List String} (hkept : d.texts.find? (.path path) = some lines) :
    ∃ text, .read path (.ok text) ∈ d.exchanges ∧ lines = Text.lines text := by
  -- seen from the beginning of the run, when nothing was kept
  have hdates : ∃ begun ended new, begun.texts = {} ∧ Dates (σ := σ) begun ended new d := by
    clear hkept
    induction h with
    | start environment console suppressed => exact ⟨_, _, _, rfl, Dates.begin _⟩
    | @step history d hrun move ih =>
      obtain ⟨begun, ended, new, hbegun, hdates⟩ := ih
      obtain ⟨new', hnext⟩ := hdates.next move
      exact ⟨begun, _, new', hbegun, hnext⟩
  obtain ⟨begun, ended, new, hbegun, hdates⟩ := hdates
  obtain ⟨text, hread, hlines⟩ := hdates.new path lines (.inr (by rw [hbegun]; rfl)) hkept
  exact ⟨text, hdates.exchanges ▸ List.mem_append_left _ hread, hlines⟩

namespace Debugger

/-- Lines of a file are cut out of what is kept of it then. -/
theorem sourceLines_file_spec {d : Debugger σ} {path : String} {source : Source}
    (hsource : source.IsFile path) {start length : Nat} {lines : List String} {d' : Debugger σ}
    (hrun : sourceLines source start length d = (.ok lines, d')) :
    KeepsDates d d' ∧ ∃ all, d'.texts.find? (.path path) = some all ∧
      lines = window all start length := by
  have hkeeps : KeepsDates d (sourceLines source start length d).2 := within_sourceLines _ _ _ d
  have hkey : source.key? = some (.path path) := by rw [Source.key?, hsource.1, hsource.2]; rfl
  rw [hrun] at hkeeps
  obtain ⟨hlines, hkept⟩ := sourceLines_spec hrun
  exact ⟨hkeeps, _, hkept _ hkey, hlines⟩

/-- What is shown of files after a call that was made in an earlier debugger. -/
structure ShowsFiles (begun : Debugger σ) (ended : Bool) (d : Debugger σ) : Prop where
  /-- What is looked up, at once or after anything that spares files, is cut out of a text of the
  file.  It was read after the call if and only if a session has ended since the call was made or no
  text of the file was kept then; otherwise the file was read before, and not again since. -/
  served : ∀ d₁, Spares d d₁ → ∀ path source, source.IsFile path →
    ∀ start length lines d₂, sourceLines source start length d₁ = (.ok lines, d₂) →
      ∃ text, lines = window (Text.lines text) start length ∧
        (ReadBetween path text begun d₂ ↔ ended ∨ begun.texts.find? (.path path) = none) ∧
        (ReadBetween path text begun d₂ ∨ .read path (.ok text) ∈ begun.exchanges ∧
          ∀ other, ¬ReadBetween path other begun d₂)
  /-- What a stop looks up, if anything, it looks up after what spares files. -/
  stops : ∀ body, ShowsAfter SparesOn d (onStopped body d).2

end Debugger

/-- **What is shown of files after a restart** was read after it, unless it was kept before and no
session has ended since. -/
theorem Run.fresh_iff {history : List (Step σ)} {d : Debugger σ} (h : Run history d)
    {begun : Debugger σ} {ended : Bool} (hcall : lastCall? history = some (begun, ended)) :
    ShowsFiles begun ended d where
  served d₁ hspares path source hsource start length lines d₂ hrun := by
    obtain ⟨hkeeps, all, hkept, rfl⟩ := sourceLines_file_spec hsource hrun
    obtain ⟨_, hdates⟩ := h.dates hcall
    obtain ⟨_, hdates⟩ := hdates.spares hspares
    obtain ⟨new, hdates⟩ := hkeeps.dates hdates
    have hread {text : String} : ReadBetween path text begun d₂ ↔ .read path (.ok text) ∈ new :=
      readBetween_iff hdates.exchanges
    by_cases hfresh : ended ∨ begun.texts.find? (.path path) = none
    · obtain ⟨text, hmem, rfl⟩ := hdates.new path all hfresh hkept
      exact ⟨text, rfl, iff_of_true (hread.2 hmem) hfresh, .inl (hread.2 hmem)⟩
    -- what was kept is kept still, and was read before
    · obtain ⟨hended, hbefore⟩ := not_or.1 hfresh
      obtain ⟨before, hbefore⟩ := Option.ne_none_iff_exists'.1 hbefore
      obtain ⟨hstill, hunread⟩ := hdates.old (by simpa using hended) path before hbefore
      obtain rfl := Option.some.inj (hkept.symm.trans hstill)
      obtain ⟨earlier, hearlier⟩ := h.exists_of_lastCall? hcall
      obtain ⟨text, hmem, rfl⟩ := hearlier.exists_read hbefore
      have hnot (other : String) : ¬ReadBetween path other begun d₂ := fun hsince =>
        hunread other (hread.1 hsince)
      exact ⟨text, rfl, iff_of_false (hnot text) hfresh, .inr ⟨hmem, hnot⟩⟩
  stops body := showsAfter_onStopped body d

/-- The file at `/a.c`. -/
def fileSource : Source := { path := some "/a.c" }

theorem fileSource_isFile : fileSource.IsFile "/a.c" := ⟨rfl, rfl⟩

/-- An adapter beside which the file holds this text. -/
def Script.filing (text : String) : Script where
  files := { files := [(["a.c"], Utf8.encode text)] }

/-- The file is looked up before there is a session, and changes before a launch. -/
def Script.preceding : List (Move Script) :=
  [ .operate (.sourceLines fileSource 1 5), .elsewhere fun _ => filing "new",
    .operate (.launch launched) ]

theorem Script.lastCall?_preceding :
    let run := Move.steps preceding [] (rehearse (filing "old"))
    ∃ begun, lastCall? run.1 = some (begun, false) ∧
      begun.texts.find? (.path "/a.c") = some ["old"] := by
  intro run
  have hcall : (lastCall? run.1).map (fun call => (call.1.texts.find? (.path "/a.c"), call.2)) =
      some (some ["old"], false) := by decide +kernel
  obtain ⟨⟨begun, ended⟩, hcall, heq⟩ := Option.map_eq_some_iff.1 hcall
  obtain ⟨hkept, rfl⟩ := Prod.mk.inj heq
  exact ⟨begun, hcall, hkept⟩

theorem Script.sourceLines_preceding :
    let run := Move.steps preceding [] (rehearse (filing "old"))
    ∃ d, sourceLines fileSource 1 5 run.2 = (.ok ["old"], d) := by
  intro run
  have hlines : (sourceLines fileSource 1 5 run.2).1.toOption = some ["old"] := by decide +kernel
  rcases hrun : sourceLines fileSource 1 5 run.2 with ⟨e | lines, d⟩ <;> rw [hrun] at hlines
  · cases hlines
  · obtain rfl := Option.some.inj hlines
    exact ⟨d, rfl⟩

/-- The file has changed, but is not read again after the launch. -/
theorem Run.fresh_iff_scripted :
    let run := Move.steps Script.preceding [] (Script.rehearse (Script.filing "old"))
    ∃ begun, lastCall? run.1 = some (begun, false) ∧ ShowsFiles begun false run.2 ∧
      ∃ d text, sourceLines fileSource 1 5 run.2 = (.ok ["old"], d) ∧
        .read "/a.c" (.ok text) ∈ begun.exchanges ∧ ["old"] = window (Text.lines text) 1 5 ∧
        ∀ other, ¬ReadBetween "/a.c" other begun d := by
  intro run
  obtain ⟨begun, hcall, hkept⟩ := Script.lastCall?_preceding
  obtain ⟨d, hrun⟩ := Script.sourceLines_preceding
  have hshows : ShowsFiles begun false run.2 := Run.fresh_iff ((Run.start _ _ _).steps _) hcall
  obtain ⟨text, hlines, hiff, hcases⟩ :=
    hshows.served run.2 (refl_of Spares _) "/a.c" fileSource fileSource_isFile 1 5 _ d hrun
  have hold : ¬(((false : Bool) : Prop) ∨ begun.texts.find? (.path "/a.c") = none) := by
    rw [hkept]
    nofun
  obtain ⟨hbefore, hnot⟩ := hcases.resolve_left (hold ∘ hiff.1)
  exact ⟨begun, hcall, hshows, d, text, hrun, hbefore, hlines, hnot⟩

/-- It is not so that all that is shown of files was read after the last call. -/
theorem Run.not_always_fresh :
    ¬∀ (history : List (Step Script)) (d : Debugger Script), Run history d →
      ∀ begun ended, lastCall? history = some (begun, ended) →
      ∀ path source, source.IsFile path → ∀ start length lines d',
      sourceLines source start length d = (.ok lines, d') →
        ∃ text, ReadBetween path text begun d' ∧ lines = window (Text.lines text) start length := by
  intro hfresh
  obtain ⟨begun, hcall, hkept⟩ := Script.lastCall?_preceding
  obtain ⟨d, hrun⟩ := Script.sourceLines_preceding
  let run := Move.steps Script.preceding [] (Script.rehearse (Script.filing "old"))
  have hbefore : Run run.1 run.2 := (Run.start _ _ _).steps _
  obtain ⟨text, hread, -⟩ :=
    hfresh _ _ hbefore begun _ hcall "/a.c" fileSource fileSource_isFile 1 5 _ d hrun
  obtain ⟨_, hdates⟩ := hbefore.dates hcall
  obtain ⟨new, hdates⟩ := (sourceLines_file_spec fileSource_isFile hrun).1.dates hdates
  exact (hdates.old rfl "/a.c" _ hkept).2 text ((readBetween_iff hdates.exchanges).1 hread)

end DebugConsole
