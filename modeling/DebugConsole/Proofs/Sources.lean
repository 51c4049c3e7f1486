/-
# Texts do not outlive their session

An adapter gives out references for the texts that it holds, and the next adapter gives out the
same ones for other texts.  What a debugger was told under a reference is read off the questions
that it has asked (`Debugger.obtained`); what it keeps under a reference is, at any time, the first
text that it obtained for it on the connection of the open session, and without a session nothing
(`Debugger.HoldsOwn`).

| relation | says of two debuggers |
| --- | --- |
| `Abstains` | in between no text was obtained, kept or forgotten |
| `KeepsOwn` | the session goes on, and `HoldsOwn` is preserved |

Lines are looked up where the user asks for them, and where the first stop of a program is shown; in
the latter case only after the adapter has said where the program stands (`shows_onStopped`).
-/

import DebugConsole.Proofs.Configuration
import DebugConsole.Proofs.Passage
import DebugConsole.Proofs.Reencoding

namespace DebugConsole

open Protocol

variable {σ α : Type}

/-! ### Texts that are kept -/

namespace SourceTexts

/-- What is kept under a key is found there. -/
theorem find?_keep_self (texts : SourceTexts) (key : Key) (lines : List String) :
    (texts.keep key lines).find? key = some lines := if_pos rfl

/-- Keeping a text under one key leaves the texts under the others alone. -/
theorem find?_keep_of_ne {key other : Key} (h : key ≠ other) (texts : SourceTexts)
    (lines : List String) : (texts.keep key lines).find? other = texts.find? other := if_neg h

end SourceTexts

theorem window_nil (start length : Nat) : window [] start length = [] :=
  if_pos (by simp)

/-- What the text of a source is kept under.  A text that an adapter holds goes before a file. -/
def Protocol.Source.key? (source : Source) : Option SourceTexts.Key :=
  match source.reference.filter (· ≠ 0) with
  | some held => some (.reference held)
  | none => source.path.map .path

/-! ### Texts that were obtained -/

/-- The text that a question has obtained for a reference on a connection. -/
def Exchange.text? (connection : Nat) (reference : Int64) : Exchange → Option String
  | .request asked answer =>
    if asked.connection = connection ∧ asked.command = "source" ∧
        (asked.arguments.bind SourceArguments.ofJson?).map (·.sourceReference) = some reference then
      ((Call.source { sourceReference := reference }).result answer).toOption
    else none
  | _ => none

/-- Only a source request brings a text. -/
theorem Exchange.text?_of_command_ne {asked : Request} (h : asked.command ≠ "source")
    (answer : Except Error Json) (connection : Nat) (reference : Int64) :
    (Exchange.request asked answer).text? connection reference = none :=
  if_neg fun hasked => h hasked.2.1

/-- A call of another command obtains no text, whatever becomes of it. -/
theorem Exchange.IsOf.text?_eq_none {asked : Nat} {call : Call α} {e : Exchange}
    (h : IsOf asked call e) (hcommand : call.command ≠ "source") (connection : Nat)
    (reference : Int64) : e.text? connection reference = none := by
  cases h with
  | request answer => exact text?_of_command_ne hcommand answer connection reference
  | abandoned reason => rfl

/-- A call for a text obtains it on its own connection, for its own reference. -/
theorem Exchange.text?_source (asked connection : Nat) (held reference : Int64)
    (answer : Except Error Json) :
    (Exchange.request ((Call.source { sourceReference := held }).on asked) answer).text? connection
        reference =
      if asked = connection ∧ held = reference then
        ((Call.source { sourceReference := held }).result answer).toOption
      else none := by
  have harguments : (((Call.source { sourceReference := held }).on asked).arguments.bind
      SourceArguments.ofJson?).map (·.sourceReference) = some held :=
    congrArg _ (SourceArguments.retrieves.read_write { sourceReference := held })
  have hcommand : ((Call.source { sourceReference := held }).on asked).command = "source" := rfl
  have hconnection : ((Call.source { sourceReference := held }).on asked).connection = asked := rfl
  simp only [text?, harguments, hcommand, hconnection, true_and, Option.some.injEq]
  split_ifs with hsame
  · rw [hsame.2]
  · rfl

namespace Debugger

/-- The texts that were obtained for a reference on a connection, in their order. -/
def obtained (d : Debugger σ) (connection : Nat) (reference : Int64) : List String :=
  (d.exchanges.filterMap (·.text? connection reference)).reverse

/-- The texts obtained are read off the exchanges. -/
theorem obtained_of_exchanges_eq {d d' : Debugger σ} (h : d'.exchanges = d.exchanges)
    (connection : Nat) (reference : Int64) :
    d'.obtained connection reference = d.obtained connection reference := by
  rw [obtained, obtained, h]

/-- An exchange adds its text, if it has one, after the ones obtained before. -/
theorem obtained_of_cons {d d' : Debugger σ} {e : Exchange}
    (h : d'.exchanges = e :: d.exchanges) (connection : Nat) (reference : Int64) :
    d'.obtained connection reference =
      d.obtained connection reference ++ (e.text? connection reference).toList := by
  rw [obtained, obtained, h, List.filterMap_cons]
  cases e.text? connection reference with
  | none => exact (List.append_nil _).symm
  | some text => exact List.reverse_cons

/-- A question that obtains nothing may be left out. -/
theorem obtained_of_cons_none {d d' : Debugger σ} {e : Exchange}
    (h : d'.exchanges = e :: d.exchanges)
    (hnone : ∀ connection reference, e.text? connection reference = none)
    (connection : Nat) (reference : Int64) :
    d'.obtained connection reference = d.obtained connection reference := by
  rw [obtained_of_cons h, hnone, Option.toList_none, List.append_nil]

theorem obtained_of_source {d d' : Debugger σ} {held : Int64} {answer : Except Error Json}
    (h : d'.exchanges =
      .request ((Call.source { sourceReference := held }).on d.generation) answer :: d.exchanges)
    (connection : Nat) (reference : Int64) :
    d'.obtained connection reference = d.obtained connection reference ++
      if d.generation = connection ∧ held = reference then
        ((Call.source { sourceReference := held }).result answer).toOption.toList
      else [] := by
  rw [obtained_of_cons h, Exchange.text?_source]
  split_ifs <;> rfl

/-! ### Abstaining -/

/-- No text of an adapter was obtained, kept or forgotten, and the session goes on. -/
structure Abstains (d d' : Debugger σ) : Prop where
  session : d'.session.isSome = d.session.isSome
  generation : d'.generation = d.generation
  texts : ∀ reference, d'.texts.find? (.reference reference) = d.texts.find? (.reference reference)
  obtained : ∀ connection reference,
    d'.obtained connection reference = d.obtained connection reference

instance : IsPreorder (Debugger σ) Abstains where
  refl _ := ⟨rfl, rfl, fun _ => rfl, fun _ _ => rfl⟩
  trans _ _ _ h₁ h₂ := {
    session := h₂.session.trans h₁.session
    generation := h₂.generation.trans h₁.generation
    texts reference := (h₂.texts reference).trans (h₁.texts reference)
    obtained connection reference :=
      (h₂.obtained connection reference).trans (h₁.obtained connection reference) }

/-- A change of what texts have nothing to do with. -/
theorem Abstains.of_eq {d d' : Debugger σ} (hsession : d'.session.isSome = d.session.isSome)
    (hgeneration : d'.generation = d.generation) (htexts : d'.texts = d.texts)
    (hexchanges : d'.exchanges = d.exchanges) : Abstains d d' :=
  ⟨hsession, hgeneration, fun _ => by rw [htexts], obtained_of_exchanges_eq hexchanges⟩

/-- A question about something else. -/
theorem Abstains.of_cons {d d' : Debugger σ} {e : Exchange}
    (hsession : d'.session.isSome = d.session.isSome)
    (hgeneration : d'.generation = d.generation) (htexts : d'.texts = d.texts)
    (hexchanges : d'.exchanges = e :: d.exchanges)
    (hnone : ∀ connection reference, e.text? connection reference = none) : Abstains d d' :=
  ⟨hsession, hgeneration, fun _ => by rw [htexts], obtained_of_cons_none hexchanges hnone⟩

/-- What is kept under a reference is the first text obtained for it on the connection of the open
session; no connection gave out more than one, and later connections none yet. -/
structure HoldsOwn (d : Debugger σ) : Prop where
  held : ∀ reference, d.texts.find? (.reference reference) =
    if d.session.isSome then (d.obtained d.generation reference).head?.map Text.lines else none
  once : ∀ connection reference, (d.obtained connection reference).length ≤ 1
  later : ∀ connection reference, d.generation < connection →
    d.obtained connection reference = []

/-- The session goes on, and so does keeping just its own texts. -/
structure KeepsOwn (d d' : Debugger σ) : Prop where
  session : d'.session.isSome = d.session.isSome
  own : d.HoldsOwn → d'.HoldsOwn

instance : IsPreorder (Debugger σ) KeepsOwn where
  refl _ := ⟨rfl, id⟩
  trans _ _ _ h₁ h₂ := ⟨h₂.session.trans h₁.session, h₂.own ∘ h₁.own⟩

/-- Where no text is asked for and none kept, each text held stays the connection's own. -/
theorem HoldsOwn.of_abstains {d d' : Debugger σ} (hd : d.HoldsOwn) (h : Abstains d d') :
    d'.HoldsOwn where
  held reference := by rw [h.texts, h.session, h.generation, h.obtained, hd.held]
  once connection reference := by
    rw [h.obtained]
    exact hd.once connection reference
  later connection reference hlt := by
    rw [h.obtained]
    exact hd.later connection reference (h.generation ▸ hlt)

/-- What asks for no text keeps the connection's own. -/
theorem Abstains.keepsOwn {d d' : Debugger σ} (h : Abstains d d') : KeepsOwn d d' :=
  ⟨h.session, fun hd => hd.of_abstains h⟩

/-- So does what changes neither the session, the texts nor the exchanges. -/
theorem KeepsOwn.of_eq {d d' : Debugger σ} (hsession : d'.session.isSome = d.session.isSome)
    (hgeneration : d'.generation = d.generation) (htexts : d'.texts = d.texts)
    (hexchanges : d'.exchanges = d.exchanges) : KeepsOwn d d' :=
  (Abstains.of_eq hsession hgeneration htexts hexchanges).keepsOwn

/-- The first text under a reference is kept as soon as it is obtained. -/
theorem HoldsOwn.obtain {d d' : Debugger σ} (hd : d.HoldsOwn) {held : Int64} {text : String}
    {answer : Except Error Json} (hopen : d.session.isSome)
    (hempty : d.obtained d.generation held = [])
    (hanswer : (Call.source { sourceReference := held }).result answer = .ok text)
    (hsession : d'.session.isSome) (hgeneration : d'.generation = d.generation)
    (htexts : d'.texts = d.texts.keep (.reference held) (Text.lines text))
    (hexchanges : d'.exchanges =
      .request ((Call.source { sourceReference := held }).on d.generation) answer :: d.exchanges) :
    d'.HoldsOwn where
  held reference := by
    have hheld := hd.held reference
    rw [if_pos hopen] at hheld
    rw [htexts, if_pos hsession, hgeneration, obtained_of_source hexchanges, hanswer]
    -- under its own reference it is the first text, under others nothing changes
    by_cases hsame : held = reference
    · rw [if_pos ⟨rfl, hsame⟩, ← hsame, hempty, SourceTexts.find?_keep_self]
      rfl
    · have hkey : SourceTexts.Key.reference held ≠ .reference reference :=
        fun h => hsame (SourceTexts.Key.reference.inj h)
      rw [if_neg fun h => hsame h.2, SourceTexts.find?_keep_of_ne hkey, hheld, List.append_nil]
  once connection reference := by
    rw [obtained_of_source hexchanges, hanswer]
    split_ifs with hsame
    · rw [← hsame.1, ← hsame.2, hempty]
      exact Nat.le_refl 1
    · rw [List.append_nil]
      exact hd.once connection reference
  later connection reference hlt := by
    have hother : d.generation ≠ connection := by omega
    rw [obtained_of_source hexchanges, if_neg fun h => hother h.1, List.append_nil]
    exact hd.later connection reference (hgeneration ▸ hlt)

/-- Without a session nothing is kept. -/
theorem HoldsOwn.forget {d d' : Debugger σ} (hd : d.HoldsOwn) (hsession : d'.session = none)
    (hgeneration : d'.generation = d.generation) (htexts : d'.texts = SourceTexts.flush)
    (hobtained : ∀ connection reference,
      d'.obtained connection reference = d.obtained connection reference) : d'.HoldsOwn where
  held reference := by
    rw [htexts, hsession]
    rfl
  once connection reference := hobtained connection reference ▸ hd.once connection reference
  later connection reference hlt :=
    (hobtained connection reference).trans (hd.later connection reference (hgeneration ▸ hlt))

/-- Nothing was obtained yet on a connection that is new. -/
theorem HoldsOwn.begin {d d' : Debugger σ} (hd : d.HoldsOwn) (hclosed : d.session = none)
    (hgeneration : d'.generation = d.generation + 1) (htexts : d'.texts = d.texts)
    (hobtained : ∀ connection reference,
      d'.obtained connection reference = d.obtained connection reference) : d'.HoldsOwn where
  held reference := by
    have hheld := hd.held reference
    have hnew := hd.later (d.generation + 1) reference (Nat.lt_succ_self _)
    rw [hclosed] at hheld
    rw [htexts, hheld, hgeneration, hobtained, hnew]
    exact (ite_self _).symm
  once connection reference := hobtained connection reference ▸ hd.once connection reference
  later connection reference hlt :=
    (hobtained connection reference).trans (hd.later connection reference (by omega))

end Debugger

variable [Environment σ]

open Debugger

namespace Action

/-- A request of another command abstains. -/
theorem abstains_send {call : Call α} (h : call.command ≠ "source") :
    Within Abstains (send call : Action σ α) := fun d => by
  obtain ⟨environment, session, answer, hsession, -, heq⟩ := send_apply call d
  have hof : Exchange.IsOf d.generation call (.request (call.on d.generation) answer) := .request _
  rw [heq]
  exact .of_cons hsession rfl rfl rfl (hof.text?_eq_none h)

omit [Environment σ] in
/-- Putting any other request on record obtains no text. -/
theorem abstains_notes {call : Call α} (h : call.command ≠ "source") :
    Notes (Abstains (σ := σ)) call := fun _ _ _ hof =>
  .of_cons rfl rfl rfl rfl (hof.text?_eq_none h)

end Action

instance : AdmitsReports (Abstains (σ := σ)) where
  session h := h.session
  asks _ := .of_eq Option.isSome_map rfl rfl rfl
  notes h := by
    have hquery : ∀ command ∈ queryCommands, command ≠ "source" := by decide
    exact Action.abstains_notes (hquery _ (by simpa using h))
  canonical _ _ := .of_cons rfl rfl rfl rfl fun _ _ => rfl
  view _ := .of_eq rfl rfl rfl rfl
  threads _ _ := .of_eq rfl rfl rfl rfl
  console _ _ := .of_eq rfl rfl rfl rfl
  live _ _ := .of_eq rfl rfl rfl rfl

instance : AdmitsReports (KeepsOwn (σ := σ)) where
  session h := h.session
  asks _ := .of_eq Option.isSome_map rfl rfl rfl
  notes h d e hd hof := (AdmitsQueries.notes (R := Abstains) h d e hd hof).keepsOwn
  canonical path d := (AdmitsQueries.canonical (R := Abstains) path d).keepsOwn
  view _ := .of_eq rfl rfl rfl rfl
  threads _ _ := .of_eq rfl rfl rfl rfl
  console _ _ := .of_eq rfl rfl rfl rfl
  live _ _ := .of_eq rfl rfl rfl rfl

namespace Debugger

open DebugConsole.Action

/-! ### Looking up -/

/-- Obtains the text that is kept under a key. -/
def obtain : SourceTexts.Key → Action σ String
  | .reference held => send (Call.source { sourceReference := held })
  | .path path => readFile path

/-- The lines under a key: those that are kept, or else those that can be obtained now. -/
def linesUnder (key : SourceTexts.Key) (d : Debugger σ) : List String :=
  (d.texts.find? key).getD (((obtain key d).1.toOption.map Text.lines).getD [])

/-- The lines of a source. -/
def linesOfSource (source : Source) (d : Debugger σ) : List String :=
  (source.key?.map (linesUnder · d)).getD []

/-- The lines of a source are the ones under its key. -/
theorem linesOfSource_of_key {source : Source} {key : SourceTexts.Key} (h : source.key? = some key)
    (d : Debugger σ) : linesOfSource source d = linesUnder key d := by
  rw [linesOfSource, h]
  rfl

/-- What is looked up under a key is kept under it. -/
theorem keptLines_obtain_spec {key : SourceTexts.Key} {d d' : Debugger σ} {all : List String}
    (hrun : keptLines key (obtain key) d = (.ok all, d')) :
    linesUnder key d = all ∧ d'.texts.find? key = some all := by
  rw [keptLines_apply] at hrun
  rw [linesUnder]
  cases hfind : d.texts.find? key with
  | some kept =>
    rw [hfind] at hrun
    obtain ⟨hkept, rfl⟩ := Prod.mk.inj hrun
    exact ⟨Except.ok.inj hkept, hfind.trans (congrArg some (Except.ok.inj hkept))⟩
  | none =>
    rw [hfind] at hrun
    rcases hobtain : obtain key d with ⟨e | text, d₁⟩ <;> rw [hobtain] at hrun
    · cases hrun
    · obtain ⟨hlines, rfl⟩ := Prod.mk.inj hrun
      obtain rfl := Except.ok.inj hlines
      exact ⟨rfl, SourceTexts.find?_keep_self ..⟩

/-- A window is cut from the lines that are kept afterwards. -/
theorem keptLines_window_spec {key : SourceTexts.Key} {start length : Nat} {d d' : Debugger σ}
    {lines : List String}
    (hrun : (keptLines key (obtain key) >>= fun all => pure (window all start length)) d =
      (.ok lines, d')) :
    lines = window (linesUnder key d) start length ∧
      d'.texts.find? key = some (linesUnder key d) := by
  rw [bind_apply] at hrun
  rcases hall : keptLines key (obtain key) d with ⟨e | all, d₁⟩ <;> rw [hall] at hrun
  · cases hrun
  · obtain ⟨hlines, rfl⟩ := Prod.mk.inj hrun
    obtain ⟨rfl, hkept⟩ := keptLines_obtain_spec hall
    exact ⟨(Except.ok.inj hlines).symm, hkept⟩

/-- **What is looked up is cut out of the lines of the source**, which are kept. -/
theorem sourceLines_spec {source : Source} {start length : Nat} {d d' : Debugger σ}
    {lines : List String} (hrun : sourceLines source start length d = (.ok lines, d')) :
    lines = window (linesOfSource source d) start length ∧
      ∀ key, source.key? = some key → d'.texts.find? key = some (linesOfSource source d) := by
  -- a reference and a path are kept alike, each under its key
  have hkeyed {key : SourceTexts.Key} (hkey : source.key? = some key)
      (hkept : lines = window (linesUnder key d) start length ∧
        d'.texts.find? key = some (linesUnder key d)) :
      lines = window (linesOfSource source d) start length ∧
        ∀ key, source.key? = some key → d'.texts.find? key = some (linesOfSource source d) := by
    rw [linesOfSource_of_key hkey]
    refine ⟨hkept.1, fun other hother => ?_⟩
    obtain rfl := Option.some.inj (hkey.symm.trans hother)
    exact hkept.2
  unfold sourceLines at hrun
  cases hheld : source.reference.filter (· ≠ 0) with
  | some held =>
    rw [hheld] at hrun
    dsimp only at hrun
    rw [requireSession_bind_apply] at hrun
    split_ifs at hrun
    · cases hrun
    · cases hrun
    · exact hkeyed (by rw [Source.key?, hheld]) (keptLines_window_spec hrun)
  | none =>
    rw [hheld] at hrun
    cases hpath : source.path with
    | some path =>
      rw [hpath] at hrun
      exact hkeyed (by rw [Source.key?, hheld, hpath]; rfl) (keptLines_window_spec hrun)
    | none =>
      rw [hpath] at hrun
      have hkey : source.key? = none := by rw [Source.key?, hheld, hpath]; rfl
      obtain ⟨hlines, rfl⟩ := Prod.mk.inj hrun
      rw [← Except.ok.inj hlines, linesOfSource, hkey]
      exact ⟨(window_nil start length).symm, nofun⟩

/-- **Looking up a text that the adapter holds.**  It is obtained where it was not obtained on this
connection before, and what is found is the first text that was obtained on it. -/
theorem keptLines_reference_spec {d : Debugger σ} (hd : d.HoldsOwn) (hopen : d.session.isSome)
    (held : Int64) {result : Except Error (List String)} {d' : Debugger σ}
    (hrun : keptLines (.reference held)
      (send (Call.source { sourceReference := held })) d = (result, d')) :
    d'.HoldsOwn ∧ ∀ lines, result = .ok lines → ∃ text,
      (d'.obtained d.generation held).head? = some text ∧ lines = Text.lines text := by
  have hheld := hd.held held
  rw [if_pos hopen] at hheld
  rw [keptLines_apply] at hrun
  cases hfind : d.texts.find? (.reference held) with
  | some kept =>
    -- it was obtained before
    rw [hfind] at hrun hheld
    obtain ⟨rfl, rfl⟩ := Prod.mk.inj hrun
    obtain ⟨text, hfirst, rfl⟩ := Option.map_eq_some_iff.1 hheld.symm
    exact ⟨hd, fun lines hlines => ⟨text, hfirst, (Except.ok.inj hlines).symm⟩⟩
  | none =>
    rw [hfind] at hrun hheld
    have hempty : d.obtained d.generation held = [] :=
      List.head?_eq_none_iff.1 (Option.map_eq_none_iff.1 hheld.symm)
    obtain ⟨environment, session, answer, hsession, -, hsend⟩ :=
      send_apply (Call.source { sourceReference := held }) d
    rw [hsend] at hrun
    cases hanswer : (Call.source { sourceReference := held }).result answer with
    | error e =>
      -- a failure obtains nothing
      rw [hanswer] at hrun
      obtain ⟨rfl, rfl⟩ := Prod.mk.inj hrun
      have habstains : Abstains d { d with
          environment, session
          exchanges :=
            .request ((Call.source { sourceReference := held }).on d.generation) answer ::
              d.exchanges } := by
        refine .of_cons hsession rfl rfl rfl fun connection reference => ?_
        rw [Exchange.text?_source, hanswer]
        split_ifs <;> rfl
      exact ⟨hd.of_abstains habstains, nofun⟩
    | ok text =>
      rw [hanswer] at hrun
      obtain ⟨rfl, rfl⟩ := Prod.mk.inj hrun
      refine ⟨hd.obtain hopen hempty hanswer (hsession.trans hopen) rfl rfl rfl,
        fun lines hlines => ⟨text, ?_, (Except.ok.inj hlines).symm⟩⟩
      rw [obtained_of_source (d := d) rfl, hempty, if_pos ⟨rfl, rfl⟩, hanswer]
      rfl

/-- The text of a file is kept under a key of its own. -/
theorem abstains_keptLines_path (path : String) :
    Within Abstains (keptLines (.path path) (readFile path) : Action σ (List String)) := fun d => by
  have hread : Abstains d (readFile path d).2 := .of_cons rfl rfl rfl rfl fun _ _ => rfl
  rw [keptLines_apply]
  cases d.texts.find? (.path path) with
  | some lines => exact refl_of Abstains d
  | none =>
    dsimp only
    rcases hrun : readFile path d with ⟨e | text, d'⟩ <;> rw [hrun] at hread
    · exact ⟨hread.session, hread.generation, fun _ => rfl, hread.obtained⟩
    · have hkey (reference : Int64) : SourceTexts.Key.path path ≠ .reference reference := nofun
      exact ⟨hread.session, hread.generation,
        fun reference => SourceTexts.find?_keep_of_ne (hkey reference) _ _, hread.obtained⟩

/-- **What is looked up under a reference** is cut out of the first text that was obtained for it on
the connection of the open session. -/
theorem sourceLines_reference_spec {d : Debugger σ} (hd : d.HoldsOwn) {source : Source}
    {held : Int64} (hsource : source.reference = some held) (hzero : held ≠ 0)
    {start length : Nat} {lines : List String} {d' : Debugger σ}
    (hrun : sourceLines source start length d = (.ok lines, d')) :
    d.session.isSome ∧ ∃ text, (d'.obtained d.generation held).head? = some text ∧
      lines = window (Text.lines text) start length := by
  have hheld : source.reference.filter (· ≠ 0) = some held := by
    rw [hsource, Option.filter_some, if_pos (by simpa using hzero)]
  unfold sourceLines at hrun
  rw [hheld] at hrun
  dsimp only at hrun
  rw [requireSession_bind_apply] at hrun
  split_ifs at hrun with hnone hphase
  · cases hrun
  · cases hrun
  have hopen : d.session.isSome := by simpa [Option.isSome_iff_ne_none] using hnone
  rw [bind_apply] at hrun
  rcases hkept : keptLines (.reference held)
    (send (Call.source { sourceReference := held })) d with ⟨e | all, d₁⟩ <;> rw [hkept] at hrun
  · cases hrun
  · obtain ⟨hlines, rfl⟩ := Prod.mk.inj hrun
    obtain ⟨text, hfirst, rfl⟩ := (keptLines_reference_spec hd hopen held hkept).2 all rfl
    exact ⟨hopen, text, hfirst, (Except.ok.inj hlines).symm⟩

end Debugger

instance : AdmitsLookUps (KeepsOwn (σ := σ)) where
  heldText held d hopen :=
    ⟨(AdmitsLookUps.heldText (R := Quiet) held d hopen).session, fun hd =>
      (keptLines_reference_spec hd hopen held rfl).1⟩
  fileText path d := (abstains_keptLines_path path d).keepsOwn

instance : AdmitsTalk (KeepsOwn (σ := σ)) where
  configuring h := by
    have hconfiguring : ∀ command ∈ configuringCommands, command ≠ "source" := by decide
    exact fun d e hd hof =>
      (Action.abstains_notes (hconfiguring _ (by simpa using h)) d e hd hof).keepsOwn
  breakpoints _ _ := .of_eq rfl rfl rfl rfl
  phase _ _ := .of_eq rfl rfl rfl rfl
  shutdown _ _ := .of_eq rfl rfl rfl rfl
  take d := by
    rcases takeSignal_cases d with heq | ⟨session, signal, taken, hsession, -, heq⟩ <;> rw [heq]
    · exact refl_of KeepsOwn d
    · exact .of_eq (by rw [hsession]; rfl) rfl rfl rfl
  hear _ _ := .of_eq Option.isSome_map rfl rfl rfl
  elsewhere _ _ := .of_eq rfl rfl rfl rfl

namespace Debugger

open DebugConsole.Action

/-! ### Sessions -/

/-- A session takes its texts with it. -/
theorem HoldsOwn.closeSession {d : Debugger σ} (hd : d.HoldsOwn) :
    (closeSession d).2.HoldsOwn := by
  have hcommand (args : DisconnectArguments) : (Call.disconnect args).command ≠ "source" :=
    show "disconnect" ≠ "source" by decide
  rw [closeSession_apply]
  split_ifs
  · exact hd
  have hparts := abstains_send
    (hcommand { restart := false, terminateDebuggee := some d.launches }) { d with session := none }
  rcases hsend : send (Call.disconnect
    { restart := false, terminateDebuggee := some d.launches }) { d with session := none } with
    ⟨_, d'⟩
  rw [hsend] at hparts
  exact hd.forget (by simpa using hparts.session) hparts.generation rfl hparts.obtained

/-- A session begins without texts. -/
theorem HoldsOwn.openSession {d : Debugger σ} (hd : d.HoldsOwn) (hclosed : d.session = none)
    (target : Target) : (openSession target d).2.HoldsOwn := by
  have hcommand (args : InitializeArguments) : (Call.introduce args).command ≠ "source" :=
    show "initialize" ≠ "source" by decide
  rw [openSession_apply]
  obtain ⟨environment, -, ⟨e, hconnect⟩ | hconnect⟩ := connect_cases target.executable
    { d with console := d.console.closeInput, threads := {} } <;> rw [hconnect]
  · exact hd.of_abstains (.of_cons rfl rfl rfl rfl fun _ _ => rfl)
  · have hbegun : HoldsOwn { d with
        console := d.console.closeInput, threads := {}
        environment, session := some {}, generation := d.generation + 1
        exchanges := .connect target.executable (.ok ()) :: d.exchanges } :=
      hd.begin hclosed rfl rfl (obtained_of_cons_none rfl fun _ _ => rfl)
    have hintroduced := hbegun.of_abstains
      (abstains_send (hcommand (InitializeArguments.ofAdapter target.adapterId)) _)
    dsimp only
    split <;> rename_i hsend <;> rw [hsend] at hintroduced
    · exact hintroduced.of_abstains (.of_eq rfl rfl rfl rfl)
    · exact hintroduced

/-- The texts of a session are gone before another one is opened. -/
theorem HoldsOwn.relaunch {d : Debugger σ} (hd : d.HoldsOwn) : (relaunch d).2.HoldsOwn := by
  rcases Option.eq_none_or_eq_some d.target with htarget | ⟨target, htarget⟩
  · rw [relaunch_of_no_target htarget]
    exact hd
  have hprepared : HoldsOwn { d with phase := .initializing } :=
    hd.of_abstains (.of_eq rfl rfl rfl rfl)
  have hopened := hprepared.closeSession.openSession (closeSession_spec _).session target
  rw [relaunch_of_target htarget]
  split <;> rename_i hopen <;> rw [hopen] at hopened
  · exact hopened.of_abstains (.of_eq Option.isSome_map rfl rfl rfl)
  · exact hopened

/-- The answer to the start request brings no text. -/
theorem HoldsOwn.sendStart {d : Debugger σ} (hd : d.HoldsOwn) :
    (Reaction.sendStart d).2.HoldsOwn := by
  rcases sendStart_cases d with heq | ⟨session, mode, hsession, -, heq⟩ <;> rw [heq]
  · exact hd
  · exact hd.of_abstains (.of_cons (by rw [hsession]; rfl) rfl rfl rfl fun _ _ => rfl)

/-- A passage of steps that keep the connection's own texts keeps them. -/
theorem Passage.holdsOwn {d d' : Debugger σ} (h : Passage KeepsOwn d d') (hd : d.HoldsOwn) :
    d'.HoldsOwn := by
  cases h with
  | stays h => exact h.own hd
  | starts heq => exact heq ▸ hd.sendStart
  | closes before after => exact after.own (before.own hd).closeSession
  | relaunches before _ after => exact after.own (before.own hd).relaunch

end Debugger

/-- In every run just the texts of the open session are kept. -/
theorem Run.holdsOwn {history : List (Step σ)} {d : Debugger σ} (h : Run history d) :
    d.HoldsOwn := by
  induction h with
  | start environment console suppressed =>
    exact ⟨fun _ => rfl, fun _ _ => Nat.zero_le 1, fun _ _ _ => rfl⟩
  | @step history d hrun move ih =>
    have hprepared : (move.prepared d).HoldsOwn := by
      unfold Move.prepared
      split
      · exact ih.of_abstains (.of_eq rfl rfl rfl rfl)
      · exact ih
    exact (passage_next move d).holdsOwn hprepared

namespace Debugger

open DebugConsole.Action

/-! ### Stops -/

/-- Looks a line up and shows it with the name of its source; an empty one if that fails. -/
def showLine (name : String) (source : Source) (place : Nat) (d : Debugger σ) : Debugger σ :=
  let (result, d) := sourceLines source place 1 d
  let text := (result.toOption.bind (·.head?)).getD ""
  { d with
    console := (d.console.writeLine (name ++ ":" ++ toString place ++ " " ++ text)).openInput }

/-- What is done, and then, as the last thing, a line looked up and shown, if one is shown. -/
inductive ShowsAfter (R : Debugger σ → Debugger σ → Prop) (d d' : Debugger σ) : Prop
  | nothing (h : R d d')
  | line {d₁ : Debugger σ} (before : R d d₁) (name : String) (source : Source) (place : Nat)
    (heq : d' = showLine name source place d₁)

/-- At most one line is looked up and shown, as the last thing that is done. -/
inductive Shows (d d' : Debugger σ) : Prop
  | nothing (h : Abstains d d')
  | line {d₁ : Debugger σ} (before : Abstains d d₁) (name : String) (source : Source)
    (place : Nat) (heq : d' = showLine name source place d₁)

section Reports

variable {R : Debugger σ → Debugger σ → Prop} [AdmitsReports R]

/-- What is shown later is still shown after what came before. -/
theorem ShowsAfter.after {d d₁ d' : Debugger σ} (h : ShowsAfter R d₁ d') (hbefore : R d d₁) :
    ShowsAfter R d d' := by
  cases h with
  | nothing h => exact .nothing (trans_of R hbefore h)
  | line before name source place heq =>
    exact .line (trans_of R hbefore before) name source place heq

/-- Where a thread stands is known before a line is looked up. -/
theorem topOfStack_cases (threadId : Int64) (d : Debugger σ) :
    R d (topOfStack threadId d).2 ∨ ∃ d₁ name source place, R d d₁ ∧
      topOfStack threadId d =
        let (result, d') := sourceLines source place 1 d₁
        let text := (result.toOption.bind (·.head?)).getD ""
        (.ok (some (name ++ ":" ++ toString place ++ " " ++ text)), d') := by
  have htrace : R d (stackTrace threadId 1 d).2 := within_stackTrace threadId 1 d
  unfold topOfStack
  rw [bind_apply]
  rcases hframes : stackTrace threadId 1 d with ⟨e | frames, d₁⟩ <;> rw [hframes] at htrace
  · exact .inl htrace
  dsimp only
  rcases frames.head? with _ | frame
  · exact .inl htrace
  rcases hsource : frame.source with _ | source <;> simp only [hsource]
  · exact .inl htrace
  rcases source.displayName? with _ | name
  · exact .inl htrace
  refine .inr ⟨d₁, name, source, frame.line.toNat, htrace, ?_⟩
  show (tryCatch (do return (← sourceLines source frame.line.toNat 1).head?.getD "")
    (fun _ => pure "") >>= fun text =>
      pure (some (name ++ ":" ++ toString frame.line.toNat ++ " " ++ text)) :
        Action σ (Option String)) d₁ = _
  rw [bind_apply, tryCatch_apply, bind_apply]
  rcases sourceLines source frame.line.toNat 1 d₁ with ⟨e | lines, d'⟩ <;> rfl

/-- A stop is shown after the thread has got the focus. -/
theorem showsAfter_showStop (threadId : Option Int64) (d : Debugger σ) :
    ShowsAfter R d (showStop threadId d).2 := by
  unfold showStop
  rw [Reaction.bind_apply, Reaction.get_apply]
  rcases threadId.or d.threads.firstStopped? with _ | focus
  · exact .nothing (within_onConsole (·.openInput) d)
  dsimp only
  rw [Reaction.bind_apply]
  have hfocus : R d (Reaction.onThreads (fun ts => (ts.setFocus focus).toOption.getD ts) d).2 :=
    AdmitsReports.threads d _
  refine ShowsAfter.after ?_ hfocus
  generalize (Reaction.onThreads (fun ts => (ts.setFocus focus).toOption.getD ts) d).2 = d₁
  rw [Reaction.bind_apply, Reaction.run_apply]
  rcases topOfStack_cases (R := R) focus d₁ with hlooks | ⟨d₂, name, source, place, hbefore, heq⟩
  · refine .nothing (trans_of R hlooks ?_)
    rcases topOfStack focus d₁ with ⟨_ | _ | line, d₂⟩
    · exact within_onConsole (·.openInput) d₂
    · exact within_onConsole (·.openInput) d₂
    · exact within_onConsole (fun console => (console.writeLine line).openInput) d₂
  · rw [heq]
    exact .line hbefore name source place rfl

/-- **What a stop does about texts.**  Everything else is done before a line is shown. -/
theorem showsAfter_onStopped (body : StoppedBody) (d : Debugger σ) :
    ShowsAfter R d (onStopped body d).2 := by
  have hnote (firstStop : Bool) (d : Debugger σ) : ShowsAfter R d ((do
      if ← noteStopped body then
        if (← get).phase = .running then Reaction.enter .stopped
        if firstStop then showStop body.threadId : Reaction σ Unit) d).2 := by
    have hshow (d : Debugger σ) : ShowsAfter R d ((if firstStop then showStop body.threadId
        else pure () : Reaction σ Unit) d).2 := by
      split
      · exact showsAfter_showStop _ d
      · exact .nothing (refl_of R d)
    have hnoted : R d (noteStopped body d).2 := within_noteStopped body d
    rw [Reaction.bind_apply]
    refine ShowsAfter.after ?_ hnoted
    generalize (noteStopped body d).2 = d₁
    split
    · rw [Reaction.bind_apply, Reaction.get_apply]
      dsimp only
      split
      · rename_i hphase
        exact (hshow _).after (AdmitsReports.live (by rw [hphase]; rfl) rfl)
      · exact hshow d₁
    · exact .nothing (refl_of R d₁)
  unfold onStopped
  rcases body.description with _ | description
  · exact hnote _ d
  · exact (hnote _ _).after (within_onConsole (·.writeLine description) d)

end Reports

/-- A stop abstains from texts until a line is shown. -/
theorem shows_onStopped (body : StoppedBody) (d : Debugger σ) :
    Shows d (onStopped body d).2 := by
  cases showsAfter_onStopped (R := Abstains) body d with
  | nothing h => exact .nothing h
  | line before name source place heq => exact .line before name source place heq

end Debugger

/-- The texts that adapters hold are read each on its own connection. -/
structure Debugger.ReadsOwn (d : Debugger σ) : Prop where
  /-- What is looked up under a reference, at once or after questions about anything else, is cut
  out of the first text that was obtained for it on the connection of the open session. -/
  own : ∀ d₁, Abstains d d₁ → ∀ source held, source.reference = some held → held ≠ 0 →
    ∀ start length lines d₂, sourceLines source start length d₁ = (.ok lines, d₂) →
      d₁.session.isSome ∧ ∃ text, (d₂.obtained d₁.generation held).head? = some text ∧
        lines = window (Text.lines text) start length
  /-- What a stop looks up, if anything, it looks up after such questions. -/
  stops : ∀ body, Shows d (onStopped body d).2
  /-- No connection gives out more than one text for a reference. -/
  once : ∀ connection held, (d.obtained connection held).length ≤ 1

/-- **Texts do not outlive their session.**  In every run what is looked up under a reference comes
from the open session, and its adapter was asked for it successfully once. -/
theorem Run.reads_own {history : List (Step σ)} {d : Debugger σ} (h : Run history d) :
    d.ReadsOwn where
  own _ habstains _ _ hsource hzero _ _ _ _ hrun :=
    sourceLines_reference_spec (h.holdsOwn.of_abstains habstains) hsource hzero hrun
  stops body := shows_onStopped body d
  once := h.holdsOwn.once

/-- A text under the reference 17, which goes before the file. -/
def heldSource : Source := { path := some "/gen.js", reference := some 17 }

/-- An adapter that holds one text for its first session and another one for its second. -/
def holdingScript : Script where
  entries := [("source", ["old\ntext", "new\ntext"].map fun content =>
    { answer := .body (Json.object [("content", .str content)]) })]

/-- One text is looked up in a session, and the other one after a relaunch. -/
theorem Run.reads_own_scripted :
    let run := Move.steps
      [ .operate (.launch Script.launched), .handle (.event 1 .initialized), .operate .run,
        .operate (.sourceLines heldSource 1 5), .operate .relaunch,
        .handle (.event 2 .initialized), .operate .run ] [] (Script.rehearse holdingScript)
    run.2.obtained 1 17 = ["old\ntext"] ∧
      (∀ connection, (run.2.obtained connection 17).length ≤ 1) ∧
      ∃ d' text, sourceLines heldSource 1 5 run.2 = (.ok ["new", "text"], d') ∧
        (d'.obtained 2 17).head? = some text ∧ ["new", "text"] = window (Text.lines text) 1 5 := by
  intro run
  have h : run.2.ReadsOwn := Run.reads_own ((Run.start _ _ _).steps _)
  have hgeneration : run.2.generation = 2 := by decide +kernel
  have hlines : (sourceLines heldSource 1 5 run.2).1.toOption = some ["new", "text"] := by
    decide +kernel
  rcases hrun : sourceLines heldSource 1 5 run.2 with ⟨e | lines, d'⟩ <;> rw [hrun] at hlines
  · cases hlines
  obtain rfl := Option.some.inj hlines
  obtain ⟨-, text, hfirst, hcut⟩ :=
    h.own run.2 (refl_of Abstains _) heldSource 17 rfl (by decide) 1 5 _ d' hrun
  rw [hgeneration] at hfirst
  exact ⟨by decide +kernel, fun connection => h.once connection 17, d', text, rfl, hfirst, hcut⟩

end DebugConsole
