/-
# Locations are read as they are written

`breakpoint` takes a location, a path and a line with a colon between them, and `breakpoint list`
writes one for each breakpoint.  A location is cut at its last colon, which the line has none of,
and whatever its path is it is no subcommand: none of these has a colon.  So a path without blanks
comes back as it was, however many colons it has, and even if it is empty or begins like a
subcommand:

| | |
| --- | --- |
| `location?_locationText` | a location is read back from what is written |
| `words_breakpointRow` | it is the third word of its row in the list |
| `CommandTable.locations_return` | what the two commands make of that |
-/

import DebugConsole.Proofs.Decoding
import DebugConsole.Proofs.Numbers
import DebugConsole.Proofs.Statuses
import DebugConsole.Proofs.Verbatim

namespace DebugConsole

variable {σ : Type}

/-! ### Texts -/

namespace Text

/-- A 32-bit word is read back from its decimals. -/
theorem uint32?_toString (n : UInt32) : uint32? (toString n.toNat) = some n := by
  rw [uint32?, natural?_toString, Option.bind_some, if_pos n.toNat_lt]
  exact congrArg some UInt32.ofNat_toNat

end Text

namespace Builtin

/-- A path and a line as they are typed. -/
def locationText (path : String) (line : UInt32) : String := path ++ ":" ++ toString line.toNat

/-- A location is its path and its line, with a colon between them. -/
theorem toList_locationText (path : String) (line : UInt32) :
    (locationText path line).toList = path.toList ++ ':' :: Nat.toDigits 10 line.toNat := by
  rw [locationText, String.toList_append, String.toList_append, Text.toList_toString,
    List.append_assoc]
  rfl

/-- **A location is read back**, whatever its path. -/
theorem location?_locationText (path : String) (line : UInt32) :
    location? (locationText path line) = some (path, line) := by
  have hcolon : ':' ∉ Nat.toDigits 10 line.toNat := fun hmem =>
    absurd (Text.isDigit_of_mem_toDigits hmem) (by decide)
  have hline : Text.uint32? (String.ofList (Nat.toDigits 10 line.toNat)) = some line := by
    rw [← Nat.toString_eq_ofList_toDigits, Text.uint32?_toString]
  rw [location?, toList_locationText, Text.splitLast?_append hcolon]
  simp [hline]

/-- A location is one word if its path has no blank. -/
theorem isWord_locationText {path : String} (hpath : ∀ c ∈ path.toList, Text.isBlank c = false)
    (line : UInt32) : Text.IsWord (locationText path line) := by
  refine ⟨fun hnil => ?_, fun c hc => ?_⟩
  · have hchars := toList_locationText path line
    rw [hnil] at hchars
    simp at hchars
  · rw [toList_locationText, List.mem_append, List.mem_cons] at hc
    rcases hc with hc | rfl | hc
    · exact hpath c hc
    · decide
    · exact Text.isBlank_of_isDigit (Text.isDigit_of_mem_toDigits hc)

/-- A location is no subcommand, since it has a colon. -/
theorem locationText_ne {word : String} (hword : ':' ∉ word.toList) (path : String)
    (line : UInt32) : locationText path line ≠ word := by
  rintro rfl
  rw [toList_locationText] at hword
  simp at hword

/-- The mark of a breakpoint is one word. -/
theorem isWord_breakpointMark (b : Breakpoint) : Text.IsWord (breakpointMark b) := by
  unfold breakpointMark
  split_ifs <;> decide

/-- So is a number. -/
theorem isWord_toString (n : Nat) : Text.IsWord (toString n) := by
  refine ⟨fun hnil => ?_, fun c hc => ?_⟩
  · have hdigits := congrArg String.toList hnil
    rw [Text.toList_toString] at hdigits
    exact Nat.toDigits_ne_nil hdigits
  · rw [Text.toList_toString] at hc
    exact Text.isBlank_of_isDigit (Text.isDigit_of_mem_toDigits hc)

/-- **The location is the third word of its row** in the list. -/
theorem words_breakpointRow {b : Breakpoint}
    (hpath : ∀ c ∈ b.path.toList, Text.isBlank c = false) :
    Text.words (breakpointRow b) = breakpointMark b :: toString b.index ::
      locationText b.path b.line :: Text.words (typeSuffix b.message) := by
  have hlocation := isWord_locationText hpath b.line
  have hrow : breakpointRow b = " " ++ (" " ++ (breakpointMark b ++ " " ++
      (toString b.index ++ " " ++ (locationText b.path b.line ++ typeSuffix b.message)))) := by
    simp only [breakpointRow, breakpointLocation, locationText, String.append_assoc]
    rfl
  rw [hrow, Text.words_space_append, Text.words_space_append,
    Text.words_append (isWord_breakpointMark b), Text.words_append (isWord_toString b.index)]
  cases b.message with
  | none =>
    have hnone : Text.words (typeSuffix none) = [] := rfl
    rw [hnone, typeSuffix, String.append_empty, Text.words_of_isWord hlocation]
  | some message =>
    have hsuffix : typeSuffix (some message) = " " ++ ("(" ++ message ++ ")") := by
      rw [typeSuffix]
      simp only [← String.append_assoc]
      rfl
    rw [hsuffix, Text.words_space_append, ← String.append_assoc, Text.words_append hlocation]

variable [Environment σ]

/-- What `breakpoint` does with a location. -/
theorem run_breakpoint (path : String) (line : UInt32) :
    (breakpoint : Command σ).run [locationText path line] = setBreakpointAt path line := by
  have hne {word : String} (hword : ':' ∉ word.toList) {rest : List String} :
      [locationText path line] ≠ word :: rest := fun heq =>
    locationText_ne hword path line (List.cons.inj heq).1
  unfold breakpoint
  dsimp only
  split
  · rename_i heq
    exact absurd heq (List.cons_ne_nil _ _)
  · rename_i heq
    exact absurd heq (hne (by decide))
  · rename_i heq
    exact absurd heq (hne (by decide))
  · rename_i heq
    exact absurd heq (hne (by decide))
  · rename_i heq
    exact absurd heq (hne (by decide))
  · rename_i heq
    obtain rfl := (List.cons.inj heq).1
    rw [location?_locationText]
  · rename_i hother
    exact absurd rfl (hother _)

end Builtin

namespace Debugger

variable [Environment σ]

/-- The path is its own canonical form, or has none. -/
def IsCanonical (path : String) (d : Debugger σ) : Prop :=
  ∀ found, Environment.canonical? path d.environment = some found → found = path

/-- One breakpoint was added, with the next number and this path and line; and that succeeds if and
only if each push of breakpoints it takes is answered with one descriptor for each of them. -/
structure Adds (path : String) (line : UInt32) (d : Debugger σ)
    (outcome : Except Error Unit × Debugger σ) : Prop where
  numberings : outcome.2.breakpoints.numberings =
    d.breakpoints.numberings ++ [⟨d.breakpoints.lastIndex + 1, path, line⟩]
  accepted : ∃ pushed, outcome.2.pushes = pushed ++ d.pushes ∧
    (outcome.1 = .ok () ↔ ∀ push ∈ pushed, push.accepted?.isSome)

/-- Asking for the canonical form of such a path changes nothing but the list of questions. -/
theorem canonical_spec {path : String} {d : Debugger σ} (h : IsCanonical path d) :
    ∃ asked, Action.canonical path d = (.ok path, asked) ∧ asked.session = d.session ∧
      asked.breakpoints = d.breakpoints ∧ asked.pushes = d.pushes := by
  have hfound : (Environment.canonical? path d.environment).getD path = path := by
    cases hcanonical : Environment.canonical? path d.environment with
    | none => rfl
    | some found => exact h found hcanonical
  rw [Action.canonical, hfound]
  exact ⟨_, rfl, rfl, rfl, rfl⟩

/-- Setting a breakpoint takes at most one push. -/
theorem accepted_setBreakpoint {d : Debugger σ} (hsession : d.session.isSome) (path : String)
    (line : UInt32) : ∃ pushed, (setBreakpoint path line d).2.pushes = pushed ++ d.pushes ∧
      ((setBreakpoint path line d).1.isOk ↔ ∀ push ∈ pushed, push.accepted?.isSome) := by
  rw [setBreakpoint_apply]
  dsimp only
  rw [if_pos hsession]
  split_ifs
  · obtain ⟨push, -, htells, hiff⟩ :=
      pushPath_spec path { d with breakpoints := d.breakpoints.add path line }
    have hpushes := htells.pushes
    have hall : (∀ p ∈ [push], p.accepted?.isSome) ↔ push.accepted?.isSome :=
      List.forall_mem_singleton
    rcases hrun : pushPath path { d with breakpoints := d.breakpoints.add path line } with
      ⟨e | _, d'⟩ <;> rw [hrun] at hpushes hiff
    · exact ⟨[push], hpushes, iff_of_false nofun fun hone => nomatch hiff.2 (hall.1 hone)⟩
    · exact ⟨[push], hpushes, iff_of_true rfl (hall.2 (hiff.1 rfl))⟩
  · exact ⟨[], rfl, iff_of_true rfl nofun⟩

/-- A path that is canonical gets the breakpoint as it is. -/
theorem adds_setBreakpointAt {path : String} {d : Debugger σ} (hsession : d.session.isSome)
    (hcanonical : IsCanonical path d) (line : UInt32) :
    Adds path line d (Builtin.setBreakpointAt path line d) := by
  obtain ⟨asked, hasked, hopen, hbreakpoints, hbefore⟩ := canonical_spec hcanonical
  rw [← hopen] at hsession
  have hnumberings := (sameIntent_setBreakpoint hsession path line).numberings
  obtain ⟨pushed, hpushes, hiff⟩ := accepted_setBreakpoint hsession path line
  rw [Breakpoints.numberings_add, hbreakpoints] at hnumberings
  rw [hbefore] at hpushes
  rw [Builtin.setBreakpointAt, Action.bind_apply, hasked]
  dsimp only
  rw [Action.bind_apply]
  rcases hset : setBreakpoint path line asked with ⟨e | ⟨index, message⟩, d'⟩ <;>
    rw [hset] at hnumberings hpushes hiff
  · exact ⟨hnumberings, pushed, hpushes, iff_of_false nofun fun hall => nomatch hiff.2 hall⟩
  · dsimp only
    rw [Builtin.sayAll_apply]
    exact ⟨hnumberings, pushed, hpushes, iff_of_true rfl (hiff.1 rfl)⟩

end Debugger

open Debugger

/-! ### Commands -/

/-- What a list of breakpoints says. -/
def Builtin.listing (bs : Breakpoints) : List String :=
  if bs.isEmpty then ["No breakpoints set"]
  else "Breakpoints:" :: bs.list.map breakpointRow

/-- Every breakpoint has a row in the listing. -/
theorem Builtin.breakpointRow_mem_listing {bs : Breakpoints} {b : Breakpoint} (h : b ∈ bs.list) :
    breakpointRow b ∈ listing bs := by
  have hne : ¬bs.isEmpty := fun hempty => List.ne_nil_of_mem h (List.isEmpty_iff.1 hempty)
  rw [listing, if_neg hne]
  exact List.mem_cons_of_mem _ (List.mem_map_of_mem h)

variable [Environment σ]

/-- A location is set as it is typed, and may be typed as it is listed. -/
structure Returns (options : CommandOptions) (path : String) (line : UInt32) (d : Debugger σ) :
    Prop where
  typed : d.session.isSome → IsCanonical path d → Adds path line d
    ((CommandTable.builtin options).dispatch ("breakpoint " ++ Builtin.locationText path line) d)
  /-- A row of the list has a location between its number and its message.  It is the third word of
  the row, and sets the same path and line when it is typed again. -/
  listed : ∀ b ∈ d.breakpoints.list, b.path = path → b.line = line →
    (CommandTable.builtin options).dispatch "breakpoint list" d = (.ok (), { d with
      console := (Builtin.listing d.breakpoints).foldl (fun console row => console.writeLine row)
        d.console }) ∧
    ∃ row ∈ Builtin.listing d.breakpoints, ∃ location,
      row = "  " ++ Builtin.breakpointMark b ++ " " ++ toString b.index ++ " " ++ location ++
        Builtin.typeSuffix b.message ∧
      (Text.words row)[2]? = some location ∧
      ∀ d₂ : Debugger σ, d₂.session.isSome → IsCanonical path d₂ → Adds path line d₂
        ((CommandTable.builtin options).dispatch ("breakpoint " ++ location) d₂)

theorem Builtin.run_list (d : Debugger σ) :
    (breakpoint : Command σ).run ["list"] d = (.ok (), { d with
      console := (listing d.breakpoints).foldl (fun console row => console.writeLine row)
        d.console }) := by
  have hrun : (breakpoint : Command σ).run ["list"] = (do
      let breakpoints := (← get).breakpoints
      if breakpoints.isEmpty then sayAll ["No breakpoints set"]
      else sayAll ("Breakpoints:" :: breakpoints.list.map breakpointRow) : Action σ Unit) := rfl
  rw [hrun, Action.bind_apply, Action.get_apply, listing]
  dsimp only
  split_ifs <;> rw [sayAll_apply]

namespace CommandTable

/-- A location without blanks is typed as one argument. -/
theorem dispatch_location (options : CommandOptions) {path : String}
    (hpath : ∀ c ∈ path.toList, Text.isBlank c = false) (line : UInt32) :
    (builtin options : CommandTable σ).dispatch
      ("breakpoint " ++ Builtin.locationText path line) = Builtin.setBreakpointAt path line := by
  have hdispatch : (builtin options : CommandTable σ).dispatch
      ("breakpoint " ++ Builtin.locationText path line) = Builtin.breakpoint.run _ :=
    dispatch_append "breakpoint" (by decide) rfl _
  rw [hdispatch, Text.words_of_isWord (Builtin.isWord_locationText hpath line),
    Builtin.run_breakpoint]

/-- `breakpoint list` writes the listing and changes nothing. -/
theorem dispatch_list (options : CommandOptions) (d : Debugger σ) :
    (builtin options).dispatch "breakpoint list" d = (.ok (), { d with
      console := (Builtin.listing d.breakpoints).foldl (fun console row => console.writeLine row)
        d.console }) := by
  have hdispatch : (builtin options : CommandTable σ).dispatch "breakpoint list" =
      Builtin.breakpoint.run _ :=
    dispatch_append "breakpoint" (by decide) rfl "list"
  have hwords : Text.words "list" = ["list"] := by decide
  rw [hdispatch, hwords, Builtin.run_list]

/-- **Locations return as they were**, whatever path without blanks they have. -/
theorem locations_return (options : CommandOptions) {path : String}
    (hpath : ∀ c ∈ path.toList, Text.isBlank c = false) (line : UInt32) (d : Debugger σ) :
    Returns options path line d where
  typed hsession hcanonical := by
    rw [dispatch_location options hpath line]
    exact adds_setBreakpointAt hsession hcanonical line
  listed b hb hbpath hbline := by
    subst hbpath hbline
    refine ⟨dispatch_list options d, _, Builtin.breakpointRow_mem_listing hb,
      Builtin.locationText b.path b.line, ?_, ?_, fun d₂ hsession hcanonical => ?_⟩
    · rfl
    · rw [Builtin.words_breakpointRow hpath]
      rfl
    · rw [dispatch_location options hpath b.line]
      exact adds_setBreakpointAt hsession hcanonical b.line

/-- A location it speaks of: its path has a colon and begins like a subcommand. -/
theorem locations_return_colons :
    let d := (Move.steps [.operate (.launch Script.launched)] [] (Script.rehearse {})).2
    let d' := ((builtin {}).dispatch ("breakpoint " ++ "enable:b.c:7") d).2
    (∀ c ∈ "enable:b.c".toList, Text.isBlank c = false) ∧
      d'.breakpoints.numberings = [⟨1, "enable:b.c", 7⟩] ∧
      Returns {} "enable:b.c" 7 d ∧ Returns {} "enable:b.c" 7 d' := by
  intro d d'
  have hword : Text.IsWord "enable:b.c" := by decide
  have hunknown : Environment.canonical? "enable:b.c" d.environment = none := by decide +kernel
  have hcanonical : IsCanonical "enable:b.c" d := fun found hfound => by
    cases hunknown.symm.trans hfound
  have hsession : d.session.isSome := by decide +kernel
  have hnone : d.breakpoints = {} := by decide +kernel
  have htext : Builtin.locationText "enable:b.c" 7 = "enable:b.c:7" := by decide
  have hreturns := locations_return {} hword.solid 7 d
  have hnumberings := (hreturns.typed hsession hcanonical).numberings
  rw [htext, hnone] at hnumberings
  exact ⟨hword.solid, hnumberings, hreturns, locations_return {} hword.solid 7 d'⟩

end CommandTable
end DebugConsole
