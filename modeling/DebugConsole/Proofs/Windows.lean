/-
# Windows of a source

A window is asked for by the number of its first line and by its length, and may lie anywhere: it
may start at line 0, and reach beyond the last line and beyond the greatest machine word.

| | |
| --- | --- |
| `window_eq_linesNumbered` | what is cut out are the lines with the numbers asked for |
| `cut?_eq_some` | the same in machine words, where no step leaves the words or the list |
| `linesNumbered_append` | a window that starts where another ends continues it |
| `Debugger.sourceLines_windows` | all of this of the lines that are looked up |

A list of lines is taken to have a machine word for its length, as every list in memory has.
-/

import DebugConsole.Proofs.Excerpts

namespace DebugConsole

open Protocol

variable {σ : Type}

/-! ### Numbers of lines -/

/-- The lines with so many numbers from a number on, as far as there are any.  Line 0 stands for
line 1. -/
def linesNumbered (lines : List String) (start length : Nat) : List String :=
  (List.range' (max start 1) length).filterMap (lineAt? lines)

/-- The lines under consecutive numbers are a stretch of the text. -/
theorem filterMap_lineAt? {first : Nat} (hfirst : 1 ≤ first) (lines : List String) (length : Nat) :
    (List.range' first length).filterMap (lineAt? lines) =
      (lines.drop (first - 1)).take length := by
  induction length generalizing first with
  | zero => rw [List.range'_zero, List.filterMap_nil, List.take_zero]
  | succ length ih =>
    have hline : lineAt? lines first = lines[first - 1]? := lineAt?_add hfirst lines 0
    rw [List.range'_succ, List.filterMap_cons, ih (Nat.le_succ_of_le hfirst), hline,
      Nat.succ_sub_one]
    by_cases hbeyond : lines.length ≤ first - 1
    · rw [List.getElem?_eq_none hbeyond, List.drop_eq_nil_of_le hbeyond,
        List.drop_eq_nil_of_le (by omega), List.take_nil, List.take_nil]
    · have hlt : first - 1 < lines.length := by omega
      rw [List.getElem?_eq_getElem hlt, List.drop_eq_getElem_cons hlt, List.take_succ_cons,
        Nat.sub_add_cancel hfirst]

/-- Counting starts at the first line, also where it is asked to start before it. -/
theorem linesNumbered_eq (lines : List String) (start length : Nat) :
    linesNumbered lines start length = (lines.drop (max start 1 - 1)).take length :=
  filterMap_lineAt? (le_max_right _ _) lines length

/-- A window that starts where another ends continues it. -/
theorem linesNumbered_append {start : Nat} (hstart : 1 ≤ start) (lines : List String)
    (length more : Nat) :
    linesNumbered lines start length ++ linesNumbered lines (start + length) more =
      linesNumbered lines start (length + more) := by
  have hbehind : max (start + length) 1 = max start 1 + length := by omega
  rw [linesNumbered, linesNumbered, linesNumbered, hbehind, ← List.filterMap_append,
    List.range'_append_1]

/-- **What is cut out are the lines with these numbers.** -/
theorem window_eq_linesNumbered {lines : List String} (h : lines.length < UInt64.size)
    (start length : Nat) : window lines start length = linesNumbered lines start length := by
  have hfirst : 1 ≤ max start 1 := le_max_right _ _
  refine List.ext_getElem? fun i => ?_
  rw [getElem?_window, linesNumbered_eq, List.getElem?_take, List.getElem?_drop, lineAt?_add hfirst]
  by_cases hword : max start 1 + i < UInt64.size
  · simp only [hword, and_true]
  · -- there is no line whose number is no word
    rw [if_neg (by omega), List.getElem?_eq_none (by omega), ite_self]

/-! ### Machine words -/

/-- The word before this one, if there is one. -/
def previous? (n : UInt64) : Option UInt64 := if n = 0 then none else some (n - 1)

/-- The sum of two words, the greatest word where it wraps around. -/
def sumOrGreatest (a b : UInt64) : UInt64 := if a + b < a then -1 else a + b

/-- The lines between two places of a list, if these are in order and in the list. -/
def slice? (lines : List String) (first stop : UInt64) : Option (List String) :=
  if first ≤ stop ∧ stop.toNat ≤ lines.length then
    some ((lines.take stop.toNat).drop first.toNat)
  else none

/-- A window cut out in machine words; none where a step leaves the words or the list. -/
def cut? (lines : List String) (start length : UInt64) : Option (List String) := do
  let count := UInt64.ofNat lines.length
  let first := max start 1
  if count < first then return []
  let stop := min (sumOrGreatest (← previous? first) length) count
  slice? lines (← previous? first) stop

/-- A sum that would overflow is the greatest number. -/
theorem toNat_sumOrGreatest (a b : UInt64) :
    (sumOrGreatest a b).toNat = addSaturating a.toNat b.toNat := by
  have ha := a.toNat_lt
  have hb := b.toNat_lt
  have hsum : (a + b).toNat = (a.toNat + b.toNat) % UInt64.size := UInt64.toNat_add a b
  have hsize : UInt64.size = 2 ^ 64 := rfl
  rw [hsize] at hsum
  rw [sumOrGreatest, addSaturating, hsize]
  split_ifs with hwraps <;> rw [UInt64.lt_iff_toNat_lt] at hwraps
  · have hgreatest : (-1 : UInt64).toNat = 2 ^ 64 - 1 := rfl
    omega
  · omega

/-- The larger of a number and one is so without bounds as well. -/
theorem toNat_max_one (n : UInt64) : (max n 1).toNat = max n.toNat 1 := by
  show (if n ≤ 1 then 1 else n).toNat = _
  rw [max_def, apply_ite UInt64.toNat]
  exact if_congr UInt64.le_iff_toNat_le rfl rfl

/-- So is the smaller of two numbers. -/
theorem toNat_min (a b : UInt64) : (min a b).toNat = min a.toNat b.toNat := by
  show (if a ≤ b then a else b).toNat = _
  rw [min_def, apply_ite UInt64.toNat]
  exact if_congr UInt64.le_iff_toNat_le rfl rfl

/-- The word before a positive one. -/
theorem previous?_eq_some {n : UInt64} (h : 1 ≤ n.toNat) :
    ∃ m, previous? n = some m ∧ m.toNat = n.toNat - 1 := by
  have hne : n ≠ 0 := by
    rintro rfl
    exact absurd h (by decide)
  exact ⟨n - 1, if_neg hne, UInt64.toNat_sub_of_le n 1 (UInt64.le_iff_toNat_le.2 h)⟩

/-- **In machine words no step of cutting out fails.** -/
theorem cut?_eq_some {lines : List String} (h : lines.length < UInt64.size)
    (start length : UInt64) :
    cut? lines start length = some (window lines start.toNat length.toNat) := by
  have hcount : (UInt64.ofNat lines.length).toNat = lines.length := UInt64.toNat_ofNat_of_lt' h
  have hfirst : 1 ≤ (max start 1).toNat := toNat_max_one start ▸ le_max_right _ _
  obtain ⟨skipped, hskipped, hnat⟩ := previous?_eq_some hfirst
  have hbeyond : UInt64.ofNat lines.length < max start 1 ↔ lines.length < max start.toNat 1 := by
    rw [UInt64.lt_iff_toNat_lt, hcount, toNat_max_one]
  rw [toNat_max_one] at hnat
  unfold cut? window
  simp only [hskipped, hbeyond]
  split_ifs with hlt
  · rfl
  -- the places between which the lines lie
  have hstop : (min (sumOrGreatest skipped length) (UInt64.ofNat lines.length)).toNat =
      min (addSaturating (max start.toNat 1 - 1) length.toNat) lines.length := by
    rw [toNat_min, toNat_sumOrGreatest, hnat, hcount]
  show slice? lines skipped (min (sumOrGreatest skipped length) (UInt64.ofNat lines.length)) = _
  have hskippedlt := skipped.toNat_lt
  have hsize : UInt64.size = 2 ^ 64 := rfl
  rw [slice?, if_pos, hstop, hnat]
  rw [UInt64.le_iff_toNat_le, hstop, hnat, addSaturating]
  omega

/-! ### Lines that are looked up -/

namespace Debugger

variable [Environment σ]

open DebugConsole.Action

/-- All lines of a source, obtained where they are not kept yet. -/
def allLines (source : Source) : Action σ (List String) :=
  match source.key? with
  | some (.reference held) => do
    requireSession false
    keptLines (.reference held) (obtain (.reference held))
  | some (.path path) => keptLines (.path path) (obtain (.path path))
  | none => return []

/-- What is looked up is cut out of all lines. -/
theorem sourceLines_eq (source : Source) (start length : Nat) :
    (sourceLines source start length : Action σ (List String)) =
      (do return window (← allLines source) start length) := by
  unfold sourceLines allLines Source.key?
  cases source.reference.filter (· ≠ 0) with
  | some held => exact (bind_assoc _ _ _).symm
  | none =>
    cases source.path with
    | some path => rfl
    | none => exact congrArg pure (window_nil start length).symm

/-- Source lines are a window of all lines. -/
theorem sourceLines_of_allLines {source : Source} {d d' : Debugger σ} {all : List String}
    (h : allLines source d = (.ok all, d')) (start length : Nat) :
    sourceLines source start length d = (.ok (window all start length), d') := by
  rw [sourceLines_eq, bind_apply, h]
  rfl

/-- Lines that were obtained are kept, and found when they are looked up again. -/
theorem keptLines_again {key : SourceTexts.Key} {d d' : Debugger σ} {all : List String}
    (h : keptLines key (obtain key) d = (.ok all, d')) :
    keptLines key (obtain key) d' = (.ok all, d') := by
  obtain ⟨rfl, hkept⟩ := keptLines_obtain_spec h
  rw [keptLines_apply, hkept]

/-- **Lines obtained once are kept**: obtained again, they are the same and nothing changes. -/
theorem allLines_again {source : Source} {d d' : Debugger σ} {all : List String}
    (h : allLines source d = (.ok all, d')) : allLines source d' = (.ok all, d') := by
  unfold allLines at h ⊢
  cases hkey : source.key? with
  | none =>
    rw [hkey] at h
    cases h
    rfl
  | some key =>
  rw [hkey] at h
  rcases key with held | path
  · -- the session that the text is asked of goes on
    have hquiet : Quiet d (keptLines (.reference held) (obtain (.reference held)) d).2 :=
      related_keptLines (fun _ _ => .of_eq) _ (quiet_send rfl d)
    dsimp only at h ⊢
    rw [requireSession_bind_apply] at h ⊢
    split_ifs at h with hsession hphase
    · cases h
    · cases h
    · rw [h] at hquiet
      have hopen : ¬ d'.session.isNone := by
        rw [← Option.not_isSome, hquiet.session, Option.not_isSome]
        exact hsession
      rw [if_neg hopen, if_neg (hquiet.phase ▸ hphase)]
      exact keptLines_again h
  · exact keptLines_again h

/-- **Windows of a source.**  Of a source whose lines are known or can be obtained, every window is
shown: its lines are those with the numbers asked for that exist, in order.  Cutting it out in
machine words never leaves the words or the list.  And a window that starts where another ends
continues it. -/
theorem sourceLines_windows {source : Source} {d d' : Debugger σ} {all : List String}
    (hall : allLines source d = (.ok all, d')) (hsize : all.length < UInt64.size)
    (start length : UInt64) :
    let shown := linesNumbered all start.toNat length.toNat
    sourceLines source start.toNat length.toNat d = (.ok shown, d') ∧
      cut? all start length = some shown ∧
      ∀ more : UInt64, 1 ≤ start → start.toNat + length.toNat < UInt64.size →
        length.toNat + more.toNat < UInt64.size →
        ∃ next, sourceLines source (start + length).toNat more.toNat d' = (.ok next, d') ∧
          sourceLines source start.toNat (length + more).toNat d' = (.ok (shown ++ next), d') := by
  have hshown (d₁ : Debugger σ) (h : allLines source d₁ = (.ok all, d')) (first count : Nat) :
      sourceLines source first count d₁ = (.ok (linesNumbered all first count), d') := by
    rw [sourceLines_of_allLines h, window_eq_linesNumbered hsize]
  refine ⟨hshown d hall _ _, ?_, fun more hstart hfirst hlength => ?_⟩
  · rw [cut?_eq_some hsize, window_eq_linesNumbered hsize]
  · have hbehind : (start + length).toNat = start.toNat + length.toNat := by
      rw [UInt64.toNat_add]
      exact Nat.mod_eq_of_lt hfirst
    have hlonger : (length + more).toNat = length.toNat + more.toNat := by
      rw [UInt64.toNat_add]
      exact Nat.mod_eq_of_lt hlength
    have hagain := hshown d' (allLines_again hall)
    have hnumber : 1 ≤ start.toNat := UInt64.le_iff_toNat_le.1 hstart
    refine ⟨_, hagain _ _, ?_⟩
    rw [hagain, hbehind, hlonger, linesNumbered_append hnumber]

/-- The second line of a file, and then as many lines as a machine word can say. -/
theorem sourceLines_windows_scripted :
    let d : Debugger Script := Script.rehearse Script.listing
    let source := Source.ofPath "/a.c"
    ∃ d', allLines source d = (.ok ["one", "two", "three"], d') ∧
      sourceLines source 2 1 d = (.ok ["two"], d') ∧
      ∃ next, sourceLines source 3 18446744073709551614 d' = (.ok next, d') ∧
        sourceLines source 2 18446744073709551615 d' = (.ok (["two"] ++ next), d') := by
  intro d source
  have hlines : (allLines source d).1.toOption = some ["one", "two", "three"] := by decide +kernel
  rcases hall : allLines source d with ⟨e | all, d'⟩ <;> rw [hall] at hlines
  · cases hlines
  obtain rfl := Option.some.inj hlines
  obtain ⟨hshown, -, hnext⟩ := sourceLines_windows hall (by decide) 2 1
  have htwo : linesNumbered ["one", "two", "three"] 2 1 = ["two"] := by decide
  have hnumbers : (2 : UInt64).toNat = 2 ∧ (1 : UInt64).toNat = 1 := ⟨rfl, rfl⟩
  rw [hnumbers.1, hnumbers.2, htwo] at hshown hnext
  exact ⟨d', rfl, hshown, hnext 18446744073709551614 (by decide) (by decide) (by decide)⟩

end Debugger
end DebugConsole
