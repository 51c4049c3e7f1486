/-
# The numbers of the lines that are listed

`list` numbers its rows from its own first line, and the text is cut out of the source elsewhere.
Both begin with line 1 where they would begin before it, so a row has the number of its line:

| | |
| --- | --- |
| `getElem?_window` | what is cut out, line by line |
| `excerpt_rows` | the rows made of it have the numbers of their lines, and no line is missing |
| `Builtin.list_numbered` | these rows are what `list` writes |

What is said of lines holds of those whose number is a machine word.
-/

import DebugConsole.Proofs.Commands
import DebugConsole.Proofs.Sources
import DebugConsole.Proofs.Statuses

namespace DebugConsole

open Protocol

variable {σ : Type}

/-! ### Windows -/

/-- The line of a text with this number.  Lines are numbered from 1. -/
def lineAt? (lines : List String) (number : Nat) : Option String :=
  if number = 0 then none else lines[number - 1]?

/-- Lines are numbered from 1, so a later number is a later place. -/
theorem lineAt?_add {start : Nat} (h : 1 ≤ start) (lines : List String) (i : Nat) :
    lineAt? lines (start + i) = lines[start - 1 + i]? := by
  rw [lineAt?, if_neg (by omega), Nat.sub_add_comm h]

/-- The numbers from 1 to the length of the list are those of lines. -/
theorem lineAt?_isSome_iff {lines : List String} {number : Nat} :
    (lineAt? lines number).isSome ↔ 1 ≤ number ∧ number ≤ lines.length := by
  unfold lineAt?
  split_ifs with hzero
  · simp [hzero]
  · rw [Option.isSome_iff_ne_none, ne_eq, List.getElem?_eq_none_iff]
    omega

/-- What is cut out, line by line. -/
theorem getElem?_window (lines : List String) (start length i : Nat) :
    (window lines start length)[i]? =
      if i < length ∧ max start 1 + i < UInt64.size then lineAt? lines (max start 1 + i)
      else none := by
  have hfirst : 1 ≤ max start 1 := le_max_right _ _
  rw [lineAt?_add hfirst, window]
  generalize max start 1 = first at hfirst
  dsimp only
  by_cases hbeyond : lines.length < first
  · rw [if_pos hbeyond, List.getElem?_nil, List.getElem?_eq_none (by omega), ite_self]
  · rw [if_neg hbeyond, List.getElem?_drop, List.getElem?_take, addSaturating]
    by_cases hwithin : first - 1 + i < lines.length
    · exact if_congr (by omega) rfl rfl
    · rw [List.getElem?_eq_none (by omega), ite_self, ite_self]

/-- A window has at most the lines that were asked for. -/
theorem length_window_le (lines : List String) (start length : Nat) :
    (window lines start length).length ≤ length := by
  by_contra hlong
  have hlast := getElem?_window lines start length length
  rw [if_neg fun h => absurd h.1 (lt_irrefl _), List.getElem?_eq_none_iff] at hlast
  omega

namespace Builtin

/-! ### Rows -/

/-- A line of source text as `list` shows it. -/
structure Row where
  marked : Bool
  number : Nat
  text : String

/-- A row as it is written. -/
def Row.print (row : Row) : String :=
  (if row.marked then "->" else "  ") ++ " " ++ Text.padLeft 4 (toString row.number) ++ " | " ++
    row.text

/-- The rows of consecutive lines; that of the current line is marked. -/
def rows (current start : Nat) (lines : List String) : List Row :=
  lines.mapIdx fun i text => { marked := start + i = current, number := start + i, text }

/-- The rows of a listing, printed, are what is shown. -/
theorem map_print_rows (current start : Nat) (lines : List String) :
    (rows current start lines).map Row.print = sourceRows current start lines := by
  induction lines generalizing start with
  | nil => rfl
  | cons text rest ih =>
    have hrest : rows current start (text :: rest) =
        { marked := start = current, number := start, text } :: rows current (start + 1) rest := by
      simp only [rows, List.mapIdx_cons, Nat.add_zero, Nat.add_assoc, Nat.add_comm 1]
    rw [hrest, List.map_cons, ih, sourceRows, Row.print, sourceRow]
    simp only [decide_eq_true_eq]

/-- Rows show the lines of a text from a number on, at most so many. -/
structure Excerpt (all : List String) (current start count : Nat) (rows : List Row) : Prop where
  /-- The numbers are consecutive. -/
  numbers : rows.map (·.number) = List.range' start rows.length
  texts : ∀ row ∈ rows, lineAt? all row.number = some row.text
  marked : ∀ row ∈ rows, row.marked ↔ row.number = current
  length : rows.length ≤ count
  /-- No line is missing. -/
  complete : ∀ number, start ≤ number → number < start + count → number < UInt64.size →
    (lineAt? all number).isSome → ∃ row ∈ rows, row.number = number

/-- A row has the number of its line, and a mark if that is the current one. -/
theorem mem_rows_iff {current start : Nat} {lines : List String} {row : Row} :
    row ∈ rows current start lines ↔ ∃ i, lines[i]? = some row.text ∧
      row.number = start + i ∧ row.marked = decide (row.number = current) := by
  rw [rows, List.mem_iff_getElem?]
  refine exists_congr fun i => ?_
  rw [List.getElem?_mapIdx, Option.map_eq_some_iff]
  constructor
  · rintro ⟨text, htext, rfl⟩
    exact ⟨htext, rfl, rfl⟩
  · rintro ⟨htext, hnumber, hmarked⟩
    obtain ⟨marked, number, text⟩ := row
    dsimp only at htext hnumber hmarked
    exact ⟨text, htext, by rw [hmarked, hnumber]⟩

/-- **Rows made of what is cut out have the numbers of their lines.** -/
theorem excerpt_rows {start : Nat} (hstart : 1 ≤ start) (all : List String) (current count : Nat) :
    Excerpt all current start count (rows current start (window all start count)) where
  numbers := by
    refine List.ext_getElem (by simp) fun i hi _ => ?_
    simp [rows]
  texts row hrow := by
    obtain ⟨i, htext, hnumber, -⟩ := mem_rows_iff.1 hrow
    rw [getElem?_window, max_eq_left hstart] at htext
    split_ifs at htext
    rw [hnumber, htext]
  marked row hrow := by
    obtain ⟨i, -, -, hmarked⟩ := mem_rows_iff.1 hrow
    rw [hmarked, decide_eq_true_iff]
  length := by
    rw [rows, List.length_mapIdx]
    exact length_window_le all start count
  complete number hle hlt hword hline := by
    obtain ⟨i, rfl⟩ := Nat.exists_eq_add_of_le hle
    obtain ⟨text, htext⟩ := Option.isSome_iff_exists.1 hline
    have hwindow : (window all start count)[i]? = some text := by
      rw [getElem?_window, max_eq_left hstart, if_pos ⟨by omega, hword⟩, htext]
    exact ⟨⟨decide (start + i = current), start + i, text⟩,
      mem_rows_iff.2 ⟨i, hwindow, rfl, rfl⟩, rfl⟩

section Excerpt

variable {all : List String} {current start count : Nat} {rows : List Row}

/-- There are no rows if and only if there are no lines. -/
theorem Excerpt.eq_nil_iff (h : Excerpt all current start count rows) (hstart : 1 ≤ start)
    (hword : start < UInt64.size) :
    rows = [] ↔ ∀ number, start ≤ number → number < start + count → lineAt? all number = none := by
  constructor
  · rintro rfl number hle hlt
    by_contra hline
    -- the first line of the window would be there, too
    have hsome := lineAt?_isSome_iff.1 (Option.isSome_iff_ne_none.2 hline)
    obtain ⟨row, hrow, -⟩ := h.complete start le_rfl (by omega) hword
      (lineAt?_isSome_iff.2 ⟨hstart, by omega⟩)
    exact List.not_mem_nil hrow
  · intro hnone
    rw [List.eq_nil_iff_forall_not_mem]
    intro row hrow
    have hnumber : row.number ∈ List.range' start rows.length :=
      h.numbers ▸ List.mem_map_of_mem hrow
    obtain ⟨hle, hlt⟩ := List.mem_range'_1.1 hnumber
    have htext := h.texts row hrow
    rw [hnone row.number hle (by have := h.length; omega)] at htext
    cases htext

/-- There is one marked row if the current line is in the window. -/
theorem Excerpt.countP_marked (h : Excerpt all current start count rows) (hle : start ≤ current)
    (hlt : current < start + count) (hword : current < UInt64.size)
    (hline : (lineAt? all current).isSome) : rows.countP (·.marked) = 1 := by
  obtain ⟨row, hrow, hnumber⟩ := h.complete current hle hlt hword hline
  have hcount : rows.countP (·.marked) = (rows.map (·.number)).count current := by
    rw [List.count, List.countP_map]
    refine List.countP_congr fun row hrow => ?_
    rw [h.marked row hrow]
    simp
  have hmem : current ∈ rows.map (·.number) := hnumber ▸ List.mem_map_of_mem hrow
  rw [hcount]
  rw [h.numbers] at hmem ⊢
  exact List.count_eq_one_of_mem List.nodup_range' hmem

end Excerpt

/-! ### The command -/

/-- No listing starts before line 1. -/
theorem one_le_listStart (current count : Nat) : 1 ≤ listStart current count := le_max_right _ _

/-- What is listed around a line begins at most at that line, and ends behind it. -/
theorem listStart_spec {current count : Nat} (hcurrent : 1 ≤ current) (hcount : 1 ≤ count) :
    listStart current count ≤ current ∧ current < listStart current count + count := by
  unfold listStart
  omega

/-- A row is never taken for the notice that there are none. -/
theorem Row.print_ne (row : Row) : row.print ≠ "No source lines in range" := by
  intro h
  have hfirst := congrArg (·.toList.head?) h
  cases hmarked : row.marked <;> simp [Row.print, hmarked] at hfirst

/-- The first line that `list` is asked for. -/
def IsStart (count : Nat) (args : List String) (current start : Nat) : Prop :=
  args = [] ∧ start = listStart current count ∨
    ∃ given, args.head?.bind Text.uint64? = some given ∧ start = max given.toNat 1

/-- What `list` writes about the lines of a source. -/
structure Lists (count : Nat) (args : List String) (current : Nat) (all : List String) (start : Nat)
    (rows : List Row) (written : List String) : Prop where
  isStart : IsStart count args current start
  excerpt : Excerpt all current start count rows
  printed : written = if rows = [] then ["No source lines in range"] else rows.map Row.print
  none_iff : "No source lines in range" ∈ written ↔
    ∀ number, start ≤ number → number < start + count → lineAt? all number = none
  marked : args = [] → 1 ≤ count → (lineAt? all current).isSome → rows.countP (·.marked) = 1

/-- A window with one row per line is a listing as it should be. -/
theorem lists_rows {count : Nat} {args : List String} {current start : Nat}
    (hcurrent : current < UInt64.size) (hstart : IsStart count args current start)
    (all : List String) :
    let shown := rows current start (window all start count)
    Lists count args current all start shown
      (if shown = [] then ["No source lines in range"] else shown.map Row.print) := by
  intro shown
  have hfirst : 1 ≤ start ∧ start < UInt64.size := by
    rcases hstart with ⟨-, rfl⟩ | ⟨given, -, rfl⟩
    · refine ⟨one_le_listStart .., ?_⟩
      unfold listStart
      have : 1 < UInt64.size := by decide
      omega
    · exact ⟨le_max_right _ _, max_lt given.toNat_lt (by decide)⟩
  have hexcerpt : Excerpt all current start count shown := excerpt_rows hfirst.1 all current count
  refine ⟨hstart, hexcerpt, rfl, ?_, fun hargs hcount hline => ?_⟩
  · rw [← hexcerpt.eq_nil_iff hfirst.1 hfirst.2]
    split_ifs with hnil
    · simp [hnil]
    · simp only [List.mem_map, hnil, iff_false, not_exists, not_and]
      exact fun row _ => row.print_ne
  · obtain ⟨-, rfl⟩ | ⟨given, hgiven, -⟩ := hstart
    · obtain ⟨hle, hlt⟩ := listStart_spec (lineAt?_isSome_iff.1 hline).1 hcount
      exact hexcerpt.countP_marked hle hlt hcurrent hline
    · rw [hargs] at hgiven
      cases hgiven

variable [Environment σ]

open Debugger

/-- Lines that are shown from a start on, and how they are written. -/
theorem showLines_apply {source : Source} {current start count : Nat} {d d' : Debugger σ}
    (hrun : (do
      let lines ← sourceLines source start count
      if lines.isEmpty then sayAll ["No source lines in range"]
      else sayAll (sourceRows current start lines) : Action σ Unit) d = (.ok (), d')) :
    let shown := rows current start (window (linesOfSource source d) start count)
    d'.console = (if shown = [] then ["No source lines in range"]
      else shown.map Row.print).foldl (fun console line => console.writeLine line) d.console := by
  intro shown
  have hquiet : Quiet d (sourceLines source start count d).2 := within_sourceLines _ _ _ d
  rw [Action.bind_apply] at hrun
  rcases hlines : sourceLines source start count d with ⟨e | lines, d₁⟩ <;>
    rw [hlines] at hrun hquiet
  · cases hrun
  obtain ⟨rfl, -⟩ := sourceLines_spec hlines
  have hempty : shown = [] ↔ (window (linesOfSource source d) start count).isEmpty := by
    rw [List.isEmpty_iff]
    exact List.mapIdx_eq_nil_iff
  have hsaid := hquiet.console
  dsimp only at hrun hsaid
  simp only [hempty]
  split_ifs at hrun ⊢ with hnone
  · rw [sayAll_apply] at hrun
    rw [← (Prod.mk.inj hrun).2, hsaid]
  · rw [sayAll_apply] at hrun
    rw [← (Prod.mk.inj hrun).2, hsaid, map_print_rows]

/-- **`list` numbers lines correctly.**  What it writes are rows with consecutive numbers and the
lines that have these numbers, the current one marked. -/
theorem list_numbered {count : Nat} {args : List String} {d d' : Debugger σ}
    (hrun : (list count).run args d = (.ok (), d')) :
    ∃ frame source start shown written, (currentFrame d).1 = .ok (some frame) ∧
      frame.source = some source ∧
      Lists count args frame.line.toNat (linesOfSource source (currentFrame d).2) start shown
        written ∧
      d'.console = written.foldl (fun console line => console.writeLine line) d.console := by
  have hquiet : Quiet d (currentFrame d).2 := within_currentFrame d
  unfold list at hrun
  dsimp only at hrun
  rw [Action.bind_apply] at hrun
  rcases hframe : currentFrame d with ⟨e | _ | frame, d₁⟩ <;> rw [hframe] at hrun hquiet
  · cases hrun
  · cases hrun
  dsimp only at hrun
  cases hsource : frame.source with
  | none =>
    rw [hsource] at hrun
    cases hrun
  | some source =>
    rw [hsource] at hrun
    dsimp only at hrun
    have hshow : ∃ start, IsStart count args frame.line.toNat start ∧ (do
        let lines ← sourceLines source start count
        if lines.isEmpty then sayAll ["No source lines in range"]
        else sayAll (sourceRows frame.line.toNat start lines) : Action σ Unit) d₁ =
          (.ok (), d') := by
      split_ifs at hrun with hargs
      · exact ⟨_, .inl ⟨List.isEmpty_iff.1 hargs, rfl⟩, hrun⟩
      · rw [Action.bind_apply, argument_apply] at hrun
        cases hgiven : args.head?.bind Text.uint64? with
        | none =>
          rw [hgiven] at hrun
          cases hrun
        | some given =>
          rw [hgiven] at hrun
          exact ⟨_, .inr ⟨given, hgiven, rfl⟩, hrun⟩
    obtain ⟨start, hstart, hrun⟩ := hshow
    have hcurrent : frame.line.toNat < UInt64.size := lt_trans frame.line.toNat_lt (by decide)
    exact ⟨frame, source, start, _, _, rfl, hsource, lists_rows hcurrent hstart _,
      (showLines_apply hrun).trans (by rw [hquiet.console])⟩

end Builtin

open Debugger

/-- A launched program that stops in a line of a file. -/
def Script.listing : Script where
  frames := [Json.object [("id", .int 11), ("name", "main"),
    ("source", Json.object [("path", "/a.c")]), ("line", .int 2), ("column", .int 1)]]
  files := { files := [(["a.c"], Utf8.encode "one\ntwo\nthree\n")] }

/-- Lines that are listed around the current one. -/
theorem Builtin.list_numbered_scripted :
    let d := (Move.steps Script.standing [] (Script.rehearse Script.listing)).2
    ∃ d', (Builtin.list 2).run [] d = (.ok (), d') ∧
      d'.console = ["      1 | one", "->    2 | two"].foldl
        (fun console line => console.writeLine line) d.console ∧
      ∃ frame source start shown written, (currentFrame d).1 = .ok (some frame) ∧
        frame.source = some source ∧
        Lists 2 [] frame.line.toNat (linesOfSource source (currentFrame d).2) start shown written ∧
        d'.console = written.foldl (fun console line => console.writeLine line) d.console := by
  intro d
  have hdone : ((Builtin.list 2).run [] d).1.toOption = some () := by decide +kernel
  rcases hrun : (Builtin.list 2).run [] d with ⟨e | _, d'⟩ <;> rw [hrun] at hdone
  · cases hdone
  have hsaid : ((Builtin.list 2).run [] d).2.console = ["      1 | one", "->    2 | two"].foldl
      (fun console line => console.writeLine line) d.console := by decide +kernel
  rw [hrun] at hsaid
  exact ⟨d', rfl, hsaid, list_numbered hrun⟩

end DebugConsole
