/-
# The status with which a program exits

An adapter tells the status in the body of an `exited` event, as a number of any size.  The body is
read as a signed 32-bit word, and where that fails the program counts as one that succeeded:

| status told | shown |
| --- | --- |
| from `-2^31` to `2^31 - 1` | the status |
| any other number | 0 |

What follows, the next start of the target or the end of the host, adds to the console and never
takes back what it shows.
-/

import DebugConsole.Proofs.Run
import DebugConsole.Proofs.Decoding
import Mathlib.Data.String.Basic

namespace DebugConsole

open Protocol

variable {σ : Type}

/-! ### Reading the status -/

/-- Only the exit code matters, and it must be a 32-bit word. -/
theorem Protocol.ExitedBody.ofJson?_of_exitCode {fields : Json.Fields} {value : Json}
    (h : Json.Fields.find? "exitCode" fields = some value) :
    ofJson? (.obj fields) = value.int32?.map ExitedBody.mk := by
  rw [ofJson?, Reader.decode, Reader.bind_apply, Reader.required_named h]
  cases value.int32? <;> rfl

/-- A status that is no signed 32-bit word counts as 0. -/
theorem Protocol.Event.ofNamed_exited {fields : Json.Fields} {n : Int}
    (h : Json.Fields.find? "exitCode" fields = some (.int n)) :
    ∃ body : ExitedBody, ofNamed "exited" (some (.obj fields)) = .exited body ∧
      body.exitCode.toInt = if -0x80000000 ≤ n ∧ n < 0x80000000 then n else 0 := by
  refine ⟨((ExitedBody.ofJson? (.obj fields)).getD { exitCode := 0 }), rfl, ?_⟩
  rw [ExitedBody.ofJson?_of_exitCode h, Json.int32?]
  split_ifs with hword
  · exact Int32.toInt_ofInt_of_le hword.1 hword.2
  · rfl

/-! ### Telling lines apart -/

/-- A number is written on one line. -/
theorem newline_notMem_toString (n : Int) : '\n' ∉ (toString n).toList := by
  have hdigits (n : Nat) : '\n' ∉ (toString n).toList := fun hmem => by
    rw [Text.toList_toString] at hmem
    exact absurd (Nat.isDigit_of_mem_toDigits (by decide) (by decide) hmem) (by decide)
  cases n with
  | ofNat n => exact hdigits n
  | negSucc n =>
    show '\n' ∉ ("-" ++ toString (n + 1)).toList
    rw [String.toList_append, List.mem_append, not_or]
    exact ⟨by decide, hdigits (n + 1)⟩

/-- Only zero is written as `0`. -/
theorem eq_zero_of_toString_eq {n : Int} (h : toString n = "0") : n = 0 := by
  cases n with
  | ofNat n =>
    have hread : Text.natural? (toString n) = Text.natural? (toString 0) := congrArg _ h
    rw [Text.natural?_toString, Text.natural?_toString] at hread
    rw [Option.some.inj hread]
    rfl
  | negSucc n =>
    have hsign : "-" ++ toString (n + 1) = "0" := h
    have hfirst : some '-' = some '0' := by
      have hchars := congrArg (·.toList.head?) hsign
      rwa [String.toList_append] at hchars
    exact absurd hfirst (by decide)

namespace Debugger

/-- The next line on the console is this one. -/
def Prints (line : String) (d d' : Debugger σ) : Prop :=
  ∃ rest, d'.console.text = (d.console.writeLine line).text ++ rest

/-- There is one next line, so it has one number behind the same words. -/
theorem toString_eq_of_prints {words : String} {n m : Int} {d d' : Debugger σ}
    (hn : Prints (words ++ toString n) d d') (hm : Prints (words ++ toString m) d d') :
    toString n = toString m := by
  obtain ⟨rest, hrest⟩ := hn
  obtain ⟨rest', hrest'⟩ := hm
  have hline (n : Int) (rest : String) :
      ((d.console.writeLine (words ++ toString n)).text ++ rest).toList =
        (d.console.text ++ words).toList ++ ((toString n).toList ++ '\n' :: rest.toList) := by
    have hend : "\n".toList = ['\n'] := rfl
    simp only [Console.writeLine, Console.text_write, String.toList_append, List.append_assoc, hend,
      List.singleton_append]
  have hnumber (n : Int) (rest : List Char) :
      ((toString n).toList ++ '\n' :: rest).takeWhile (· ≠ '\n') = (toString n).toList := by
    have hall : ∀ c ∈ (toString n).toList, decide (c ≠ '\n') = true := fun c hc =>
      decide_eq_true (ne_of_mem_of_not_mem hc (newline_notMem_toString n))
    rw [List.takeWhile_append_of_pos hall, List.takeWhile_cons_of_neg (by decide), List.append_nil]
  have heq := congrArg String.toList (hrest.symm.trans hrest')
  rw [hline, hline] at heq
  have hdigits := congrArg (List.takeWhile (· ≠ '\n')) (List.append_cancel_left heq)
  rwa [hnumber, hnumber, String.toList_inj] at hdigits

variable [Environment σ]

/-! ### Showing the status -/

/-- What the end of a target leads to only adds to the console. -/
theorem exists_text_onTargetGone (d : Debugger σ) :
    ∃ added, (onTargetGone d).2.console.text = d.console.text ++ added := by
  rcases onTargetGone_cases d with ⟨-, heq⟩ | ⟨-, heq⟩ | ⟨htarget, -, added, heq⟩ <;> rw [heq]
  · exact ⟨"", String.append_empty.symm⟩
  · exact ⟨"", String.append_empty.symm⟩
  · refine ⟨added, ?_⟩
    rw [(relaunch_spec htarget).console]
    rfl

/-- The status that is printed is the one that was read. -/
theorem prints_status {d : Debugger σ} {connection : Nat} (hopen : d.isOpen connection)
    (body : ExitedBody) : Prints ("Target exited with status " ++ toString body.exitCode.toInt) d
      (handle (.event connection (.exited body)) d).2 := by
  have hopen' : d.isOpen (Signal.event connection (.exited body)).generation := hopen
  rw [handle_apply, if_pos hopen']
  show Prints _ d (onEvent (.exited body) d).2
  rw [onEvent_exited]
  exact exists_text_onTargetGone _

/-- What the console says next is the status as it was read. -/
theorem prints_status_of_told {d : Debugger σ} {connection : Nat} (hopen : d.isOpen connection)
    {fields : Json.Fields} {n : Int}
    (htold : Json.Fields.find? "exitCode" fields = some (.int n)) :
    Prints ("Target exited with status " ++
        toString (if -0x80000000 ≤ n ∧ n < 0x80000000 then n else 0)) d
      (handle (.event connection (.ofNamed "exited" (some (.obj fields)))) d).2 := by
  obtain ⟨body, hread, hstatus⟩ := Event.ofNamed_exited htold
  rw [hread, ← hstatus]
  exact prints_status hopen body

/-- **The status is shown as it was told if and only if it is a signed 32-bit word**; any other
number is shown as 0, the status of a program that has succeeded. -/
theorem status_truthful_iff {d : Debugger σ} {connection : Nat} (hopen : d.isOpen connection)
    {fields : Json.Fields} {n : Int}
    (htold : Json.Fields.find? "exitCode" fields = some (.int n)) (seq : Int64) (kind : String) :
    let message : EventMessage := { seq, kind, event := "exited", body := some (.obj fields) }
    let after := (handle (.event connection (.ofMessage message)) d).2
    (Prints ("Target exited with status " ++ toString n) d after ↔
        -0x80000000 ≤ n ∧ n < 0x80000000) ∧
      (¬(-0x80000000 ≤ n ∧ n < 0x80000000) →
        Prints ("Target exited with status " ++ toString (0 : Int)) d after) := by
  intro message after
  have hprinted := prints_status_of_told hopen htold
  split_ifs at hprinted with hword
  · exact ⟨iff_of_true hprinted hword, fun h => absurd hword h⟩
  · refine ⟨iff_of_false (fun h => hword ?_) hword, fun _ => hprinted⟩
    rw [eq_zero_of_toString_eq (toString_eq_of_prints h hprinted)]
    decide

/-- A launched program that has crashed, told by a large status, is shown to have succeeded. -/
theorem status_truthful_iff_crashed :
    let d := (Move.steps [.operate (.launch Script.launched)] [] (Script.rehearse {})).2
    let fields : Json.Fields := [("exitCode", .int 0xC0000005)]
    let message : EventMessage := ⟨9, "event", "exited", some (.obj fields)⟩
    d.isOpen 1 ∧ Json.Fields.find? "exitCode" fields = some (.int 0xC0000005) ∧
      Prints ("Target exited with status " ++ toString (0 : Int)) d
        (handle (.event 1 (.ofMessage message)) d).2 := by
  intro d fields message
  have hopen : d.isOpen 1 := by decide +kernel
  exact ⟨hopen, rfl, (status_truthful_iff hopen (n := 0xC0000005) rfl 9 "event").2 (by decide)⟩

/-- The status is not always shown as it was told. -/
theorem status_not_always_truthful :
    ¬∀ (history : List (Step Script)) (d : Debugger Script), Run history d →
      ∀ connection, d.isOpen connection → ∀ (fields : Json.Fields) (n : Int),
        Json.Fields.find? "exitCode" fields = some (.int n) →
        ∀ (seq : Int64) (kind : String),
          Prints ("Target exited with status " ++ toString n) d (handle (.event connection
            (.ofMessage { seq, kind, event := "exited", body := some (.obj fields) })) d).2 := by
  intro h
  let run := Move.steps [.operate (.launch Script.launched)] [] (Script.rehearse {})
  have hrun : Run run.1 run.2 := (Run.start _ _ _).steps _
  have hopen : run.2.isOpen 1 := by decide +kernel
  have htold : Json.Fields.find? "exitCode" [("exitCode", .int 0xC0000005)] =
      some (.int 0xC0000005) := rfl
  have hprinted := h _ _ hrun 1 hopen _ _ htold 9 "event"
  have hshown := prints_status_of_told hopen htold
  exact absurd (eq_zero_of_toString_eq (toString_eq_of_prints hprinted hshown)) (by decide)

end Debugger
end DebugConsole
