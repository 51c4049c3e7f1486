/-
# Both ends of a pipe read each other's frames

A debugger and a simulated adapter each have a way of their own to read frames and to write them:

| | the debugger | the simulated adapter |
| --- | --- | --- |
| blanks around a header line | belong to the line | do not matter |
| a line without a colon, a value that is no length | refused | passed over |
| a block without a length, a body that is no JSON | refused | passed over |
| the end of the stream | a crash | nothing more to do |

On frames that either of them has written the two agree, whatever the messages are: each reads what
the other wrote, message by message and then the end.
-/

import DebugConsole.Adapter.Simulated
import DebugConsole.Proofs.Framing

namespace DebugConsole
namespace Simulation

variable {length? : Option Nat} {rest : List UInt8}

/-- What reading again and again finds in these bytes, up to a limit: value by value, and none where
nothing more comes. -/
def inputs : Nat → List UInt8 → List (Option Json)
  | 0, _ => []
  | limit + 1, bytes =>
    match read bytes with
    | .exhausted => [none]
    | .impossible => []
    | .message value rest => some value :: inputs limit rest

/-! ### Lines -/

/-- How reading goes on behind an empty line. -/
def proceed (length? : Option Nat) (rest : List UInt8) : Input :=
  match length? with
  | none => scan 0 [] none rest
  | some n =>
    if maxBody < n then .impossible
    else if rest.length < n then .exhausted
    else
      match value? (rest.take n) with
      | some value => .message value (rest.drop n)
      | none => scan n [] none rest

/-- How reading goes on behind a line feed. -/
def afterLine (length? : Option Nat) (rest : List UInt8) : Except Utf8.Flaw String → Input
  | .error _ => .exhausted
  | .ok text =>
    if isBlankLine text then proceed length? rest
    else scan 0 [] (noteHeader length? (Text.trimChars text.toList)) rest

/-- Bytes are collected up to the end of their line. -/
theorem scan_cons {byte : UInt8} {line : List UInt8} :
    scan 0 line length? (byte :: rest) =
      if byte = 0x0A then afterLine length? rest (Utf8.decode (byte :: line).reverse)
      else scan 0 (byte :: line) length? rest := by
  rw [scan.eq_def]
  by_cases hfeed : byte = 0x0A
  · simp only [if_pos hfeed]
    cases Utf8.decode (byte :: line).reverse with
    | error flaw => rfl
    | ok text =>
      simp only [afterLine, Bool.not_eq_true', proceed]
      cases isBlankLine text <;> rfl
  · simp only [if_neg hfeed]

/-- Bytes without a line feed among them belong to the line that has begun. -/
theorem scan_append {bytes line : List UInt8} (h : 0x0A ∉ bytes) :
    scan 0 line length? (bytes ++ rest) = scan 0 (bytes.reverse ++ line) length? rest := by
  induction bytes generalizing line with
  | nil => rfl
  | cons byte bytes ih =>
    have hbyte : byte ≠ 0x0A := fun heq => h (heq ▸ List.mem_cons_self)
    have hbytes : 0x0A ∉ bytes := fun hmem => h (List.mem_cons_of_mem _ hmem)
    rw [List.cons_append, scan_cons, if_neg hbyte, ih hbytes, List.reverse_cons, List.append_assoc,
      List.singleton_append]

/-- A line up to its line feed is read as a whole. -/
theorem scan_feed {line : String} (hfeed : '\n' ∉ line.toList) :
    scan 0 [] length? (Utf8.encode (line ++ "\n") ++ rest) =
      afterLine length? rest (.ok (line ++ "\n")) := by
  have hbyte : Utf8.encode "\n" = [0x0A] := rfl
  have hread : Utf8.decode (Utf8.encode line ++ [0x0A]) = .ok (line ++ "\n") := by
    rw [← hbyte, ← Utf8.encode_append, Utf8.decode_encode]
  rw [Utf8.encode_append, hbyte, List.append_assoc, scan_append (Utf8.lineFeed_notMem_encode hfeed),
    List.append_nil, List.singleton_append, scan_cons, if_pos rfl, List.reverse_cons,
    List.reverse_reverse, hread]

/-- The empty line ends the header block. -/
theorem scan_blank :
    scan 0 [] length? (Utf8.encode "\r\n" ++ rest) = proceed length? rest := by
  have hline : "\r\n" = "\r" ++ "\n" := rfl
  have hblank : isBlankLine ("\r" ++ "\n") = true := by decide
  rw [hline, scan_feed (by decide), afterLine, if_pos hblank]

/-- The line that says how long the text is, without its end. -/
theorem trimChars_lengthLine (n : Nat) :
    Text.trimChars ("Content-Length: " ++ toString n ++ "\r" ++ "\n").toList =
      "Content-Length: ".toList ++ Nat.toDigits 10 n := by
  have hfirst : ∀ c ∈ ("Content-Length: ".toList ++ Nat.toDigits 10 n).head?,
      Text.isBlank c = false := by
    rintro c ⟨⟩
    decide
  have hlast : ∀ c ∈ ("Content-Length: ".toList ++ Nat.toDigits 10 n).getLast?,
      Text.isBlank c = false := by
    rw [List.getLast?_append_of_ne_nil _ Nat.toDigits_ne_nil]
    intro c hc
    exact Text.isBlank_of_isDigit (Text.isDigit_of_mem_toDigits (List.mem_of_mem_getLast? hc))
  have htrim : Text.trimChars
      ([] ++ ("Content-Length: ".toList ++ Nat.toDigits 10 n) ++ ['\r', '\n']) =
        "Content-Length: ".toList ++ Nat.toDigits 10 n :=
    Text.trimChars_append (fun _ => nofun) hfirst hlast (List.all_eq_true.1 rfl)
  rw [← Frame.append_lineEnd, String.toList_append, Frame.toList_lengthLine]
  exact htrim

/-- The length that is noted is the one that was written. -/
theorem noteHeader_lengthLine {n : Nat} (h : n < UInt64.size) :
    noteHeader length? ("Content-Length: ".toList ++ Nat.toDigits 10 n) = some n := by
  have hvalue : Nat.ofDigitChars 10 (Nat.toDigits 10 n) 0 = n := Nat.ofDigitChars_ten_toDigits
  rw [Frame.lengthLine_eq, noteHeader, Text.span_separator (by decide)]
  dsimp only
  rw [if_pos Frame.lengthName_eq, Frame.uint64?_trimChars_digits Nat.toDigits_ne_nil
    (fun _ => Text.isDigit_of_mem_toDigits) (by rwa [hvalue]), hvalue, Option.map_some,
    UInt64.toNat_ofNat_of_lt' h]

/-- The line that says how long the text is. -/
theorem scan_length {n : Nat} (h : n < UInt64.size) :
    scan 0 [] length? (Utf8.encode ("Content-Length: " ++ toString n ++ "\r\n") ++ rest) =
      scan 0 [] (some n) rest := by
  have hvisible : ¬ isBlankLine ("Content-Length: " ++ toString n ++ "\r" ++ "\n") := by
    rw [isBlankLine, trimChars_lengthLine]
    exact Bool.false_ne_true
  have hfeed := Frame.feed_notMem_append_return fun _ => Frame.isLineEnd_lengthLine (n := n)
  rw [Frame.append_lineEnd, scan_feed hfeed, afterLine, if_neg hvisible, trimChars_lengthLine,
    noteHeader_lengthLine h]

/-! ### Messages -/

/-- The bytes of a value's text are a body of that length. -/
theorem proceed_encode {value : Json} (hsize : Utf8.size value.print ≤ maxBody)
    (hparse : Json.parse value.print = some value) :
    proceed (some (Utf8.size value.print)) (Utf8.encode value.print ++ rest) =
      .message value rest := by
  have hlength := Utf8.length_encode value.print
  have hlong : ¬ (Utf8.encode value.print ++ rest).length < Utf8.size value.print := by
    rw [List.length_append]
    omega
  have hvalue : value? (Utf8.encode value.print) = some value := by
    rw [value?, Utf8.decode_encode]
    exact hparse
  simp only [proceed]
  rw [if_neg (Nat.not_lt.2 hsize), if_neg hlong, List.take_left' hlength, List.drop_left' hlength,
    hvalue]

/-- The debugger's frame for a value's text is read as that value. -/
theorem read_write_append {value : Json} (hsize : Utf8.size value.print ≤ Frame.maxLength)
    (hparse : Json.parse value.print = some value) :
    read (Frame.write value.print ++ rest) = .message value rest := by
  have hlt : Utf8.size value.print < UInt64.size := Nat.lt_of_le_of_lt hsize (by decide)
  rw [read, Frame.write_eq, List.append_assoc, List.append_assoc, scan_length hlt, scan_blank,
    proceed_encode (Nat.le_trans hsize (by decide)) hparse]

/-- Messages that the debugger writes are read by the simulation one by one. -/
theorem inputs_flatMap_write {values : List Json}
    (h : ∀ value ∈ values, Utf8.size value.print ≤ Frame.maxLength ∧
      Json.parse value.print = some value) (limit : Nat) :
    inputs limit (values.flatMap fun value => Frame.write value.print) =
      (values.map some ++ [none]).take limit := by
  induction values generalizing limit with
  | nil =>
    cases limit with
    | zero => rfl
    | succ limit =>
      rw [List.map_nil, List.nil_append, List.take_succ_cons, List.take_nil]
      rfl
  | cons value values ih =>
    cases limit with
    | zero => rfl
    | succ limit =>
      obtain ⟨hsize, hparse⟩ := h value List.mem_cons_self
      have hvalues := ih (fun value hmem => h value (List.mem_cons_of_mem _ hmem)) limit
      rw [List.flatMap_cons, inputs, read_write_append hsize hparse]
      simp only [hvalues, List.map_cons, List.cons_append, List.take_succ_cons]

/-- The adapter's frames are the debugger's. -/
theorem send_eq_write (value : Json) : send value = Frame.write value.print := rfl

/-- **The two ends understand each other.**  The debugger reads the frames that the adapter sends
for some values as their texts, in order, and then finds the stream at its end.  The adapter reads
the frames that the debugger writes for these texts as the values, in order, and then nothing, if
each text is parsed to the value that it was printed for. -/
theorem framings_agree :
    (∀ values : List Json, (∀ value ∈ values, Utf8.size value.print ≤ Frame.maxLength) → ∀ limit,
      Frame.results limit (values.flatMap send) =
        (values.map (fun value : Json => Except.ok value.print) ++
          [Except.error Error.adapterCrashed]).take limit) ∧
    ∀ values : List Json, (∀ value ∈ values, Utf8.size value.print ≤ Frame.maxLength ∧
      Json.parse value.print = some value) → ∀ limit,
      inputs limit (values.flatMap fun value => Frame.write value.print) =
        (values.map some ++ [none]).take limit := by
  refine ⟨fun values h limit => ?_, fun _ => inputs_flatMap_write⟩
  have htexts : ∀ text ∈ values.map Json.print, Utf8.size text ≤ Frame.maxLength := by
    intro text hmem
    obtain ⟨value, hvalue, rfl⟩ := List.mem_map.1 hmem
    exact h value hvalue
  have hframes : values.flatMap send = (values.map Json.print).flatMap Frame.write := by
    rw [List.flatMap_map, funext send_eq_write]
  rw [hframes, Frame.results_flatMap_write htexts, List.map_map]
  rfl

/-- An object whose member looks like a header block, a text of more bytes than characters, and no
value at all. -/
def lookalikes : List Json := [.obj [("text", "Content-Length: 1\r\n\r\n")], "λ", .null]

theorem framings_agree_lookalikes :
    (∀ value ∈ lookalikes, Utf8.size value.print ≤ Frame.maxLength ∧
      Json.parse value.print = some value) ∧
    Frame.results 4 (lookalikes.flatMap send) =
      (lookalikes.map (fun value : Json => Except.ok value.print) ++
        [Except.error Error.adapterCrashed]).take 4 ∧
    inputs 3 (lookalikes.flatMap fun value => Frame.write value.print) =
      (lookalikes.map some ++ [none]).take 3 := by
  have hlookalikes : ∀ value ∈ lookalikes, Utf8.size value.print ≤ Frame.maxLength ∧
      Json.parse value.print = some value := by
    intro value hmem
    simp only [lookalikes, List.mem_cons, List.not_mem_nil, or_false] at hmem
    rcases hmem with rfl | rfl | rfl <;> exact ⟨by decide +kernel, by cbv⟩
  exact ⟨hlookalikes, framings_agree.1 lookalikes (fun value hmem => (hlookalikes value hmem).1) 4,
    framings_agree.2 lookalikes hlookalikes 3⟩

end Simulation
end DebugConsole
